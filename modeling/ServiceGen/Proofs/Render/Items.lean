import ServiceGen.Render.Package

/-!
The items of the generated file. The plan of a package has the name of everything that its file
defines: constants, functions, interfaces with their implementations, and what else belongs to the
services. The code that is generated defines items of these names in this order, and nothing else.
-/
namespace ServiceGen

/-- An interface and its hidden implementation. -/
def Interface.items (interface : Interface) : List String :=
  [interface.name, interface.implementation]

def ServicePlan.items : ServicePlan → List String
  | .activity plan => plan.proxy.items ++ [plan.proxyConstructor, plan.controller]
  | .workflow plan =>
    plan.run.items ++ plan.childRun.items ++ plan.externalRun.items ++ plan.client.items ++
      plan.childClient.items ++
      [plan.clientConstructor, plan.childClientConstructor, plan.input.name, plan.factory,
        plan.controller.name]
  | .service plan => [plan.controller]

namespace Gathering

/-- An interface that gathers others, with its implementation and the function that makes it. There
are none of these without something to gather. -/
def itemsOf (type : String) (entries : List GatheredInterface) : List String :=
  if entries.isEmpty then []
  else [type, Naming.implementation type, Naming.constructor type]

def items (gathering : Gathering) : List String :=
  itemsOf "WorkflowClients" gathering.workflowClients ++
    itemsOf "WorkflowProxies" gathering.workflowProxies ++
    itemsOf "ActivityProxies" gathering.activityProxies ++
    if gathering.controllers.isEmpty then [] else ["WorkerController"]

end Gathering

/-- The names of all items of the generated file, in order. -/
def PackagePlan.items (plan : PackagePlan) : List String :=
  plan.constants.map Constant.name ++ plan.signalChannels.map SignalChannel.provider ++
    plan.services.flatMap ServicePlan.items ++ plan.gathering.items

namespace Render

/-- What an item is and what it holds, beside its name. -/
inductive Form where
  | constant (value : String)
  | function (params result body : Code)
  | interface (methods : Code)
  /-- A structure, by its fields in braces or by a semicolon. -/
  | structure (isPublic : Bool) (fields : Code)
  | alias (type : Code)

def Form.code (name : Code) : Form → Code
  | .constant value =>
    Render.code "pub const" ++ name ++ Render.code ": & str =" ++ quoted value ++ Render.code ";"
  | .function params result body =>
    Render.code "pub fn" ++ name ++ parens params ++ Render.code "->" ++ result ++ braces body
  | .interface methods =>
    Render.code "pub trait" ++ name ++ Render.code ": Send + Sync" ++ braces methods
  | .structure isPublic fields =>
    Render.code (if isPublic then "pub struct" else "struct") ++ name ++ fields
  | .alias type => Render.code "pub type" ++ name ++ Render.code "=" ++ type ++ Render.code ";"

/-- Whether a form is complete: a structure has its fields in braces, or none. -/
def Form.IsClosed : Form → Prop
  | .structure _ fields => fields = Render.code ";" ∨ ∃ inner, fields = braces inner
  | _ => True

/-- Whether code is a sequence of items with the given names. An item may have an attribute in front
of it. What implements an interface or the methods of a structure has no name of its own. -/
inductive Defines : Code → List String → Prop where
  | nil : Defines [] []
  | append {front rest : Code} {names others : List String} (hfront : Defines front names)
    (hrest : Defines rest others) : Defines (front ++ rest) (names ++ others)
  | item {text : String} {name : Code} (form : Form) (hname : ident text = .ok name)
    (hclosed : form.IsClosed) : Defines (form.code name) [text]
  | attribute {item : Code} {text : String} (inner : Code) (hitem : Defines item [text]) :
    Defines (code "#" ++ brackets inner ++ item) [text]
  | methods {text : String} {name : Code} (inner : Code) (hname : ident text = .ok name) :
    Defines (code "impl" ++ name ++ braces inner) []
  | implementation {text interface : String} {name interfaceName : Code} (inner : Code)
    (hname : ident text = .ok name) (hinterface : ident interface = .ok interfaceName) :
    Defines (code "impl" ++ interfaceName ++ code "for" ++ name ++ braces inner) []

/-- Whether code, if it can be generated, defines items with the given names. -/
def Emit.Defines (emit : Emit Code) (names : List String) : Prop :=
  ∀ code, emit = .ok code → Render.Defines code names

theorem exists_of_bind {α β : Type} {first : Emit α} {next : α → Emit β} {b : β}
    (hbind : first >>= next = .ok b) : ∃ a, first = .ok a ∧ next a = .ok b := by
  cases first with
  | error error => exact absurd hbind (by simp [Bind.bind, Except.bind])
  | ok a => exact ⟨a, rfl, hbind⟩

namespace Emit.Defines

theorem pure {code : Code} {names : List String} (hcode : Render.Defines code names) :
    Emit.Defines (pure code) names := by
  intro emitted hemitted
  rwa [← Except.ok.inj hemitted]

theorem bind {α : Type} {first : Emit α} {next : α → Emit Code} {names : List String}
    (hnext : ∀ a, first = .ok a → Emit.Defines (next a) names) :
    Emit.Defines (first >>= next) names := by
  intro code hcode
  obtain ⟨a, hfirst, hrest⟩ := exists_of_bind hcode
  exact hnext a hfirst code hrest

end Emit.Defines

/-- What is emitted one after the other defines what each part does. -/
theorem defines_flatten_of_mapM {α : Type} {emit : α → Emit Code} {names : α → List String}
    {list : List α} (heach : ∀ a ∈ list, (emit a).Defines (names a)) {codes : List Code}
    (hcodes : list.mapM emit = .ok codes) : Defines codes.flatten (list.flatMap names) := by
  induction list generalizing codes with
  | nil =>
    rw [List.mapM_nil] at hcodes
    rw [← Except.ok.inj hcodes]
    exact .nil
  | cons a rest ih =>
    rw [List.mapM_cons] at hcodes
    obtain ⟨code, hcode, hmore⟩ := exists_of_bind hcodes
    obtain ⟨others, hothers, hall⟩ := exists_of_bind hmore
    rw [← Except.ok.inj hall, List.flatten_cons, List.flatMap_cons]
    exact .append (heach a List.mem_cons_self code hcode)
      (ih (fun b hb => heach b (List.mem_cons_of_mem _ hb)) hothers)

section Parts

variable {text other : String} {name implementation : Code}

/-- Whether code is an attribute, or nothing. -/
def IsAttribute (lead : Code) : Prop := lead = [] ∨ ∃ inner, lead = code "#" ++ brackets inner

theorem isAttribute_documented (text : String) : IsAttribute (documented text) := .inr ⟨_, rfl⟩

theorem Defines.led {lead item : Code} (hlead : IsAttribute lead) (hitem : Defines item [text]) :
    Defines (lead ++ item) [text] := by
  obtain rfl | ⟨inner, rfl⟩ := hlead
  · exact hitem
  · exact .attribute inner hitem

/-- An interface with its hidden implementation. -/
theorem defines_interface {lead fields : Code} (hlead : IsAttribute lead)
    (hname : ident text = .ok name) (himplementation : ident other = .ok implementation)
    (hfields : (Form.structure false fields).IsClosed) (methods bodies : Code) :
    Defines (lead ++ code "pub trait" ++ name ++ code ": Send + Sync" ++ braces methods ++
      code "struct" ++ implementation ++ fields ++
      code "impl" ++ name ++ code "for" ++ implementation ++ braces bodies) [text, other] := by
  have hinterface := (Defines.item (.interface methods) hname trivial).led hlead
  have hstructure := Defines.item (.structure false fields) himplementation hfields
  have hbodies := Defines.implementation bodies himplementation hname
  have hall := hinterface.append (hstructure.append hbodies)
  simpa only [Form.code, Bool.false_eq_true, if_false, List.append_assoc, List.append_nil,
    List.singleton_append] using hall

/-- An interface with its hidden implementation and the function that makes it. -/
theorem defines_made {third : String} {constructor lead fields : Code} (hlead : IsAttribute lead)
    (hname : ident text = .ok name) (himplementation : ident other = .ok implementation)
    (hconstructor : ident third = .ok constructor)
    (hfields : (Form.structure false fields).IsClosed) (methods bodies params made : Code) :
    Defines (lead ++ code "pub trait" ++ name ++ code ": Send + Sync" ++ braces methods ++
      code "struct" ++ implementation ++ fields ++
      code "impl" ++ name ++ code "for" ++ implementation ++ braces bodies ++
      code "pub fn" ++ constructor ++ parens params ++ code "->" ++ boxed name ++
      braces (code "Box :: new" ++ parens made)) [text, other, third] := by
  have hinterface := defines_interface hlead hname himplementation hfields methods bodies
  have hfunction := Defines.item (.function params (boxed name) (code "Box :: new" ++ parens made))
    hconstructor trivial
  simpa only [Form.code, List.append_assoc, List.cons_append, List.nil_append] using
    hinterface.append hfunction

/-- A structure with its methods. -/
theorem defines_structure {lead : Code} (hlead : IsAttribute lead) (hname : ident text = .ok name)
    (fields methods : Code) :
    Defines (lead ++ code "pub struct" ++ name ++ braces fields ++
      code "impl" ++ name ++ braces methods) [text] := by
  have hstructure := Defines.item (.structure true (braces fields)) hname (.inr ⟨_, rfl⟩)
  have hall := (hstructure.led hlead).append (Defines.methods methods hname)
  simpa only [Form.code, if_true, List.append_assoc, List.append_nil] using hall

end Parts

section Services

variable (context : Context)

theorem proxy_defines (plan : ActivityPlan) :
    (Activity.proxy context plan).Defines (plan.proxy.items ++ [plan.proxyConstructor]) := by
  refine .bind fun interface hinterface => .bind fun implementation himplementation =>
    .bind fun constructor hconstructor => .bind fun methods _ => .pure ?_
  exact defines_made (isAttribute_documented _) hinterface himplementation hconstructor (.inl rfl)
    _ _ _ _

theorem activityController_defines (plan : ActivityPlan) :
    (Activity.controller context plan).Defines [plan.controller] :=
  .bind fun _ _ => .bind fun _ hcontroller => .bind fun _ _ =>
    .pure (defines_structure (isAttribute_documented _) hcontroller _ _)

theorem activity_defines (plan : ActivityPlan) :
    (Activity.render context plan).Defines (ServicePlan.activity plan).items := by
  refine .bind fun proxy hproxy => .bind fun controller hcontroller => .pure ?_
  have hall := (proxy_defines context plan proxy hproxy).append
    (activityController_defines context plan controller hcontroller)
  simpa only [ServicePlan.items, List.append_assoc, List.singleton_append] using hall

theorem httpService_defines (plan : HttpServicePlan) :
    (HttpService.render context plan).Defines (ServicePlan.service plan).items :=
  .bind fun _ _ => .bind fun _ hcontroller => .bind fun _ _ =>
    .pure (defines_structure (isAttribute_documented _) hcontroller _ _)

end Services

namespace Workflow

variable (frame : Frame)

theorem isClosed_fields (role : InterfaceRole) :
    (Form.structure false (fields frame role)).IsClosed := by
  cases role with
  | childClient | activityProxy => exact .inl rfl
  | run | childRun | externalRun | client => exact .inr ⟨_, rfl⟩

theorem interface_defines (plan : Interface) : (interface frame plan).Defines plan.items := by
  refine .bind fun name hname => .bind fun implementation himplementation =>
    .bind fun methods _ => .pure ?_
  exact defines_interface (isAttribute_documented _) hname himplementation
    (isClosed_fields frame plan.role) _ _

theorem constructors_defines :
    (constructors frame).Defines
      [frame.plan.clientConstructor, frame.plan.childClientConstructor] := by
  refine .bind fun client _ => .bind fun clientImplementation _ =>
    .bind fun clientConstructor hclient => .bind fun childClient _ =>
    .bind fun childClientImplementation _ => .bind fun childClientConstructor hchildClient =>
    .pure ?_
  have hfirst := Defines.item (.function (code "client :" ++ frame.lib "client :: Client")
    (boxed client) (code "Box :: new" ++ parens (clientImplementation ++ braces (code "client"))))
    hclient trivial
  have hsecond := Defines.item (.function [] (boxed childClient)
    (code "Box :: new" ++ parens childClientImplementation)) hchildClient trivial
  simpa only [Form.code, List.append_assoc, List.singleton_append] using hfirst.append hsecond

theorem input_defines : (input frame).Defines [frame.plan.input.name] := by
  refine .bind fun input hinput => .bind fun channels _ => .pure ?_
  have hstructure := (Defines.item (.structure true (braces (code "pub request :" ++
    frame.request ++ code "," ++ channels.flatMap (·.1)))) hinput (.inr ⟨_, rfl⟩)).led
      (isAttribute_documented ("Everything a `" ++ frame.plan.service ++
        "` implementation is constructed from."))
  by_cases hchannels : channels.isEmpty = true
  · simpa only [Form.code, if_true, if_pos hchannels, List.append_assoc, List.append_nil]
      using hstructure
  · have hall := hstructure.append (Defines.methods (channels.flatMap (·.2)) hinput)
    simpa only [Form.code, if_true, if_neg hchannels, List.append_assoc, List.append_nil] using hall

theorem factory_defines : (factory frame).Defines [frame.plan.factory] := by
  refine .bind fun service _ => .bind fun factory hfactory => .bind fun input _ => .pure ?_
  have hsplit : code "= :: std :: sync :: Arc < dyn Fn" =
      code "=" ++ code ":: std :: sync :: Arc < dyn Fn" := rfl
  have hend : code "+ Send + Sync >> + Send + Sync , > ;" =
      code "+ Send + Sync >> + Send + Sync , >" ++ code ";" := rfl
  have hitem := Defines.item (.alias (code ":: std :: sync :: Arc < dyn Fn" ++ parens input ++
    code "->" ++ frame.lib "Result < :: std :: sync :: Arc < dyn" ++ service ++
    code "+ Send + Sync >> + Send + Sync , >")) hfactory trivial
  rw [hsplit, hend]
  simpa only [Form.code, List.append_assoc] using hitem

theorem controller_defines : (controller frame).Defines [frame.plan.controller.name] :=
  .bind fun _ hcontroller => .bind fun _ _ => .bind fun _ _ => .bind fun _ _ => .bind fun _ _ =>
    .bind fun _ _ => .bind fun _ _ =>
    .pure (defines_structure (isAttribute_documented _) hcontroller _ _)

theorem plan_of_frame {context : Context} {plan : WorkflowPlan}
    (hframe : Frame.of context plan = .ok frame) : frame.plan = plan := by
  obtain ⟨nameConstant, -, hframe⟩ := exists_of_bind hframe
  obtain ⟨taskQueue, -, hframe⟩ := exists_of_bind hframe
  obtain ⟨request, -, hframe⟩ := exists_of_bind hframe
  obtain ⟨response, -, hframe⟩ := exists_of_bind hframe
  rw [← Except.ok.inj hframe]

theorem render_defines (context : Context) (plan : WorkflowPlan) :
    (render context plan).Defines (ServicePlan.workflow plan).items := by
  refine .bind fun frame hframe => ?_
  obtain rfl := plan_of_frame frame hframe
  refine .bind fun run hrun => .bind fun childRun hchildRun => .bind fun externalRun hexternalRun =>
    .bind fun client hclient => .bind fun childClient hchildClient =>
    .bind fun constructors hconstructors => .bind fun input hinput => .bind fun factory hfactory =>
    .bind fun controller hcontroller => .pure ?_
  have hhandles := ((interface_defines frame _ run hrun).append
    (interface_defines frame _ childRun hchildRun)).append
      (interface_defines frame _ externalRun hexternalRun)
  have hclients := ((interface_defines frame _ client hclient).append
    (interface_defines frame _ childClient hchildClient)).append
      (constructors_defines frame constructors hconstructors)
  have hworker := ((input_defines frame input hinput).append
    (factory_defines frame factory hfactory)).append
      (controller_defines frame controller hcontroller)
  have hall := (hhandles.append hclients).append hworker
  simpa only [ServicePlan.items, List.append_assoc, List.cons_append, List.nil_append] using hall

end Workflow

namespace Package

variable (context : Context)

theorem constant_defines (constant : Constant) :
    (Package.constant constant).Defines [constant.name] :=
  .bind fun _ hname => .pure (.item (.constant constant.value) hname trivial)

theorem signalChannel_defines (channel : SignalChannel) :
    (signalChannel context channel).Defines [channel.provider] := by
  refine .bind fun provider hprovider => .bind fun constant _ => .bind fun request _ => .pure ?_
  have hitem := Defines.item (.function (code "ctx : &" ++ context.lib "workflow :: Context")
    (context.lib "workflow :: SignalChannel <" ++ request ++ code ">")
    (context.lib "workflow :: SignalChannel :: new" ++ parens (code "ctx ," ++ constant)))
    hprovider trivial
  simpa only [Form.code, List.append_assoc] using hitem

theorem service_defines (plan : ServicePlan) : (service context plan).Defines plan.items := by
  cases plan with
  | activity plan => exact activity_defines context plan
  | workflow plan => exact Workflow.render_defines context plan
  | service plan => exact httpService_defines context plan

theorem gathered_defines (type : String) (held : Held) (entries : List GatheredInterface) :
    (gathered context type held entries).Defines (Gathering.itemsOf type entries) := by
  unfold gathered Gathering.itemsOf
  by_cases hentries : entries.isEmpty = true
  · rw [if_pos hentries, if_pos hentries]
    exact .pure .nil
  · rw [if_neg hentries, if_neg hentries]
    refine .bind fun name hname => .bind fun implementation himplementation =>
      .bind fun constructor hconstructor => .bind fun accessors _ => .pure ?_
    have hbare : IsAttribute [] := .inl rfl
    cases held with
    | nothing =>
      exact defines_made hbare hname himplementation hconstructor (.inl rfl) _ _ _ _
    | client =>
      exact defines_made hbare hname himplementation hconstructor (.inr ⟨_, rfl⟩) _ _ _ _

theorem controllers_defines (entries : List GatheredController) :
    (controllers context entries).Defines
      (if entries.isEmpty then [] else ["WorkerController"]) := by
  by_cases hentries : entries.isEmpty = true
  · rw [controllers, if_pos hentries, if_pos hentries]
    exact .pure .nil
  · rw [controllers, if_neg hentries, if_neg hentries]
    refine .bind fun fields _ => .pure ?_
    have hname : ident "WorkerController" = .ok (name "WorkerController") := by
      have hread : Grammar.identifier? "WorkerController" = some "WorkerController" := by
        decide +kernel
      rw [ident, hread]
    exact defines_structure (.inr ⟨_, rfl⟩) hname (fields.flatMap (·.1)) _

theorem gathering_defines (plan : Gathering) : (gathering context plan).Defines plan.items := by
  refine .bind fun clients hclients => .bind fun proxies hproxies =>
    .bind fun activities hactivities => .bind fun controllers hcontrollers => .pure ?_
  exact (((gathered_defines context _ _ _ clients hclients).append
    (gathered_defines context _ _ _ proxies hproxies)).append
      (gathered_defines context _ _ _ activities hactivities)).append
        (controllers_defines context _ controllers hcontrollers)

/-- The code of a package defines the items of its plan. -/
theorem emit_defines (plan : PackagePlan) : (emit context plan).Defines plan.items := by
  refine .bind fun constants hconstants => .bind fun channels hchannels =>
    .bind fun services hservices => .bind fun gathering hgathering => .pure ?_
  have hnames := defines_flatten_of_mapM (fun entry _ => constant_defines entry) hconstants
  have hproviders := defines_flatten_of_mapM
    (fun channel _ => signalChannel_defines context channel) hchannels
  have hitems := defines_flatten_of_mapM (fun plan _ => service_defines context plan) hservices
  rw [← List.map_eq_flatMap] at hnames hproviders
  exact ((hnames.append hproviders).append hitems).append
    (gathering_defines context plan.gathering gathering hgathering)

end Package

end Render

end ServiceGen
