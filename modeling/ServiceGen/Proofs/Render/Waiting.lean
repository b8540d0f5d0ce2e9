import ServiceGen.Proofs.Naming.Ending
import ServiceGen.Proofs.Plan.Fates
import ServiceGen.Proofs.Plan.MethodNames
import ServiceGen.Proofs.Render.Items
import ServiceGen.Proofs.Source.Loading

/-!
Methods that wait. Such a method has no code of its own: it calls the method of the same interface
that does the same without waiting, with all of its own parameters, and waits for what that answers.
The plan makes the name of the other method from the operation, and the body makes it from the name
of the waiting method, which is in snake case already. So the call arrives wherever the snake case
of an operation's name is its own snake case.
-/
namespace ServiceGen

open Render

/-- The kind of the method that a method waits by. -/
def InterfaceRole.awaited? : InterfaceRole → MethodKind → Option MethodKind
  | .activityProxy, .call => some .callAsync
  | .run, .update => some .updateAsync
  | .childRun, .signal => some .signalAsync
  | .externalRun, .signal => some .signalAsync
  | .childClient, .execute => some .executeAsync
  | _, _ => none

theorem InterfaceRole.cases_of_awaited? {role : InterfaceRole} {kind other : MethodKind}
    (hawaited : role.awaited? kind = some other) :
    (role = .activityProxy ∧ kind = .call ∧ other = .callAsync) ∨
      (role = .run ∧ kind = .update ∧ other = .updateAsync) ∨
      (role = .childRun ∧ kind = .signal ∧ other = .signalAsync) ∨
      (role = .externalRun ∧ kind = .signal ∧ other = .signalAsync) ∨
      (role = .childClient ∧ kind = .execute ∧ other = .executeAsync) := by
  unfold awaited? at hawaited
  split at hawaited <;> simp_all

/-- That a method can wait by another one: it does the same, and has the name that is called. -/
structure MethodPlan.Awaits (method other : MethodPlan) : Prop where
  constant : other.constant = method.constant
  named : method.constant.isSome = true
  request : other.request = method.request
  called : other.name = Naming.asyncMethod method.name

/-- Whether all operations of a service that are generated have names whose snake case is its own
snake case. -/
def Service.HasStableNames (service : Service) : Prop :=
  ∀ operation ∈ Plan.generated service,
    Naming.snake (Naming.snake operation.name) = Naming.snake operation.name

theorem Service.hasStableNames_of_settled {service : Service}
    (hsettled : ∀ operation ∈ service.operations, Naming.IsSettled operation.name) :
    service.HasStableNames := by
  intro operation hoperation
  rw [Plan.generated_eq] at hoperation
  exact Naming.snake_snake (hsettled operation (List.mem_of_mem_filter hoperation))

namespace Plan

open Convention

/-- Whether each method of a list that waits has the other one in the list. -/
def Attended (role : InterfaceRole) (methods : List MethodPlan) : Prop :=
  ∀ method ∈ methods, ∀ kind, role.awaited? method.kind = some kind →
    ∃ other ∈ methods, other.kind = kind ∧ method.Awaits other

namespace Attended

variable {role : InterfaceRole}

theorem of_none {methods : List MethodPlan}
    (hnone : ∀ method ∈ methods, role.awaited? method.kind = none) : Attended role methods :=
  fun method hmethod kind hkind => absurd hkind (by simp [hnone method hmethod])

theorem append {first second : List MethodPlan} (hfirst : Attended role first)
    (hsecond : Attended role second) : Attended role (first ++ second) := by
  intro method hmethod kind hkind
  obtain hmethod | hmethod := List.mem_append.mp hmethod
  · obtain ⟨other, hother, h⟩ := hfirst method hmethod kind hkind
    exact ⟨other, List.mem_append_left _ hother, h⟩
  · obtain ⟨other, hother, h⟩ := hsecond method hmethod kind hkind
    exact ⟨other, List.mem_append_right _ hother, h⟩

theorem flatMap {operations : List Operation} {produced : Operation → List MethodPlan}
    (hproduced : ∀ operation ∈ operations, Attended role (produced operation)) :
    Attended role (operations.flatMap produced) := by
  intro method hmethod kind hkind
  obtain ⟨operation, hoperation, hmethod⟩ := List.mem_flatMap.mp hmethod
  obtain ⟨other, hother, h⟩ := hproduced operation hoperation method hmethod kind hkind
  exact ⟨other, List.mem_flatMap.mpr ⟨operation, hoperation, hother⟩, h⟩

/-- A method and the one that it waits by. -/
theorem pair {constant name called first second : String} {request : Option String}
    {kind other : MethodKind} (hcalled : called = Naming.asyncMethod name)
    (hkind : role.awaited? kind = some other) (hother : role.awaited? other = none) :
    Attended role [.calling constant name kind request first,
      .calling constant called other request second] := by
  have hawaits : (MethodPlan.calling constant name kind request first).Awaits
      (.calling constant called other request second) :=
    { constant := rfl, named := rfl, request := rfl, called := hcalled }
  intro method hmethod found hfound
  obtain hmethod | hmethod := List.mem_cons.mp hmethod
  · subst hmethod
    exact ⟨_, List.mem_cons_of_mem _ List.mem_cons_self,
      Option.some.inj (hkind.symm.trans hfound), hawaits⟩
  · rw [List.mem_singleton.mp hmethod] at hfound
    exact absurd (hother.symm.trans hfound) (by simp)

end Attended

section

variable {service : Service}

theorem asyncMethod_method (hstable : service.HasStableNames) {operation : Operation}
    (hoperation : operation ∈ generated service) :
    Naming.asyncMethod operation.name = Naming.asyncMethod (Naming.method operation.name) := by
  rw [Naming.asyncMethod, Naming.asyncMethod, Naming.method, Naming.method,
    hstable operation hoperation]

theorem Activity.attended (hkind : service.kind = .activity) (hstable : service.HasStableNames) :
    Attended .activityProxy (plan service).proxy.methods := by
  have hgenerated : generated service = usable service := by rw [generated, hkind]
  exact .flatMap fun _ hoperation =>
    .pair (asyncMethod_method hstable (hgenerated ▸ hoperation)) rfl rfl

namespace Workflow

theorem run_attended (hkind : service.kind = .workflow) (hstable : service.HasStableNames) :
    Attended .run (run service).methods := by
  rw [run_methods hkind]
  refine .append (.of_none (by simp [runFixed, MethodPlan.plain, InterfaceRole.awaited?]))
    (.flatMap fun operation hoperation => ?_)
  unfold runMethods
  cases operation.kind with
  | update => exact .pair (asyncMethod_method hstable hoperation) rfl rfl
  | method | execute | query | signal =>
    exact .of_none (by simp [MethodPlan.calling, signalMethod, InterfaceRole.awaited?])

theorem signals_attended (hkind : service.kind = .workflow) (hstable : service.HasStableNames)
    {role : InterfaceRole} (hsignal : role.awaited? .signal = some .signalAsync)
    (hasync : role.awaited? .signalAsync = none) : Attended role (signalMethods service) :=
  .flatMap fun _ hoperation =>
    have hoperation := (sublist_usableOf hkind .signal (by simp)).subset hoperation
    .pair (asyncMethod_method hstable hoperation) hsignal hasync

theorem childRun_attended (hkind : service.kind = .workflow) (hstable : service.HasStableNames) :
    Attended .childRun (childRun service).methods :=
  .append (.of_none (by simp [childRunFixed, MethodPlan.plain, InterfaceRole.awaited?]))
    (signals_attended hkind hstable rfl rfl)

theorem externalRun_attended (hkind : service.kind = .workflow)
    (hstable : service.HasStableNames) :
    Attended .externalRun (externalRun service).methods :=
  .append (.of_none (by simp [externalRunFixed, MethodPlan.plain, InterfaceRole.awaited?]))
    (signals_attended hkind hstable rfl rfl)

theorem client_attended (service : Service) : Attended .client (client service).methods :=
  .of_none fun _ _ => rfl

theorem childClient_attended (service : Service) :
    Attended .childClient (childClient service).methods := by
  have hcalled : "execute_async" = Naming.asyncMethod "execute" := by decide +kernel
  exact .append (.pair hcalled rfl rfl)
    (.of_none (by simp [MethodPlan.plain, InterfaceRole.awaited?]))

end Workflow

/-- The interfaces that are planned for a service: each method that waits has the one that it calls.
The call between the fixed methods of a client for child workflows is written out in its body. -/
theorem attended_of_mem_interfaces (options : GenerationOptions) (package : Package)
    (hstable : service.HasStableNames) {interface : Interface}
    (hinterface : interface ∈ (Contribution.of options package service).plan.interfaces) :
    Attended interface.role interface.methods ∧
      (interface.role = .childClient → ∀ method ∈ interface.methods,
        method.kind = .executeAsync → method.name = "execute_async") := by
  unfold Contribution.of at hinterface
  cases hkind : service.kind with
  | service =>
    rw [hkind] at hinterface
    exact absurd hinterface List.not_mem_nil
  | activity =>
    rw [hkind] at hinterface
    rw [List.mem_singleton.mp hinterface]
    exact ⟨Activity.attended hkind hstable, fun hrole => by cases hrole⟩
  | workflow =>
    simp only [hkind, Workflow.contribution, ServicePlan.interfaces, List.mem_cons,
      List.not_mem_nil, or_false] at hinterface
    obtain rfl | rfl | rfl | rfl | rfl := hinterface
    · exact ⟨Workflow.run_attended hkind hstable, fun hrole => by cases hrole⟩
    · exact ⟨Workflow.childRun_attended hkind hstable, fun hrole => by cases hrole⟩
    · exact ⟨Workflow.externalRun_attended hkind hstable, fun hrole => by cases hrole⟩
    · exact ⟨Workflow.client_attended service, fun hrole => by cases hrole⟩
    · refine ⟨Workflow.childClient_attended service, fun _ => ?_⟩
      simp [Workflow.plan, Workflow.childClient, Workflow.childClientFixed, Interface.of,
        Workflow.starting, MethodPlan.plain, MethodPlan.calling]

end

end Plan

namespace Render

/-- A parameter of a declaration, by its name and its type. -/
abbrev Slot := String × Code

namespace Slot

def declared (slot : Slot) : Code := name slot.1 ++ Render.code ":" ++ slot.2

/-- The argument for which a parameter is passed on. -/
def argument (slot : Slot) : Code := name slot.1

def code (slot : Slot) : Code := slot.declared ++ Render.code ","

end Slot

/-- The parameters of a method. -/
def parameters (slots : List Slot) : Code := code "& self ," ++ slots.flatMap Slot.code

/-- The declaration of a method that answers. -/
def declaration (own : Code) (slots : List Slot) (answer : Code) : Code :=
  code "fn" ++ own ++ parens (parameters slots) ++ code "->" ++ answer

/-- A call of a method of the same interface with arguments of these names. -/
def selfCall (callee : Code) (slots : List Slot) : Code :=
  code "self ." ++ callee ++ parens (commas (slots.map Slot.argument))

/-- That code declares a method of this name with these parameters. -/
def Declares (text : String) (slots : List Slot) (signature : Code) : Prop :=
  ∃ own answer, ident text = .ok own ∧ signature = declaration own slots answer

/-- That a body calls a method of this name of its own interface, with arguments of these names, and
waits for what it answers. -/
def WaitsFor (text : String) (slots : List Slot) (body : Code) : Prop :=
  ∃ callee rest, ident text = .ok callee ∧ body = selfCall callee slots ++ rest ∧
    (rest = code ". get" ++ parens (code "ctx") ∨ rest = code "? . get" ++ parens [])

/-- The parameter for a request, if there is one whose type can be read. -/
def requestSlots (request : Option String) : List Slot :=
  (request.bind Grammar.typeTokens?).toList.map fun type => ("req", type)

/-- The arguments that stand for a request. -/
def requestNames (request : Option String) : List Code :=
  if request.isSome then [name "req"] else []

theorem typeTokens?_of_type {text place : String} {tokens : Code}
    (htype : type text place = .ok tokens) : Grammar.typeTokens? text = some tokens := by
  rw [type] at htype
  cases hread : Grammar.typeTokens? text with
  | none => simp [hread] at htype
  | some found => simpa [hread] using htype

theorem requestParam_eq {request : Option String} {place : String} {found : Code}
    (hfound : requestParam request place = .ok found) :
    found = (requestSlots request).flatMap Slot.code ∧
      (requestSlots request).map Slot.argument = requestNames request := by
  cases request with
  | none => exact ⟨(Except.ok.inj hfound).symm, rfl⟩
  | some text =>
    obtain ⟨type, htype, hfound⟩ := exists_of_bind hfound
    have hslots : requestSlots (some text) = [("req", type)] := by
      simp [requestSlots, typeTokens?_of_type htype]
    have hreq : code "req :" = name "req" ++ code ":" := rfl
    rw [hslots, ← Except.ok.inj hfound, hreq]
    simp [Slot.code, Slot.declared, Slot.argument, requestNames]

namespace Activity

variable (context : Context)

/-- The parameters of the methods of a proxy. -/
def slots (request : Option String) : List Slot :=
  ("ctx", code "&" ++ context.lib "workflow :: Context") :: requestSlots request ++
    [("options", code "Option <" ++ context.lib "workflow :: ActivityOptions" ++ code ">")]

variable {context} {plan : ActivityPlan} {method : MethodPlan}

theorem declares_of_signature {found : Code} (hfound : signature context method = .ok found) :
    Declares method.name (slots context method.request) found ∧
      (requestSlots method.request).map Slot.argument = requestNames method.request := by
  obtain ⟨own, hown, hfound⟩ := exists_of_bind hfound
  obtain ⟨request, hrequest, hfound⟩ := exists_of_bind hfound
  obtain ⟨response, -, hfound⟩ := exists_of_bind hfound
  obtain ⟨rfl, hnames⟩ := requestParam_eq hrequest
  have hctx : code "& self , ctx : &" = code "& self ," ++ name "ctx" ++ code ":" ++ code "&" := rfl
  have hoptions : code "options : Option <" = name "options" ++ code ":" ++ code "Option <" := rfl
  have hend : code "> ," = code ">" ++ code "," := rfl
  dsimp only at hfound
  split at hfound
  all_goals
    obtain ⟨answer, -, hfound⟩ := exists_of_bind hfound
    refine ⟨⟨own, answer, hown, ?_⟩, hnames⟩
    rw [← Except.ok.inj hfound, hctx, hoptions, hend]
    simp [declaration, parameters, slots, Slot.code, Slot.declared]

theorem waitsFor_of_body {found : Code} (hkind : method.kind = .call)
    (hnames : (requestSlots method.request).map Slot.argument = requestNames method.request)
    (hfound : body context plan method = .ok found) :
    WaitsFor (Naming.asyncMethod method.name) (slots context method.request) found := by
  simp only [body, hkind] at hfound
  obtain ⟨callee, hcallee, hfound⟩ := exists_of_bind hfound
  refine ⟨callee, _, hcallee, ?_, .inl rfl⟩
  have hpassed : commas ((slots context method.request).map Slot.argument) =
      code "ctx ," ++ (if method.request.isSome then code "req ," else []) ++ code "options" := by
    rw [slots, List.map_append, List.map_cons, hnames, requestNames]
    split <;> rfl
  rw [← Except.ok.inj hfound, selfCall, hpassed, List.append_assoc]

end Activity

namespace Workflow

variable {frame : Frame} {interface : Interface} {method : MethodPlan}

theorem exists_of_signature {found : Code} (hfound : signature frame interface method = .ok found) :
    ∃ own handles response shape, ident method.name = .ok own ∧
      declared frame interface.role method handles ((requestSlots method.request).flatMap Slot.code)
        response = .ok (some shape) ∧
      found = code "fn" ++ own ++ parens shape.params ++
        ((shape.result.map fun answer => code "->" ++ answer).getD []) ∧
      (requestSlots method.request).map Slot.argument = requestNames method.request := by
  obtain ⟨own, hown, hfound⟩ := exists_of_bind hfound
  obtain ⟨request, hrequest, hfound⟩ := exists_of_bind hfound
  obtain ⟨response, -, hfound⟩ := exists_of_bind hfound
  obtain ⟨handles, -, hfound⟩ := exists_of_bind hfound
  obtain ⟨answer, hdeclared, hfound⟩ := exists_of_bind hfound
  obtain ⟨rfl, hnames⟩ := requestParam_eq hrequest
  cases answer with
  | none => exact absurd hfound (by simp [throw, throwThe, MonadExceptOf.throw])
  | some shape =>
    refine ⟨own, handles, response, shape, hown, hdeclared, ?_, hnames⟩
    rw [← Except.ok.inj hfound]
    cases shape.result <;> rfl

/-- The parameters of the methods of an interface that wait, and of those that they wait for. -/
def slots (frame : Frame) (request : Option String) : InterfaceRole → List Slot
  | .childRun | .externalRun =>
    ("ctx", code "&" ++ frame.lib "workflow :: Context") :: requestSlots request
  | .childClient =>
    [("ctx", code "&" ++ frame.lib "workflow :: Context"), ("req", frame.request),
      ("options", code "Option <" ++ frame.lib "workflow :: ChildWorkflowOptions" ++ code ">")]
  | _ => requestSlots request

/-- What is declared for these methods, by their parameters. -/
theorem params_of_declared {first second : MethodKind} {handles : Handles} {response : Code}
    {shape : Declared} (hawaited : interface.role.awaited? first = some second)
    (hkind : method.kind = first ∨ method.kind = second)
    (hshape : declared frame interface.role method handles
      ((requestSlots method.request).flatMap Slot.code) response = .ok (some shape)) :
    ∃ answer, shape =
      .answering (parameters (slots frame method.request interface.role)) answer := by
  have hctx : code "ctx : &" = name "ctx" ++ code ":" ++ code "&" := rfl
  have hreq : code ", req :" = code "," ++ name "req" ++ code ":" := rfl
  have hoptions : code ", options : Option <" =
    code "," ++ name "options" ++ code ":" ++ code "Option <" := rfl
  have hend : code "> ," = code ">" ++ code "," := rfl
  refine ⟨shape.result.getD [], ?_⟩
  -- Both methods of a pair are declared alike, but for the answer.
  obtain ⟨hrole, rfl, rfl⟩ | ⟨hrole, rfl, rfl⟩ | ⟨hrole, rfl, rfl⟩ | ⟨hrole, rfl, rfl⟩ |
    ⟨hrole, rfl, rfl⟩ := InterfaceRole.cases_of_awaited? hawaited
  all_goals
    obtain hkind | hkind := hkind <;>
      simp [declared, runDeclared, childRunDeclared, externalRunDeclared, signalDeclared,
        childClientDeclared, hrole, hkind, Pure.pure, Except.pure] at hshape
  all_goals
    subst hshape
    rw [hrole]
    simp [Declared.answering, parameters, slots, startingChild, Frame.contextParam, Slot.code,
      Slot.declared, hctx, hreq, hoptions, hend]

theorem declares_of_signature {first second : MethodKind} {found : Code}
    (hawaited : interface.role.awaited? first = some second)
    (hkind : method.kind = first ∨ method.kind = second)
    (hfound : signature frame interface method = .ok found) :
    Declares method.name (slots frame method.request interface.role) found ∧
      (requestSlots method.request).map Slot.argument = requestNames method.request := by
  obtain ⟨own, handles, response, shape, hown, hshape, rfl, hnames⟩ := exists_of_signature hfound
  obtain ⟨answer, rfl⟩ := params_of_declared hawaited hkind hshape
  exact ⟨⟨own, answer, hown, by simp [declaration, Declared.answering]⟩, hnames⟩

section

variable {found : Code}
  (hnames : (requestSlots method.request).map Slot.argument = requestNames method.request)

include hnames

theorem waitsFor_of_update (hrole : interface.role = .run) (hkind : method.kind = .update)
    (hfound : runBody interface method = .ok found) :
    WaitsFor (Naming.asyncMethod method.name) (slots frame method.request interface.role)
      found := by
  simp only [runBody, hkind] at hfound
  obtain ⟨callee, hcallee, hfound⟩ := exists_of_bind hfound
  refine ⟨callee, _, hcallee, ?_, .inr rfl⟩
  have hslots : slots frame method.request interface.role = requestSlots method.request := by
    rw [hrole]
    rfl
  have hpassed : commas (requestNames method.request) = (forwarded method).flatten := by
    rw [requestNames, forwarded]
    split <;> rfl
  rw [← Except.ok.inj hfound, hslots, selfCall, hnames, hpassed, List.append_assoc]

theorem waitsFor_of_signal (hrole : interface.role = .childRun ∨ interface.role = .externalRun)
    (hfound : signalBody method = .ok found) :
    WaitsFor (Naming.asyncMethod method.name) (slots frame method.request interface.role)
      found := by
  obtain ⟨callee, hcallee, hfound⟩ := exists_of_bind hfound
  refine ⟨callee, _, hcallee, ?_, .inl rfl⟩
  have hslots : (slots frame method.request interface.role).map Slot.argument =
      code "ctx" :: forwarded method := by
    obtain hrole | hrole := hrole <;> rw [hrole, slots, List.map_cons, hnames] <;> rfl
  rw [← Except.ok.inj hfound, selfCall, hslots, List.append_assoc]

/-- The body of a method that waits. That of a start of a child workflow has the name of the other
method written out. -/
theorem waitsFor_of_body {other : MethodKind}
    (hawaited : interface.role.awaited? method.kind = some other)
    (hfixed : interface.role = .childClient → Naming.asyncMethod method.name = "execute_async")
    (hfound : body frame interface method = .ok found) :
    WaitsFor (Naming.asyncMethod method.name) (slots frame method.request interface.role)
      found := by
  obtain ⟨handles, -, hfound⟩ := exists_of_bind hfound
  obtain ⟨hrole, hkind, -⟩ | ⟨hrole, hkind, -⟩ | ⟨hrole, hkind, -⟩ | ⟨hrole, hkind, -⟩ |
    ⟨hrole, hkind, -⟩ := InterfaceRole.cases_of_awaited? hawaited
  · simp [hrole, throw, throwThe, MonadExceptOf.throw] at hfound
  · simp only [hrole] at hfound
    exact waitsFor_of_update hnames hrole hkind hfound
  · simp only [hrole, childRunBody, hkind] at hfound
    exact waitsFor_of_signal hnames (.inl hrole) hfound
  · simp only [hrole, externalRunBody, hkind] at hfound
    exact waitsFor_of_signal hnames (.inr hrole) hfound
  · simp only [hrole, childClientBody, hkind] at hfound
    rw [hfixed hrole, hrole, ← Except.ok.inj hfound]
    exact ⟨name "execute_async", _, rfl, rfl, .inl rfl⟩

end

end Workflow

/-- The declaration and the body that are emitted for a method in the code of a service. -/
inductive Emits (context : Context) : ServicePlan → Interface → MethodPlan → Code × Code → Prop
  | activity {plan : ActivityPlan} {method : MethodPlan} {emitted : Code × Code}
    (hemitted : Activity.proxyMethod context plan method = .ok emitted) :
    Emits context (.activity plan) plan.proxy method emitted
  | workflow {plan : WorkflowPlan} {frame : Workflow.Frame} {interface : Interface}
    {method : MethodPlan} {emitted : Code × Code}
    (hframe : Workflow.Frame.of context plan = .ok frame)
    (hemitted : Workflow.interfaceMethod frame interface method = .ok emitted) :
    Emits context (.workflow plan) interface method emitted

section

variable {context : Context} {plan : ServicePlan} {interface : Interface}
  {method other : MethodPlan} {kind : MethodKind} {emitted otherEmitted : Code × Code}

/-- A body calls one method only. -/
theorem WaitsFor.identifier?_eq {first second : String} {slots others : List Slot} {body : Code}
    (hfirst : WaitsFor first slots body) (hsecond : WaitsFor second others body) :
    Grammar.identifier? first = Grammar.identifier? second := by
  obtain ⟨callee, rest, hcallee, rfl, -⟩ := hfirst
  obtain ⟨other, behind, hother, hbody, -⟩ := hsecond
  rw [ident] at hcallee hother
  cases hread : Grammar.identifier? first with
  | none => simp [hread] at hcallee
  | some found =>
    cases hreadOther : Grammar.identifier? second with
    | none => simp [hreadOther] at hother
    | some foundOther =>
      obtain rfl : name found = callee := by simpa [hread] using hcallee
      obtain rfl : name foundOther = other := by simpa [hreadOther] using hother
      rw [selfCall, selfCall, List.append_assoc, List.append_assoc, List.append_assoc,
        List.append_assoc] at hbody
      have hcalled := (List.cons.inj (List.append_cancel_left hbody)).1
      rw [Token.ident.inj hcalled]

theorem emitted_pair {signature body : Emit Code}
    (hemitted : (do let signature ← signature; let body ← body; pure (signature, body)) =
      Except.ok emitted) : signature = .ok emitted.1 ∧ body = .ok emitted.2 := by
  obtain ⟨declared, hdeclared, hemitted⟩ := exists_of_bind hemitted
  obtain ⟨written, hwritten, hemitted⟩ := exists_of_bind hemitted
  rw [← Except.ok.inj hemitted]
  exact ⟨hdeclared, hwritten⟩

/-- The method of a proxy that is emitted and waits for another one. -/
theorem Activity.kind_of_body {plan : ActivityPlan} {role : InterfaceRole} {found : Code}
    (hawaited : role.awaited? method.kind = some kind)
    (hfound : Activity.body context plan method = .ok found) : method.kind = .call := by
  obtain ⟨-, hkind, -⟩ | ⟨-, hkind, -⟩ | ⟨-, hkind, -⟩ | ⟨-, hkind, -⟩ | ⟨-, hkind, -⟩ :=
    InterfaceRole.cases_of_awaited? hawaited
  · exact hkind
  all_goals simp [Activity.body, hkind, throw, throwThe, MonadExceptOf.throw] at hfound

/-- A method that waits calls another method of its interface, which is declared with the parameters
that the call has arguments for. -/
theorem waits_of_emits (hawaited : interface.role.awaited? method.kind = some kind)
    (hkind : other.kind = kind) (hawaits : method.Awaits other)
    (hfixed : interface.role = .childClient → other.name = "execute_async")
    (hmethod : Emits context plan interface method emitted)
    (hother : Emits context plan interface other otherEmitted) :
    ∃ slots, Declares method.name slots emitted.1 ∧ WaitsFor other.name slots emitted.2 ∧
      Declares other.name slots otherEmitted.1 := by
  rw [hawaits.called] at hfixed ⊢
  cases hmethod with
  | @activity plan _ _ hmethod =>
    generalize hproxy : plan.proxy = interface at hawaited hfixed hother
    cases hother with
    | activity hother =>
      obtain ⟨hsignature, hbody⟩ := emitted_pair hmethod
      obtain ⟨hdeclared, -⟩ := emitted_pair hother
      obtain ⟨hown, hnames⟩ := Activity.declares_of_signature hsignature
      obtain ⟨hcalled, -⟩ := Activity.declares_of_signature hdeclared
      rw [hawaits.called, hawaits.request] at hcalled
      exact ⟨_, hown, Activity.waitsFor_of_body (Activity.kind_of_body hawaited hbody) hnames hbody,
        hcalled⟩
  | @workflow plan frame _ _ _ hframe hmethod =>
    cases hother with
    | @workflow _ otherFrame _ _ _ hotherFrame hother =>
      obtain rfl : frame = otherFrame := Except.ok.inj (hframe.symm.trans hotherFrame)
      obtain ⟨hsignature, hbody⟩ := emitted_pair hmethod
      obtain ⟨hdeclared, -⟩ := emitted_pair hother
      obtain ⟨hown, hnames⟩ := Workflow.declares_of_signature hawaited (.inl rfl) hsignature
      obtain ⟨hcalled, -⟩ := Workflow.declares_of_signature hawaited (.inr hkind) hdeclared
      rw [hawaits.called, hawaits.request] at hcalled
      exact ⟨_, hown, Workflow.waitsFor_of_body hnames hawaited hfixed hbody, hcalled⟩

/-- If a service has code, a declaration and a body are emitted for each of its methods. -/
theorem exists_emits {found : Code} (hfound : Package.service context plan = .ok found)
    (hinterface : interface ∈ plan.interfaces) (hmethod : method ∈ interface.methods) :
    ∃ emitted, Emits context plan interface method emitted := by
  cases plan with
  | service plan => exact absurd hinterface List.not_mem_nil
  | activity plan =>
    obtain rfl := List.mem_singleton.mp hinterface
    obtain ⟨proxy, hproxy, -⟩ := exists_of_bind hfound
    obtain ⟨name, -, hproxy⟩ := exists_of_bind hproxy
    obtain ⟨implementation, -, hproxy⟩ := exists_of_bind hproxy
    obtain ⟨constructor, -, hproxy⟩ := exists_of_bind hproxy
    obtain ⟨methods, hmethods, -⟩ := exists_of_bind hproxy
    obtain ⟨emitted, hemitted⟩ := Loading.exists_ok_of_mem_mapM hmethods hmethod
    exact ⟨emitted, .activity hemitted⟩
  | workflow plan =>
    obtain ⟨frame, hframe, hfound⟩ := exists_of_bind hfound
    obtain ⟨run, hrun, hfound⟩ := exists_of_bind hfound
    obtain ⟨childRun, hchildRun, hfound⟩ := exists_of_bind hfound
    obtain ⟨externalRun, hexternalRun, hfound⟩ := exists_of_bind hfound
    obtain ⟨client, hclient, hfound⟩ := exists_of_bind hfound
    obtain ⟨childClient, hchildClient, hfound⟩ := exists_of_bind hfound
    obtain ⟨written, hwritten⟩ : ∃ written, Workflow.interface frame interface = .ok written := by
      simp only [ServicePlan.interfaces, List.mem_cons, List.not_mem_nil, or_false] at hinterface
      obtain rfl | rfl | rfl | rfl | rfl := hinterface
      exacts [⟨_, hrun⟩, ⟨_, hchildRun⟩, ⟨_, hexternalRun⟩, ⟨_, hclient⟩, ⟨_, hchildClient⟩]
    obtain ⟨name, -, hwritten⟩ := exists_of_bind hwritten
    obtain ⟨implementation, -, hwritten⟩ := exists_of_bind hwritten
    obtain ⟨methods, hmethods, -⟩ := exists_of_bind hwritten
    obtain ⟨emitted, hemitted⟩ := Loading.exists_ok_of_mem_mapM hmethods hmethod
    exact ⟨emitted, .workflow hframe hemitted⟩

end

end Render

namespace PackagePlan

variable {options : GenerationOptions} {package : Package} {plan : PackagePlan}

/-- In the code of a package in which the names of operations are stable, every method that waits
calls a method that exists. It is the method of the same interface that does not wait, with the same
constant, and the call has an argument for each of its parameters. -/
theorem awaited_declared (hbuild : build options package = .ok plan)
    (hstable : ∀ service ∈ package.services, service.HasStableNames) {text : String}
    (hrender : Package.render options plan = .ok text) :
    ∃ context, Context.of options = .ok context ∧
      ∀ service ∈ plan.services, ∀ interface ∈ service.interfaces,
        (∀ method ∈ interface.methods, ∃ emitted, Emits context service interface method emitted) ∧
        ∀ method ∈ interface.methods, ∀ kind, interface.role.awaited? method.kind = some kind →
          ∃ other ∈ interface.methods, other.kind = kind ∧ method.Awaits other ∧
            ∀ emitted otherEmitted, Emits context service interface method emitted →
              Emits context service interface other otherEmitted →
              ∃ slots, Declares method.name slots emitted.1 ∧ WaitsFor other.name slots emitted.2 ∧
                Declares other.name slots otherEmitted.1 := by
  obtain ⟨context, hcontext, hrender⟩ := exists_of_bind hrender
  obtain ⟨tokens, hemit, -⟩ := exists_of_bind hrender
  obtain ⟨constants, -, hemit⟩ := exists_of_bind hemit
  obtain ⟨channels, -, hemit⟩ := exists_of_bind hemit
  obtain ⟨codes, hcodes, -⟩ := exists_of_bind hemit
  refine ⟨context, hcontext, fun servicePlan hplan interface hinterface => ⟨?_, ?_⟩⟩
  · intro method hmethod
    obtain ⟨code, hcode⟩ := Loading.exists_ok_of_mem_mapM hcodes hplan
    exact exists_emits hcode hinterface hmethod
  · intro method hmethod kind hkind
    obtain ⟨-, -, hservices, -⟩ := of_build hbuild
    rw [hservices] at hplan
    obtain ⟨service, hservice, rfl⟩ := List.mem_map.mp hplan
    obtain ⟨hattended, hfixed⟩ :=
      Plan.attended_of_mem_interfaces options package (hstable service hservice) hinterface
    obtain ⟨other, hother, hof, hawaits⟩ := hattended method hmethod kind hkind
    refine ⟨other, hother, hof, hawaits, fun emitted otherEmitted hemits hotherEmits => ?_⟩
    refine waits_of_emits hkind hof hawaits (fun hrole => ?_) hemits hotherEmits
    have hpair : method.kind = .execute ∧ kind = .executeAsync := by
      simpa [hrole] using InterfaceRole.cases_of_awaited? hkind
    exact hfixed hrole other hother (hof.trans hpair.2)

/-- An activity with one operation. -/
def millService (operation : String) : Service :=
  { name := "Mill"
    kind := .activity
    docs := ""
    tags := []
    declaredKinds := [.activity]
    operations := [{
      name := operation
      docs := ""
      params := [⟨"ctx", "& Context"⟩, ⟨"grain", "Grain"⟩]
      results := []
      tags := []
      kind := .method
      declaredKinds := []
      location := ⟨"mill.rs", 3, 7⟩ }]
    location := ⟨"mill.rs", 2, 10⟩ }

def mill (operation : String) : Package := ⟨"mill", "mill.rs", [millService operation]⟩

theorem exists_render {package : Package}
    (hrender : ((build {} package).toOption.bind fun plan =>
      (Package.render {} plan).toOption).isSome = true) :
    ∃ plan text, build {} package = .ok plan ∧ Package.render {} plan = .ok text := by
  cases hbuild : build {} package with
  | error problems => simp [hbuild, Except.toOption] at hrender
  | ok plan =>
    cases hcode : Package.render {} plan with
    | error cause => simp [hbuild, hcode, Except.toOption] at hrender
    | ok text => exact ⟨plan, text, rfl, hcode⟩

theorem mill_awaited :
    ∃ plan text, build {} (mill "GrindCoarse") = .ok plan ∧ Package.render {} plan = .ok text ∧
      ∃ context, Context.of {} = .ok context ∧
        ∀ service ∈ plan.services, ∀ interface ∈ service.interfaces,
          ∀ method ∈ interface.methods, ∀ kind, interface.role.awaited? method.kind = some kind →
            ∃ other ∈ interface.methods, other.kind = kind ∧
              ∀ emitted otherEmitted, Emits context service interface method emitted →
                Emits context service interface other otherEmitted →
                ∃ slots, WaitsFor other.name slots emitted.2 ∧
                  Declares other.name slots otherEmitted.1 := by
  have hcode : ((build {} (mill "GrindCoarse")).toOption.bind fun plan =>
      (Package.render {} plan).toOption).isSome = true := by decide +kernel
  have hsettled : ∀ operation ∈ (millService "GrindCoarse").operations,
      Naming.IsSettled operation.name :=
    List.forall_mem_singleton.mpr (Naming.isSettled_of_ascii (by decide))
  have hstable : ∀ service ∈ (mill "GrindCoarse").services, service.HasStableNames :=
    List.forall_mem_singleton.mpr (Service.hasStableNames_of_settled hsettled)
  obtain ⟨plan, text, hbuild, hrender⟩ := exists_render hcode
  obtain ⟨context, hcontext, hall⟩ := awaited_declared hbuild hstable hrender
  refine ⟨plan, text, hbuild, hrender, context, hcontext, ?_⟩
  intro service hservice interface hinterface method hmethod kind hkind
  obtain ⟨other, hother, hof, -, hemits⟩ :=
    (hall service hservice interface hinterface).2 method hmethod kind hkind
  refine ⟨other, hother, hof, fun emitted otherEmitted hemitted hotherEmitted => ?_⟩
  obtain ⟨slots, -, hwaits, hdeclares⟩ := hemits emitted otherEmitted hemitted hotherEmitted
  exact ⟨slots, hwaits, hdeclares⟩

/-- A dotted capital I has a small form with a dot that ends a word. The method that waits calls a
method with two words in its name, and the other method has one word. -/
theorem dotted_mill_unanswered :
    ∃ plan text, build {} (mill "İx") = .ok plan ∧ Package.render {} plan = .ok text ∧
      ∃ service ∈ plan.services, ∃ interface ∈ service.interfaces,
        ∃ method ∈ interface.methods, interface.role.awaited? method.kind = some .callAsync ∧
          ∀ context emitted, Emits context service interface method emitted →
            ∀ other ∈ interface.methods, ∀ slots, ¬ WaitsFor other.name slots emitted.2 := by
  have hcode : ((build {} (mill "İx")).toOption.bind fun plan =>
      (Package.render {} plan).toOption).isSome = true := by decide +kernel
  obtain ⟨plan, text, hbuild, hrender⟩ := exists_render hcode
  obtain ⟨-, -, hservices, -⟩ := of_build hbuild
  have hothers : ∀ other ∈ (Plan.Activity.plan (millService "İx")).proxy.methods,
      Grammar.identifier? other.name ≠
        Grammar.identifier? (Naming.asyncMethod (Naming.method "İx")) := by decide +kernel
  refine ⟨plan, text, hbuild, hrender, .activity (Plan.Activity.plan (millService "İx")),
    hservices ▸ List.mem_cons_self, _, List.mem_cons_self, _, List.mem_cons_self, rfl, ?_⟩
  intro context emitted hemitted other hother slots hwaits
  cases hemitted with
  | activity hemitted =>
    obtain ⟨hsignature, hbody⟩ := emitted_pair hemitted
    obtain ⟨-, hnames⟩ := Activity.declares_of_signature hsignature
    have hcalled := Activity.waitsFor_of_body rfl hnames hbody
    exact hothers other hother (hwaits.identifier?_eq hcalled)

end PackagePlan

end ServiceGen
