import ServiceGen.Proofs.Render.Syntax.Service
import ServiceGen.Proofs.Render.Syntax.Workflow.Controller

/-!
The code of a package is made of items: its constants, the channels of its signals, the code of its
services, and what gathers them.
-/
namespace ServiceGen.Render

open Grammar Token

theorem Workflow.render_gives (path : BarePath) {plan : WorkflowPlan}
    (hplain : ∀ text ∈ plan.types, IsPlain text) :
    (render (library path) plan).Gives AreItems := by
  simp only [WorkflowPlan.types, List.forall_mem_append, List.forall_mem_cons,
    List.forall_mem_map] at hplain
  obtain ⟨⟨⟨⟨⟨⟨⟨⟨hrequest, hresponse, -⟩, hrun⟩, hchildRun⟩, hexternalRun⟩, hclient⟩,
    hchildClient⟩, hchannels⟩, hcontroller⟩ := hplain
  refine .bind (frame_gives path hrequest hresponse) ?_
  rintro - ⟨setting, rfl, rfl⟩
  refine .bind (interface_gives hrun) fun run hrun => ?_
  refine .bind (interface_gives hchildRun) fun childRun hchildRun => ?_
  refine .bind (interface_gives hexternalRun) fun externalRun hexternalRun => ?_
  refine .bind (interface_gives hclient) fun client hclient => ?_
  refine .bind (interface_gives hchildClient) fun childClient hchildClient => ?_
  refine .bind constructors_gives fun constructors hconstructors => ?_
  refine .bind (input_gives hchannels) fun input hinput => ?_
  refine .bind factory_gives fun factory hfactory => ?_
  refine .bind (controller_gives hcontroller) fun controller hcontroller => .pure ?_
  exact ((((((((hrun.append hchildRun).append hexternalRun).append hclient).append
    hchildClient).append hconstructors).append hinput).append hfactory).append hcontroller)

namespace Package

variable (path : BarePath)

theorem constant_gives (entry : Constant) : (constant entry).Gives AreItems := by
  refine .bind (.ident entry.name) ?_
  rintro - ⟨name, rfl⟩
  have hitem := isBareItem_constant true name Workflow.isType_str (isExpr_quoted entry.value)
  refine .pure ?_
  simp only [List.append_assoc, List.cons_append] at hitem ⊢
  exact hitem.areItems

theorem signalChannel_gives {channel : SignalChannel} (hplain : IsPlain channel.request) :
    (signalChannel (library path) channel).Gives AreItems := by
  refine .bind (.ident channel.provider) ?_
  rintro - ⟨provider, rfl⟩
  refine .bind (.ident channel.constant) ?_
  rintro - ⟨constant, rfl⟩
  refine .bind (.type hplain channel.provider) fun request hrequest => .pure ?_
  have hresult : ∀ type ∈ some ((library path).lib "workflow :: SignalChannel <" ++
      (request ++ code ">")), IsType true type := by
    rintro type ⟨⟩
    exact isType_lib_of path [⟨"workflow", rfl, rfl⟩] ⟨"SignalChannel", rfl, rfl⟩ rfl hrequest
  have hbody : IsBody ((library path).lib "workflow :: SignalChannel :: new" ++
      (parens (code "ctx ," ++ [.ident constant.text]) ++ [])) :=
    .result (isLead_lib path _ ⟨"workflow", rfl, rfl⟩
      [⟨"SignalChannel", rfl, rfl⟩, ⟨"new", rfl, rfl⟩] rfl
      (.cons (Name.isExpr ⟨"ctx", rfl, rfl⟩) (.last constant.isExpr)) .nil)
  have hitem := isBareItem_function true provider (.last (isParam_context path)) hresult hbody
  simp only [signature, Option.elim, List.append_assoc, List.cons_append, List.append_nil]
    at hitem ⊢
  exact hitem.areItems

theorem service_gives {plan : ServicePlan} (hplain : ∀ text ∈ plan.types, IsPlain text) :
    (service (library path) plan).Gives AreItems := by
  cases plan with
  | activity plan => exact Activity.render_gives path hplain
  | workflow plan => exact Workflow.render_gives path hplain
  | service plan => exact HttpService.render_gives path hplain

/-! What gathers the services -/

theorem accessor_gives {argument : Code} (hargument : IsArguments argument)
    (entry : GatheredInterface) : (accessor argument entry).Gives IsMethod := by
  refine .bind (.ident entry.accessor) ?_
  rintro - ⟨accessor, rfl⟩
  refine .bind (.ident entry.interface) ?_
  rintro - ⟨interface, rfl⟩
  refine .bind (.ident entry.constructor) ?_
  rintro - ⟨constructor, rfl⟩
  have hresult : ∀ type ∈ some (boxed [.ident interface.text]), IsType true type := by
    rintro type ⟨⟩
    exact isType_boxed interface
  refine .pure ⟨⟨accessor, code "& self", _, Workflow.isParams_self, hresult, rfl⟩, ?_⟩
  exact .result ((BarePath.single constructor).isLead_tail (.inl nofun) (.call hargument .nil))

theorem gathered_gives (type : String) (held : Held) (entries : List GatheredInterface) :
    (gathered (library path) type held entries).Gives AreItems := by
  unfold gathered
  split
  · exact .pure areItems_nil
  refine .bind (.ident type) ?_
  rintro - ⟨name, rfl⟩
  refine .bind (.ident (Naming.implementation type)) ?_
  rintro - ⟨implementation, rfl⟩
  refine .bind (.ident (Naming.constructor type)) ?_
  rintro - ⟨constructor, rfl⟩
  have hclient : IsType true ((library path).lib "client :: Client") :=
    isType_lib path [⟨"client", rfl, rfl⟩, ⟨"Client", rfl, rfl⟩] rfl
  have hcopied : IsExpr (code "self . client . clone" ++ parens []) :=
    (selfPath_isLead
      (.field ⟨"client", rfl, rfl⟩ (.method ⟨"clone", rfl, rfl⟩ .nil .nil))).operand.isExpr
  cases held with
  | client =>
    refine .bind (.mapM fun entry _ => accessor_gives (.last hcopied) entry)
      fun accessors haccessors => .pure ?_
    have hdata : IsData (braces (code "client :" ++ (library path).lib "client :: Client")) :=
      .fields (.last ⟨false, ⟨"client", rfl, rfl⟩, _, hclient, rfl⟩)
    have hmade : IsBody (code "Box :: new" ++ parens ([.ident implementation.text] ++
        braces (code "client"))) :=
      .result (isLead_boxed (.last (isExpr_structure implementation
        (.last (.named ⟨"client", rfl, rfl⟩)))))
    have hitems := (isBareItem_interface name haccessors).areItems.append
      ((areItems_implementation name implementation hdata haccessors).append
        (areItems_constructor constructor name
          (.last (hclient.isParam ⟨"client", rfl, rfl⟩)) hmade))
    simp only [List.append_assoc] at hitems ⊢
    exact hitems
  | nothing =>
    refine .bind (.mapM fun entry _ => accessor_gives .nil entry)
      fun accessors haccessors => .pure ?_
    have hmade : IsBody (code "Box :: new" ++ parens [.ident implementation.text]) :=
      .result (isLead_boxed (.last implementation.isExpr))
    have hitems := (isBareItem_interface name haccessors).areItems.append
      ((areItems_implementation name implementation .nothing haccessors).append
        (areItems_constructor constructor name .nil hmade))
    simp only [List.append_assoc] at hitems ⊢
    exact hitems

/-- The field of a controller, with the statement that registers what it holds. -/
structure IsRegistered (entry : Code × Code) : Prop where
  field : ∃ item, IsDeclaredField item ∧ entry.1 = item ++ [comma]
  registered : IsStatement entry.2

theorem controllerField_gives (entry : GatheredController) :
    (controllerField entry).Gives IsRegistered := by
  refine .bind (.ident entry.field) ?_
  rintro - ⟨field, rfl⟩
  refine .bind (.ident entry.controller) ?_
  rintro - ⟨controller, rfl⟩
  have hregistered := (selfPath_isLead (.field field (.method ⟨"register", rfl, rfl⟩
    (.last (Name.isExpr ⟨"worker", rfl, rfl⟩)) .nil))).isStatement
  refine .pure ⟨⟨_, ⟨true, field, _, (BarePath.single controller).isType, rfl⟩, rfl⟩, ?_⟩
  simp only [List.append_assoc] at hregistered ⊢
  exact hregistered

theorem controllers_gives (entries : List GatheredController) :
    (controllers (library path) entries).Gives AreItems := by
  unfold controllers
  split
  · exact .pure areItems_nil
  refine .bind (.mapM fun entry _ => controllerField_gives entry) fun fields hfields => .pure ?_
  have hdoc : IsLiteral "r\" Every activity and workflow controller of this package.\"" := by
    refine isLiteral_of_first? ⟨'r', _, rfl, by decide⟩ rfl ?_
    rintro c more (rfl | rfl | rfl | rfl) <;> rfl
  have hdeclared : Commas IsDeclaredField (fields.flatMap (·.1)) := by
    rw [List.flatMap_def]
    exact commas_flatten (List.forall_mem_map.mpr fun field hfield => (hfields field hfield).field)
  have hbody : IsBody (fields.flatMap (·.2)) := by
    rw [List.flatMap_def]
    have hbody := IsBody.flatten_append (List.forall_mem_map.mpr fun field hfield =>
      (hfields field hfield).registered) .nil
    rwa [List.append_nil] at hbody
  have hnothing : ∀ type ∈ (none : Option Code), IsType true type := nofun
  have hmethod := isPiece_method true ⟨"register", rfl, rfl⟩ (isParams_worker path) hnothing hbody
  have hitems := ((isBareItem_structure true ⟨"WorkerController", rfl, rfl⟩
    (.fields hdeclared)).areItems_documented hdoc).append (isBareItem_implementation
      ⟨"WorkerController", rfl, rfl⟩ none (.ofPiece hmethod)).areItems
  simp only [List.append_assoc] at hitems ⊢
  exact hitems

theorem gathering_gives (plan : Gathering) : (gathering (library path) plan).Gives AreItems := by
  refine .bind (gathered_gives path _ _ _) fun clients hclients => ?_
  refine .bind (gathered_gives path _ _ _) fun proxies hproxies => ?_
  refine .bind (gathered_gives path _ _ _) fun activities hactivities => ?_
  refine .bind (controllers_gives path _) fun controllers hcontrollers => .pure ?_
  exact ((hclients.append hproxies).append hactivities).append hcontrollers

theorem emit_gives {plan : PackagePlan} (hplain : ∀ text ∈ plan.types, IsPlain text) :
    (emit (library path) plan).Gives AreItems := by
  simp only [PackagePlan.types, List.forall_mem_append, List.forall_mem_map,
    List.forall_mem_flatMap] at hplain
  refine .bind (.mapM fun entry _ => constant_gives entry) fun constants hconstants => ?_
  refine .bind (.mapM fun channel hchannel => signalChannel_gives path (hplain.1 channel hchannel))
    fun channels hchannels => ?_
  refine .bind (.mapM fun service hservice => service_gives path (hplain.2 service hservice))
    fun services hservices => ?_
  refine .bind (gathering_gives path plan.gathering) fun gathering hgathering => .pure ?_
  exact (((areItems_flatten hconstants).append (areItems_flatten hchannels)).append
    (areItems_flatten hservices)).append hgathering

end Package

end ServiceGen.Render
