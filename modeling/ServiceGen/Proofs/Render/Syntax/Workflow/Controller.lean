import ServiceGen.Proofs.Render.Syntax.Workflow.Interface

/-!
What a worker needs to run a workflow is made of items: the input, the factory and the controller.
-/
namespace ServiceGen.Render.Workflow

open Grammar Token

variable (setting : Setting)

/-! The input -/

theorem isType_channelType {request : Code} (hrequest : IsType true request) {plus : Bool} :
    IsType plus (channelType setting.frame request) := by
  rw [channelType, List.append_assoc]
  exact isType_lib_of setting.path [⟨"workflow", rfl, rfl⟩] ⟨"SignalChannel", rfl, rfl⟩ rfl hrequest

variable {setting}

/-- The channel of a signal: a field, with a method that answers it. -/
structure IsChannel (channel : Code × Code) : Prop where
  field : ∃ item, IsDeclaredField item ∧ channel.1 = item ++ [comma]
  accessor : IsPiece Member.ofImplementation channel.2

theorem inputChannel_gives {channel : InputChannel} (hplain : IsPlain channel.request) :
    (inputChannel setting.frame channel).Gives IsChannel := by
  refine .bind (.ident channel.accessor) ?_
  rintro - ⟨accessor, rfl⟩
  refine .bind (.type hplain channel.accessor) fun request hrequest => .pure ?_
  have htype : IsType true (channelType setting.frame request) :=
    isType_channelType setting hrequest
  have hfield : IsDeclaredField
      (.ident accessor.text :: .punct ':' false :: channelType setting.frame request) :=
    ⟨false, accessor, _, htype, rfl⟩
  have hresult : ∀ type ∈ some (.punct '&' false :: channelType setting.frame request),
      IsType true type := by
    rintro type ⟨⟩
    exact (isType_channelType setting hrequest).referenced false
  have haccessor := isPiece_method true accessor isParams_self hresult
    (isBody_reference accessor)
  refine ⟨⟨_, hfield, ?_⟩, ?_⟩
  · simp only [List.append_assoc]
    rfl
  · simp only [List.append_assoc]
    exact haccessor

theorem input_gives (hplain : ∀ channel ∈ setting.plan.input.channels, IsPlain channel.request) :
    (input setting.frame).Gives AreItems := by
  refine .bind (.ident setting.plan.input.name) ?_
  rintro - ⟨name, rfl⟩
  refine .bind (.mapM fun channel hchannel => inputChannel_gives (hplain channel hchannel)) ?_
  intro channels hchannels
  have hrequest : IsDeclaredField (code "pub request :" ++ setting.request) :=
    ⟨true, ⟨"request", rfl, rfl⟩, setting.request, setting.isType_request, rfl⟩
  have hfields : Commas IsDeclaredField (channels.flatMap (·.1)) := by
    rw [List.flatMap_def]
    exact commas_flatten (List.forall_mem_map.mpr fun channel hchannel =>
      (hchannels channel hchannel).field)
  have hstructure := areItems_documented
    ("Everything a `" ++ setting.plan.service ++ "` implementation is constructed from.")
    (isBareItem_structure true name (.fields (.cons hrequest hfields)))
  have haccessors : AreItems (if channels.isEmpty then []
      else code "impl" ++ [.ident name.text] ++ braces (channels.flatMap (·.2))) := by
    split
    · exact areItems_nil
    · exact (isBareItem_implementation name none (isPieces_flatMap fun channel hchannel =>
        .ofPiece (hchannels channel hchannel).accessor)).areItems
  have hinput := hstructure.append haccessors
  refine .pure ?_
  simp only [List.append_assoc] at hinput ⊢
  exact hinput

/-! The factory -/

theorem factory_gives : (factory setting.frame).Gives AreItems := by
  refine .bind (.ident setting.plan.service) ?_
  rintro - ⟨service, rfl⟩
  refine .bind (.ident setting.plan.factory) ?_
  rintro - ⟨factory, rfl⟩
  refine .bind (.ident setting.plan.input.name) ?_
  rintro - ⟨input, rfl⟩
  have hlib : setting.frame.lib "Result < :: std :: sync :: Arc < dyn" =
      (Opening.mk (setting.path.join []) ⟨"Result", rfl, rfl⟩).code ++
        (code "< :: std :: sync :: Arc < dyn") := by
    have hopening := lib_eq_opening setting.path "Result <" [] ⟨"Result", rfl, rfl⟩ rfl
    have hsplit : setting.frame.lib "Result < :: std :: sync :: Arc < dyn" =
        (library setting.path).lib "Result <" ++ code ":: std :: sync :: Arc < dyn" :=
      lib_split setting.path "Result <" rfl
    rw [hsplit, hopening, List.append_assoc]
    rfl
  have hservice := isType_service service
  have hresult : ∀ type ∈ some _, AcceptsPath type ∧ Readable type :=
    fun type htype => Option.some.inj htype ▸
      ⟨(Opening.mk (setting.path.join []) ⟨"Result", rfl, rfl⟩).acceptsPath_nested shared
        hservice.accepted, (Opening.readable _).append (readable_nested shared hservice.readable)⟩
  have htype : IsType true _ := shared.isType true (IsType.function ⟨"Fn", rfl, rfl⟩
    ⟨"Send", rfl, rfl⟩ [⟨"Sync", rfl, rfl⟩] (BarePath.single input).isType hresult)
  have hitem := (isBareItem_alias true factory htype).areItems
  refine .pure ?_
  simp only [hlib, nested, angled, functionTrait, Option.elim, List.append_assoc,
    List.cons_append] at hitem ⊢
  exact hitem

/-! The controller -/

theorem channelField_gives (channel : InputChannel) :
    (channelField channel).Gives fun field => ∃ item, IsField item ∧ field = item ++ [comma] := by
  refine .bind (.ident channel.accessor) ?_
  rintro - ⟨accessor, rfl⟩
  refine .bind (.ident channel.provider) ?_
  rintro - ⟨provider, rfl⟩
  have hvalue := ((BarePath.single provider).isOperand
    (.call (.last (Name.isExpr ⟨"ctx", rfl, rfl⟩)) .nil)).isExpr
  exact .pure ⟨_, .valued accessor hvalue, rfl⟩

theorem handler_gives (first : Name) (names : List Name) {function : String}
    (hfunction : code "::" ++ code function = chain ((first :: names).map .name))
    {registration : Registration} (hplain : ∀ text ∈ registration.types, IsPlain text) :
    (handler setting.frame function registration).Gives IsStatement := by
  refine .bind (.ident registration.constant) ?_
  rintro - ⟨constant, rfl⟩
  have hcontext : IsType true (code "&" ++ setting.frame.lib "workflow :: Context") :=
    isType_lib_referenced setting.path false [⟨"workflow", rfl, rfl⟩, ⟨"Context", rfl, rfl⟩] rfl
  refine .bind (userClosure_gives ⟨"workflow", rfl, rfl⟩ hplain hcontext) fun closure hclosure => ?_
  have hshared : IsOperand (.punct '&' false :: (BarePath.single ⟨"workflow", rfl, rfl⟩).tokens) :=
    ((BarePath.single _).isAtom.isOperand fun _ h => .member (.expr h)).referenced
      fun _ => ⟨rfl, rfl⟩
  have hcall := (isLead_lib setting.path function first names hfunction
    (.cons (Name.isExpr ⟨"ctx", rfl, rfl⟩) (.cons constant.isExpr (.last hclosure)))
    (.question .nil)).isStatement
  have hbody := IsBody.cons (isStatement_cloned ⟨"workflow", rfl, rfl⟩ hshared) hcall.isBody
  have hblock := hbody.isStatement
  refine .pure ?_
  simp only [List.append_assoc] at hblock ⊢
  exact hblock

theorem delegate_gives (call : Option UserCall) : (delegate call).Gives IsBody := by
  have hok {args : Code} (hargs : IsArguments args) : IsLead (code "Ok" ++ parens args) :=
    (BarePath.single ⟨"Ok", rfl, rfl⟩).isLead_tail (.inl nofun) (.call hargs .nil)
  cases call with
  | none =>
    have hignored : IsStatement (code "let _ =" ++ (parens (code "workflow , req") ++ code ";")) :=
      isTarget_underscore.isStatement ((Commas.isAtom (.cons (Name.isExpr ⟨"workflow", rfl, rfl⟩)
        (.last (Name.isExpr ⟨"req", rfl, rfl⟩)))).isOperand fun _ _ => trivial).isExpr
    have hdefault : IsExpr (code "Default :: default" ++ parens []) :=
      ((BarePath.mk false (.name ⟨"Default", rfl, rfl⟩) [.name ⟨"default", rfl, rfl⟩]).isOperand
        (.call .nil .nil)).isExpr
    have hbody := IsBody.cons hignored (.result (hok (.last hdefault)))
    exact .pure hbody
  | some call =>
    refine .bind (.ident call.method) ?_
    rintro - ⟨method, rfl⟩
    have hresult : IsExpr (code "workflow ." ++ [.ident method.text] ++
        parens (commas (directArguments call)) ++ if call.isFallible then code "?" else []) := by
      split
      · exact ((BarePath.single ⟨"workflow", rfl, rfl⟩).isOperand
          (.method method (isArguments_direct call) (.question .nil))).isExpr
      · exact ((BarePath.single ⟨"workflow", rfl, rfl⟩).isOperand
          (.method method (isArguments_direct call) .nil)).isExpr
    exact .pure (.result (hok (.last hresult)))

variable (setting) in
/-- The method by which a controller registers its workflow with a worker. -/
theorem isPiece_register :
    IsPiece Member.ofImplementation (code "pub fn register" ++
      parens (code "self , worker : & mut" ++ setting.frame.lib "worker :: Worker") ++
      braces (code "let controller = :: std :: sync :: Arc :: new" ++ parens (code "self") ++
        code ";" ++ code "worker . register_workflow" ++
        parens (setting.frame.nameConstant ++ code ", move |" ++ setting.frame.contextParam ++
          code ", req :" ++ setting.frame.request ++ code "| controller . execute" ++
          parens (code "ctx , req") ++ code ",") ++ code ";")) := by
  have hshared : IsStatement (code "let controller = :: std :: sync :: Arc :: new" ++
      (parens (code "self") ++ code ";")) :=
    (Name.isTarget ⟨"controller", rfl, rfl⟩).isStatement
      ((BarePath.mk true (.name ⟨"std", rfl, rfl⟩) [.name ⟨"sync", rfl, rfl⟩,
        .name ⟨"Arc", rfl, rfl⟩, .name ⟨"new", rfl, rfl⟩]).isOperand
          (.call (.last (selfPath.isOperand .nil).isExpr) .nil)).isExpr
  have hcontext : IsClosureParam setting.frame.contextParam :=
    ⟨⟨"ctx", rfl, rfl⟩, _, isType_lib_referenced setting.path false
      [⟨"workflow", rfl, rfl⟩, ⟨"Context", rfl, rfl⟩] rfl, rfl⟩
  have hrequest : IsClosureParam (code "req :" ++ setting.request) :=
    ⟨⟨"req", rfl, rfl⟩, setting.request, setting.isType_request, rfl⟩
  have hcall : IsExpr (code "controller . execute" ++ parens (code "ctx , req")) :=
    ((BarePath.single ⟨"controller", rfl, rfl⟩).isOperand (.method ⟨"execute", rfl, rfl⟩
      (.cons (Name.isExpr ⟨"ctx", rfl, rfl⟩) (.last (Name.isExpr ⟨"req", rfl, rfl⟩)))
      .nil)).isExpr
  have hclosure := ((isAtom_closure true false (.cons hcontext (.last hrequest)) nofun
    hcall).isOperand fun _ => id).isExpr
  have hregistered := ((BarePath.single ⟨"worker", rfl, rfl⟩).isLead_tail (.inl nofun)
    (.method ⟨"register_workflow", rfl, rfl⟩
      (.cons setting.nameConstant.isExpr (.cons hclosure .nil)) .nil)).isStatement
  have hnothing : ∀ type ∈ (none : Option Code), IsType true type := nofun
  have hmethod := isPiece_method true ⟨"register", rfl, rfl⟩ (isParams_worker setting.path) hnothing
    (.cons hshared hregistered.isBody)
  simp only [barred, List.append_assoc, List.cons_append] at hmethod ⊢
  exact hmethod

variable (setting) in
/-- The method by which a controller runs its workflow. -/
theorem isPiece_execute {body : Code} (hbody : IsBody body) :
    IsPiece Member.ofImplementation (code "pub fn execute" ++
      parens (code "& self ," ++ setting.frame.contextParam ++ code ", req :" ++
        setting.frame.request ++ code ",") ++
      code "->" ++ setting.frame.result setting.frame.response ++ braces body) := by
  have hparams := isParams_behind (.cons (isParam_contextParam setting)
    (.cons (isParam_request setting) .nil))
  have hresult : ∀ type ∈ some (setting.frame.result setting.frame.response), IsType true type := by
    rintro type ⟨⟩
    exact isType_result setting setting.isType_response
  have hmethod := isPiece_method true ⟨"execute", rfl, rfl⟩ hparams hresult hbody
  simp only [List.append_assoc] at hmethod ⊢
  exact hmethod

theorem controller_gives (hplain : ∀ text ∈ setting.plan.controller.types, IsPlain text) :
    (controller setting.frame).Gives AreItems := by
  have hqueries : ∀ entry ∈ setting.plan.controller.queries,
      (handler setting.frame "workflow :: set_query_handler" entry).Gives IsStatement :=
    fun entry hentry => handler_gives ⟨"workflow", rfl, rfl⟩ [⟨"set_query_handler", rfl, rfl⟩] rfl
      fun text htext => hplain text (List.mem_append_left _
        (List.mem_flatMap.mpr ⟨entry, hentry, htext⟩))
  have hupdates : ∀ entry ∈ setting.plan.controller.updates,
      (handler setting.frame "workflow :: set_update_handler" entry).Gives IsStatement :=
    fun entry hentry => handler_gives ⟨"workflow", rfl, rfl⟩ [⟨"set_update_handler", rfl, rfl⟩] rfl
      fun text htext => hplain text (List.mem_append_right _
        (List.mem_flatMap.mpr ⟨entry, hentry, htext⟩))
  refine .bind (.ident setting.plan.controller.name) ?_
  rintro - ⟨name, rfl⟩
  refine .bind (.ident setting.plan.factory) ?_
  rintro - ⟨factory, rfl⟩
  refine .bind (.ident setting.plan.input.name) ?_
  rintro - ⟨input, rfl⟩
  refine .bind (.mapM fun channel _ => channelField_gives channel) fun channels hchannels => ?_
  refine .bind (.mapM hqueries) fun queries hqueries => ?_
  refine .bind (.mapM hupdates) fun updates hupdates => ?_
  refine .bind (delegate_gives setting.plan.controller.execute) fun delegate hdelegate => ?_
  have hreq : IsOperand (.punct '&' false :: (BarePath.single ⟨"req", rfl, rfl⟩).tokens) :=
    ((BarePath.single _).isAtom.isOperand fun _ h => .member (.expr h)).referenced
      fun _ => ⟨rfl, rfl⟩
  have hcopied : IsExpr (code ":: std :: clone :: Clone :: clone" ++ parens (code "& req")) :=
    ((BarePath.mk true (.name ⟨"std", rfl, rfl⟩) [.name ⟨"clone", rfl, rfl⟩,
      .name ⟨"Clone", rfl, rfl⟩, .name ⟨"clone", rfl, rfl⟩]).isOperand
        (.call (.last hreq.isExpr) .nil)).isExpr
  have hinput := (Name.isTarget ⟨"input", rfl, rfl⟩).isStatement (isExpr_structure input
    (.cons (.valued ⟨"request", rfl, rfl⟩ hcopied) (commas_flatten hchannels)))
  have hworkflow := (Name.isTarget ⟨"workflow", rfl, rfl⟩).isStatement
    ((Commas.isAtom (.last (isExpr_field ⟨"factory", rfl, rfl⟩ .nil))).operand
      (.call (.last (Name.isExpr ⟨"input", rfl, rfl⟩)) (.question .nil)) fun _ _ => trivial).isExpr
  have hbody := IsBody.cons hinput (.cons hworkflow
    (.flatten_append hqueries (.flatten_append hupdates hdelegate)))
  have hmembers := (IsPieces.ofPiece (isPiece_execute setting hbody)).append
    (.ofPiece (isPiece_register setting))
  have hcontroller := areItems_controller
    ("Runs `" ++ setting.plan.service ++
      "` workflows on a worker, building one implementation per run.")
    name ⟨"factory", rfl, rfl⟩ (BarePath.single factory).isType hmembers
  refine .pure ?_
  simp only [List.append_assoc, List.cons_append] at hcontroller ⊢
  exact hcontroller

end ServiceGen.Render.Workflow
