import ServiceGen.Proofs.Render.Syntax.Workflow.Signature

/-!
The bodies of the methods of a workflow's interfaces are bodies: calls on what the implementation
holds, calls of the library, and structures that are made of their answers.
-/
namespace ServiceGen.Render.Workflow

open Grammar Token

variable {setting : Setting} {interface : Interface} {method : MethodPlan} {handles : Handles}

/-! Calls on what an implementation holds -/

/-- A call without arguments. -/
theorem tail_call (name : Name) {callable : Bool} {more : Code} (hmore : Tail true more) :
    Tail callable (.punct '.' false :: .ident name.text :: (parens [] ++ more)) :=
  .method name .nil hmore

/-- A call that gets the context. -/
theorem tail_withContext (name : Name) {callable : Bool} :
    Tail callable (.punct '.' false :: .ident name.text :: parens (code "ctx")) :=
  .method name (.last (Name.isExpr ⟨"ctx", rfl, rfl⟩)) .nil

/-- A field of the value that a method is called on, with what stands behind it. -/
theorem isLead_field (field : Name) {more : Code} (hmore : Tail false more) :
    IsLead (selfPath.tokens ++ .punct '.' false :: .ident field.text :: more) :=
  selfPath_isLead (.field field hmore)

theorem isExpr_field (field : Name) {more : Code} (hmore : Tail false more) :
    IsExpr (selfPath.tokens ++ .punct '.' false :: .ident field.text :: more) :=
  (isLead_field field hmore).operand.isExpr

/-- A reference to a field of the value that a method is called on. -/
theorem isOperand_reference (field : Name) :
    IsOperand (.punct '&' false :: (selfPath.tokens ++ [.punct '.' false, .ident field.text])) :=
  (selfPath.isOperand (.field field .nil)).referenced fun _ => ⟨rfl, rfl⟩

theorem isBody_reference (field : Name) :
    IsBody (.punct '&' false :: (selfPath.tokens ++ [.punct '.' false, .ident field.text])) :=
  .result (isOperand_reference field).isLead_referenced

theorem constantOf_gives : (constantOf interface method).Gives IsName := by
  unfold constantOf
  split
  · exact .ident _
  · exact .throw

/-- A call of the library about the run behind a handle. -/
theorem isBody_aboutRun {function : String} (name : Name)
    (hfunction : code function = [.ident name.text]) (constant : Name) :
    IsBody (aboutRun function [.ident constant.text] method) := by
  have hworkflow := isExpr_field ⟨"run", rfl, rfl⟩ (tail_call ⟨"workflow_id", rfl, rfl⟩ .nil)
  have hrun := isExpr_field ⟨"run", rfl, rfl⟩ (tail_call ⟨"run_id", rfl, rfl⟩ .nil)
  have hargs := Commas.cons hworkflow (.cons hrun (.cons constant.isExpr
    (.cons (isExpr_requestArgument method.request) .nil)))
  have hcall := isLead_field ⟨"client", rfl, rfl⟩ (.method name hargs .nil)
  rw [aboutRun, hfunction]
  exact .result hcall

theorem isArguments_forwarded : IsArguments (forwarded method).flatten := by
  rw [forwarded]
  split
  · exact .last (Name.isExpr ⟨"req", rfl, rfl⟩)
  · exact .nil

theorem runBody_gives : (runBody interface method).Gives IsBody := by
  unfold runBody
  split
  · exact .pure
      (.result (isLead_field ⟨"run", rfl, rfl⟩ (tail_call ⟨"workflow_id", rfl, rfl⟩ .nil)))
  · exact .pure (.result (isLead_field ⟨"run", rfl, rfl⟩ (tail_call ⟨"run_id", rfl, rfl⟩ .nil)))
  · exact .pure (.result (isLead_field ⟨"run", rfl, rfl⟩ (tail_call ⟨"get", rfl, rfl⟩ .nil)))
  · refine .bind constantOf_gives ?_
    rintro - ⟨constant, rfl⟩
    exact .pure (isBody_aboutRun ⟨"query_workflow", rfl, rfl⟩ rfl constant)
  · refine .bind constantOf_gives ?_
    rintro - ⟨constant, rfl⟩
    exact .pure (isBody_aboutRun ⟨"signal_workflow", rfl, rfl⟩ rfl constant)
  · refine .bind (.ident (Naming.asyncMethod method.name)) ?_
    rintro - ⟨asyncMethod, rfl⟩
    exact .pure (.result (selfPath_isLead (.method asyncMethod isArguments_forwarded
      (.question (tail_call ⟨"get", rfl, rfl⟩ .nil)))))
  · refine .bind constantOf_gives ?_
    rintro - ⟨constant, rfl⟩
    exact .pure (isBody_aboutRun ⟨"update_workflow", rfl, rfl⟩ rfl constant)
  · exact .throw

theorem signalBody_gives : (signalBody method).Gives IsBody := by
  refine .bind (.ident (Naming.asyncMethod method.name)) ?_
  rintro - ⟨asyncMethod, rfl⟩
  have hargs : IsArguments (commas (code "ctx" :: forwarded method)) := by
    have hctx : IsExpr (code "ctx") := Name.isExpr ⟨"ctx", rfl, rfl⟩
    have hreq : IsExpr (code "req") := Name.isExpr ⟨"req", rfl, rfl⟩
    refine commas_of_forall (List.forall_mem_cons.mpr ⟨hctx, ?_⟩)
    simpa [forwarded] using fun _ => hreq
  exact .pure (.result (selfPath_isLead (.method asyncMethod hargs
    (tail_withContext ⟨"get", rfl, rfl⟩))))

theorem childRunBody_gives : (childRunBody interface method).Gives IsBody := by
  have hfuture {more : Code} (hmore : Tail false more) : IsBody (code "self . future" ++ more) :=
    .result (isLead_field ⟨"future", rfl, rfl⟩ hmore)
  have hcallback : IsExpr (code "f") := Name.isExpr ⟨"f", rfl, rfl⟩
  have hselector (name : Name) {args : Code} (hargs : IsArguments args) :
      IsBody (code "selector ." ++ (.ident name.text :: (parens args ++ code ";"))) :=
    ((BarePath.single ⟨"selector", rfl, rfl⟩).isLead_tail (.inl nofun)
      (.method name hargs .nil)).isStatement.isBody
  unfold childRunBody
  split
  · exact .pure (hfuture (tail_call ⟨"workflow_id", rfl, rfl⟩ .nil))
  · exact .pure (hfuture (tail_call ⟨"is_ready", rfl, rfl⟩ .nil))
  · exact .pure (isBody_reference ⟨"future", rfl, rfl⟩)
  · exact .pure (hfuture (tail_withContext ⟨"get", rfl, rfl⟩))
  · exact .pure (hfuture (tail_call ⟨"execution", rfl, rfl⟩ (tail_withContext ⟨"get", rfl, rfl⟩)))
  · exact .pure (hselector ⟨"add_child", rfl, rfl⟩
      (.cons (isOperand_reference ⟨"future", rfl, rfl⟩).isExpr (.last hcallback)))
  · exact .pure (hselector ⟨"add_future", rfl, rfl⟩
      (.cons (isExpr_field ⟨"future", rfl, rfl⟩ (tail_call ⟨"execution", rfl, rfl⟩ .nil))
        (.last hcallback)))
  · refine .bind constantOf_gives ?_
    rintro - ⟨constant, rfl⟩
    exact .pure (hfuture (.method ⟨"signal", rfl, rfl⟩ (.cons (Name.isExpr ⟨"ctx", rfl, rfl⟩)
      (.cons constant.isExpr (.last (isExpr_requestArgument method.request)))) .nil))
  · exact signalBody_gives
  · exact .throw

theorem externalRunBody_gives :
    (externalRunBody setting.frame interface method).Gives IsBody := by
  have hctx : IsExpr (code "ctx") := Name.isExpr ⟨"ctx", rfl, rfl⟩
  have hworkflow := (isOperand_reference ⟨"workflow_id", rfl, rfl⟩).isExpr
  have hrun := (isOperand_reference ⟨"run_id", rfl, rfl⟩).isExpr
  unfold externalRunBody
  split
  · exact .pure (isBody_reference ⟨"workflow_id", rfl, rfl⟩)
  · exact .pure (isBody_reference ⟨"run_id", rfl, rfl⟩)
  · have hcall := isLead_lib setting.path "workflow :: request_cancel_external_workflow"
      ⟨"workflow", rfl, rfl⟩ [⟨"request_cancel_external_workflow", rfl, rfl⟩] rfl
      (.cons hctx (.cons hworkflow (.last hrun))) (tail_withContext ⟨"get", rfl, rfl⟩)
    refine .pure (.result ?_)
    simp only [List.append_assoc]
    exact hcall
  · refine .bind constantOf_gives ?_
    rintro - ⟨constant, rfl⟩
    have hcall := isLead_lib setting.path "workflow :: signal_external_workflow"
      ⟨"workflow", rfl, rfl⟩ [⟨"signal_external_workflow", rfl, rfl⟩] rfl
      (.cons hctx (.cons hworkflow (.cons hrun (.cons constant.isExpr
        (.cons (isExpr_requestArgument method.request) .nil))))) .nil
    exact .pure (.result hcall)
  · exact signalBody_gives
  · exact .throw

/-! Clients -/

/-- The options of a start that brings none are made by a closure. -/
theorem isStatement_defaultOptions {options : String} (first : Name) (names : List Name)
    (hoptions : code "::" ++ code options = chain ((first :: names).map .name)) :
    IsStatement (defaultOptions setting.frame options) := by
  have hnew : (library setting.path).lib options ++ code ":: new" =
      (setting.path.join (first :: names ++ [⟨"new", rfl, rfl⟩])).tokens := by
    rw [lib_eq setting.path (first :: names) hoptions, BarePath.tokens_join, BarePath.tokens_join,
      List.map_append, BarePath.chain_append, List.append_assoc]
    rfl
  have hmade : IsExpr ((library setting.path).lib options ++ code ":: new" ++
      parens [.ident setting.taskQueue.text]) := by
    rw [hnew]
    exact (BarePath.isOperand _ (.call (.last setting.taskQueue.isExpr) .nil)).isExpr
  have hclosure := ((isAtom_closure false true .nil (fun _ => rfl) hmade).isOperand
    fun _ => id).isExpr
  have hvalue := ((BarePath.single ⟨"options", rfl, rfl⟩).isOperand
    (.method ⟨"unwrap_or_else", rfl, rfl⟩ (.last hclosure) .nil)).isExpr
  have hstatement := (Name.isTarget ⟨"options", rfl, rfl⟩).isStatement hvalue
  rw [defaultOptions]
  simp only [List.append_assoc] at hstatement ⊢
  exact hstatement

theorem isLead_runHandle (hhandles : handles.AreNames) : IsLead (runHandle handles) := by
  obtain ⟨name, hname⟩ := hhandles.run
  have hclient := isExpr_field ⟨"client", rfl, rfl⟩ (tail_call ⟨"clone", rfl, rfl⟩ .nil)
  have hfields : Commas IsField (code "client : self . client . clone" ++ parens [] ++
      code ", run ,") :=
    .cons (.valued ⟨"client", rfl, rfl⟩ hclient) (.cons (.named ⟨"run", rfl, rfl⟩) .nil)
  rw [runHandle, hname]
  exact isLead_boxed (.last (isExpr_structure name hfields))

/-- An answer that a start may fail to give. -/
theorem isBody_ok (hhandles : handles.AreNames) :
    IsBody (code "Ok" ++ parens (runHandle handles)) :=
  .result ((BarePath.single ⟨"Ok", rfl, rfl⟩).isLead_tail (.inl nofun)
    (.call (.last (isLead_runHandle hhandles).operand.isExpr) .nil))

/-- What the client answers is bound to the name of a run. -/
theorem isStatement_run {more : Code} (hmore : Tail false more) :
    IsStatement (.ident "let" :: ([.ident "run"] ++ .punct '=' false ::
      (selfPath.tokens ++ code ". client" ++ more ++ [semicolon]))) := by
  have hvalue := isExpr_field ⟨"client", rfl, rfl⟩ hmore
  exact (Name.isTarget ⟨"run", rfl, rfl⟩).isStatement hvalue

theorem clientBody_gives (hhandles : handles.AreNames) :
    (clientBody setting.frame interface method handles).Gives IsBody := by
  have hoptions : IsStatement (defaultOptions setting.frame "client :: StartWorkflowOptions") :=
    isStatement_defaultOptions ⟨"client", rfl, rfl⟩ [⟨"StartWorkflowOptions", rfl, rfl⟩] rfl
  have hgiven : IsExpr (code "options") := Name.isExpr ⟨"options", rfl, rfl⟩
  have hreq : IsExpr (code "req") := Name.isExpr ⟨"req", rfl, rfl⟩
  unfold clientBody
  dsimp only
  split
  · have hrun := isStatement_run (.method ⟨"execute_workflow", rfl, rfl⟩
      (.cons hgiven (.cons setting.nameConstant.isExpr (.last hreq))) (.question .nil))
    have hbody := IsBody.cons hoptions (.cons hrun (isBody_ok hhandles))
    refine .pure ?_
    simp only [List.append_assoc]
    exact hbody
  · have hrun := isStatement_run (.method ⟨"get_workflow", rfl, rfl⟩ (.last hgiven) .nil)
    have hbody := IsBody.cons hrun (.result (isLead_runHandle hhandles))
    refine .pure ?_
    simp only [List.append_assoc]
    exact hbody
  · refine .bind constantOf_gives ?_
    rintro - ⟨constant, rfl⟩
    have hrun := isStatement_run (.method ⟨"signal_with_start_workflow", rfl, rfl⟩
      (.cons hgiven (.cons constant.isExpr (.cons (Name.isExpr ⟨"signal", rfl, rfl⟩)
        (.cons setting.nameConstant.isExpr (.cons hreq .nil))))) (.question .nil))
    have hbody := IsBody.cons hoptions (.cons hrun (isBody_ok hhandles))
    refine .pure ?_
    simp only [List.append_assoc]
    exact hbody
  · exact .throw

theorem childClientBody_gives (hhandles : handles.AreNames) :
    (childClientBody setting.frame interface method handles).Gives IsBody := by
  have hctx : IsExpr (code "ctx") := Name.isExpr ⟨"ctx", rfl, rfl⟩
  have hreq : IsExpr (code "req") := Name.isExpr ⟨"req", rfl, rfl⟩
  have hgiven : IsExpr (code "options") := Name.isExpr ⟨"options", rfl, rfl⟩
  unfold childClientBody
  split
  · exact .pure (.result (selfPath_isLead (.method ⟨"execute_async", rfl, rfl⟩
      (.cons hctx (.cons hreq (.last hgiven))) (tail_withContext ⟨"get", rfl, rfl⟩))))
  · obtain ⟨name, hname⟩ := hhandles.childRun
    have hoptions : IsStatement (defaultOptions setting.frame "workflow :: ChildWorkflowOptions") :=
      isStatement_defaultOptions ⟨"workflow", rfl, rfl⟩ [⟨"ChildWorkflowOptions", rfl, rfl⟩] rfl
    have hcall := isLead_lib setting.path "workflow :: execute_child_workflow"
      ⟨"workflow", rfl, rfl⟩ [⟨"execute_child_workflow", rfl, rfl⟩] rfl
      (.cons hctx (.cons hgiven (.cons setting.nameConstant.isExpr (.last hreq)))) .nil
    have hfuture := (Name.isTarget ⟨"future", rfl, rfl⟩).isStatement hcall.operand.isExpr
    have hfields : Commas IsField (code "future") := .last (.named ⟨"future", rfl, rfl⟩)
    have hmade := isLead_boxed (.last (isExpr_structure name hfields))
    have hbody := IsBody.cons hoptions (.cons hfuture (.result hmade))
    refine .pure ?_
    rw [hname]
    simp only [List.append_assoc, List.cons_append] at hbody ⊢
    exact hbody
  · obtain ⟨name, hname⟩ := hhandles.externalRun
    have hshown (name : Name) : IsExpr (.ident name.text :: (code ". to_string" ++ parens [])) :=
      ((BarePath.single name).isOperand (tail_call ⟨"to_string", rfl, rfl⟩ .nil)).isExpr
    have hfields := Commas.cons
      (.valued ⟨"workflow_id", rfl, rfl⟩ (hshown ⟨"workflow_id", rfl, rfl⟩))
      (.cons (IsField.valued ⟨"run_id", rfl, rfl⟩ (hshown ⟨"run_id", rfl, rfl⟩)) .nil)
    have hmade := isLead_boxed (.last (isExpr_structure name hfields))
    rw [hname]
    exact .pure (.result hmade)
  · exact .throw

theorem body_gives : (body setting.frame interface method).Gives IsBody := by
  refine .bind (implementations_gives setting.plan) fun handles hhandles => ?_
  split
  · exact runBody_gives
  · exact childRunBody_gives
  · exact externalRunBody_gives
  · exact clientBody_gives hhandles
  · exact childClientBody_gives hhandles
  · exact .throw

end ServiceGen.Render.Workflow

/-!
The interfaces of a workflow with their implementations, and the functions that make the clients,
are items.
-/
namespace ServiceGen.Render.Workflow

open Grammar Token

variable (setting : Setting)

theorem isType_client : IsType true (setting.frame.lib "client :: Client") :=
  isType_lib setting.path [⟨"client", rfl, rfl⟩, ⟨"Client", rfl, rfl⟩] rfl

/-- A field of an implementation. -/
theorem isDeclaredField (name : Name) {type : Code} (htype : IsType true type) :
    IsDeclaredField (.ident name.text :: .punct ':' false :: type) :=
  ⟨false, name, type, htype, rfl⟩

theorem fields_isData (role : InterfaceRole) : IsData (fields setting.frame role) := by
  have hclient := isDeclaredField ⟨"client", rfl, rfl⟩ (isType_client setting)
  have hstring : IsType true (code "String") := (BarePath.single ⟨"String", rfl, rfl⟩).isType
  cases role with
  | run =>
    have htype : IsType true (setting.frame.lib "client :: WorkflowRun") :=
      isType_lib setting.path [⟨"client", rfl, rfl⟩, ⟨"WorkflowRun", rfl, rfl⟩] rfl
    have hrun := isDeclaredField ⟨"run", rfl, rfl⟩ htype
    have hfields := Commas.cons hclient (.cons hrun .nil)
    simp only [fields, List.append_assoc] at hfields ⊢
    exact .fields hfields
  | childRun =>
    exact .fields (.cons (isDeclaredField ⟨"future", rfl, rfl⟩ (isType_lib setting.path
      [⟨"workflow", rfl, rfl⟩, ⟨"ChildWorkflowFuture", rfl, rfl⟩] rfl)) .nil)
  | externalRun =>
    exact .fields (.cons (isDeclaredField ⟨"workflow_id", rfl, rfl⟩ hstring)
      (.cons (isDeclaredField ⟨"run_id", rfl, rfl⟩ hstring) .nil))
  | client => exact .fields (.cons hclient .nil)
  | childClient | activityProxy => exact .nothing

variable {setting}

theorem interface_gives {plan : Interface} (hplain : ∀ text ∈ plan.types, IsPlain text) :
    (interface setting.frame plan).Gives AreItems := by
  have hmethods : ∀ method ∈ plan.methods, (interfaceMethod setting.frame plan method).Gives
      IsMethod := by
    intro method hmethod
    have htypes : ∀ text ∈ method.types, IsPlain text :=
      fun text htext => hplain text (List.mem_flatMap.mpr ⟨method, hmethod, htext⟩)
    exact .bind (signature_gives plan htypes) fun _ hsignature =>
      .bind body_gives fun _ hbody => .pure ⟨hsignature, hbody⟩
  refine .bind (.ident plan.name) ?_
  rintro - ⟨name, rfl⟩
  refine .bind (.ident plan.implementation) ?_
  rintro - ⟨implementation, rfl⟩
  refine .bind (.mapM hmethods) fun methods hmethods => .pure ?_
  simp only [List.append_assoc]
  exact (areItems_documented _ (isBareItem_interface name hmethods)).append
    (areItems_implementation name implementation (fields_isData setting plan.role) hmethods)

theorem constructors_gives : (constructors setting.frame).Gives AreItems := by
  refine .bind (.ident setting.plan.client.name) ?_
  rintro - ⟨client, rfl⟩
  refine .bind (.ident setting.plan.client.implementation) ?_
  rintro - ⟨clientImplementation, rfl⟩
  refine .bind (.ident setting.plan.clientConstructor) ?_
  rintro - ⟨clientConstructor, rfl⟩
  refine .bind (.ident setting.plan.childClient.name) ?_
  rintro - ⟨childClient, rfl⟩
  refine .bind (.ident setting.plan.childClient.implementation) ?_
  rintro - ⟨childClientImplementation, rfl⟩
  refine .bind (.ident setting.plan.childClientConstructor) ?_
  rintro - ⟨childClientConstructor, rfl⟩
  have hclient : IsBody (code "Box :: new" ++ parens ([.ident clientImplementation.text] ++
      braces (code "client"))) :=
    .result (isLead_boxed (.last (isExpr_structure clientImplementation
      (.last (.named ⟨"client", rfl, rfl⟩)))))
  have hchildClient :
      IsBody (code "Box :: new" ++ parens [.ident childClientImplementation.text]) :=
    .result (isLead_boxed (.last childClientImplementation.isExpr))
  have hparams : IsParams true (code "client :" ++ setting.frame.lib "client :: Client") :=
    .last ((isType_client setting).isParam ⟨"client", rfl, rfl⟩)
  refine .pure ?_
  simp only [List.append_assoc]
  exact (areItems_constructor clientConstructor client hparams hclient).append
    (areItems_constructor childClientConstructor childClient .nil hchildClient)

end ServiceGen.Render.Workflow
