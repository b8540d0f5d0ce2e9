import ServiceGen.Proofs.Render.Syntax.Fragments

/-!
The code of an activity is made of items: its proxy, an interface with an implementation and the
function that makes it, and its controller, a structure with methods.
-/
namespace ServiceGen.Render.Activity

open Grammar Token

variable (path : BarePath)

theorem signature_gives {method : MethodPlan} (hplain : ∀ text ∈ method.types, IsPlain text) :
    (signature (library path) method).Gives IsSignature := by
  refine .bind (.ident method.name) ?_
  rintro - ⟨name, rfl⟩
  refine .bind (requestParam_gives (request_isPlain hplain) method.name) fun request hrequest => ?_
  refine .bind (.type (response_isPlain hplain) method.name) fun response hresponse => ?_
  have hsignature (result : Code) (hresult : IsType true result) :
      IsSignature (code "fn" ++ [.ident name.text] ++
        parens (code "& self , ctx : &" ++ (library path).lib "workflow :: Context" ++ code "," ++
          request ++ code "options : Option <" ++
          (library path).lib "workflow :: ActivityOptions" ++ code "> ,") ++
        code "->" ++ result) := by
    have hparams := IsParams.cons (isParam_self true) (.cons (isParam_context path) (hrequest _
      (.cons (isParam_options path "workflow :: ActivityOptions"
        [⟨"workflow", rfl, rfl⟩, ⟨"ActivityOptions", rfl, rfl⟩] rfl) .nil)))
    simp only [List.append_assoc] at hparams
    refine ⟨name, _, some result, ?_, fun type htype => Option.some.inj htype ▸ hresult, rfl⟩
    simp only [List.append_assoc]
    exact hparams
  dsimp only
  split
  · refine .bind (.pure ?_) fun result hresult => .pure (hsignature result hresult)
    simp only [List.append_assoc]
    exact isType_lib_of path [] ⟨"Result", rfl, rfl⟩ rfl hresponse
  · refine .bind (.pure ?_) fun result hresult => .pure (hsignature result hresult)
    simp only [List.append_assoc]
    exact isType_lib_of path [⟨"workflow", rfl, rfl⟩] ⟨"Future", rfl, rfl⟩ rfl hresponse
  · exact .bind .throw fun result hresult => .pure (hsignature result hresult)

/-- The options of a call that brings none are made by a closure. -/
theorem isStatement_defaultOptions (taskQueue : Name) :
    IsStatement (defaultOptions (library path) [.ident taskQueue.text]) := by
  have hseconds : IsExpr (code "30u64") := by
    refine isExpr_literal (isLiteral_of_first? ⟨'3', _, rfl, by decide⟩ rfl ?_)
    rintro c more (rfl | rfl | rfl | rfl) <;> rfl
  have hduration : IsExpr (code ":: std :: time :: Duration :: from_secs" ++
      parens (code "30u64")) :=
    ((BarePath.mk true (.name ⟨"std", rfl, rfl⟩) [.name ⟨"time", rfl, rfl⟩,
      .name ⟨"Duration", rfl, rfl⟩, .name ⟨"from_secs", rfl, rfl⟩]).isOperand
        (.call (.last hseconds) .nil)).isExpr
  have hmade : IsBody ((library path).lib "workflow :: ActivityOptions :: new" ++
      (parens [.ident taskQueue.text] ++ (code ". with_start_to_close_timeout" ++
        parens (code ":: std :: time :: Duration :: from_secs" ++ (parens (code "30u64") ++
          code ","))))) :=
    .result (isLead_lib path _ ⟨"workflow", rfl, rfl⟩
      [⟨"ActivityOptions", rfl, rfl⟩, ⟨"new", rfl, rfl⟩] rfl (.last taskQueue.isExpr)
      (.method ⟨"with_start_to_close_timeout", rfl, rfl⟩ (.cons hduration .nil) .nil))
  have hclosure : IsExpr (code "||" ++ braces _) :=
    ((isAtom_closure false true .nil (fun _ => rfl) (isExpr_block hmade)).isOperand
      fun _ => id).isExpr
  have hvalue := ((BarePath.single ⟨"options", rfl, rfl⟩).isOperand
    (.method ⟨"unwrap_or_else", rfl, rfl⟩ (.last hclosure) .nil)).isExpr
  rw [defaultOptions]
  simp only [List.append_assoc]
  exact (Name.isTarget ⟨"options", rfl, rfl⟩).isStatement hvalue

theorem body_gives (plan : ActivityPlan) (method : MethodPlan) :
    (body (library path) plan method).Gives IsBody := by
  unfold body
  split
  · refine .bind (.ident (Naming.asyncMethod method.name)) ?_
    rintro - ⟨asyncMethod, rfl⟩
    have hargs : IsArguments
        (code "ctx ," ++ (if method.request.isSome then code "req ," else []) ++
          code "options") := by
      split
      · exact .cons (Name.isExpr ⟨"ctx", rfl, rfl⟩) (.cons (Name.isExpr ⟨"req", rfl, rfl⟩)
          (.last (Name.isExpr ⟨"options", rfl, rfl⟩)))
      · exact .cons (Name.isExpr ⟨"ctx", rfl, rfl⟩) (.last (Name.isExpr ⟨"options", rfl, rfl⟩))
    refine .pure (.result ?_)
    exact selfPath_isLead (.method asyncMethod hargs (.method ⟨"get", rfl, rfl⟩
      (.last (Name.isExpr ⟨"ctx", rfl, rfl⟩)) .nil))
  · refine .bind (.ident plan.taskQueueConstant) ?_
    rintro - ⟨taskQueue, rfl⟩
    split
    · exact .throw
    · next text htext =>
      refine .bind (.ident text) ?_
      rintro - ⟨constant, rfl⟩
      have hargs : IsArguments (code "ctx , options ," ++ [.ident constant.text] ++ code "," ++
          requestArgument method.request) :=
        .cons (Name.isExpr ⟨"ctx", rfl, rfl⟩) (.cons (Name.isExpr ⟨"options", rfl, rfl⟩)
          (.cons constant.isExpr (.last (isExpr_requestArgument method.request))))
      have hcall := isLead_lib path "workflow :: execute_activity" ⟨"workflow", rfl, rfl⟩
        [⟨"execute_activity", rfl, rfl⟩] rfl hargs .nil
      refine .pure ?_
      simp only [List.append_assoc]
      exact .cons (isStatement_defaultOptions path taskQueue) (.result hcall)
  · exact .throw

/-- A method of the proxy is one. -/
theorem proxyMethod_gives (plan : ActivityPlan) {method : MethodPlan}
    (hplain : ∀ text ∈ method.types, IsPlain text) :
    (proxyMethod (library path) plan method).Gives IsMethod :=
  .bind (signature_gives path hplain) fun _ hsignature =>
    .bind (body_gives path plan method) fun _ hbody => .pure ⟨hsignature, hbody⟩

theorem proxy_gives {plan : ActivityPlan} (hplain : ∀ text ∈ plan.proxy.types, IsPlain text) :
    (proxy (library path) plan).Gives AreItems := by
  have hmethods : ∀ method ∈ plan.proxy.methods, (proxyMethod (library path) plan method).Gives
      IsMethod := fun method hmethod => proxyMethod_gives path plan fun text htext =>
    hplain text (List.mem_flatMap.mpr ⟨method, hmethod, htext⟩)
  refine .bind (.ident plan.proxy.name) ?_
  rintro - ⟨interface, rfl⟩
  refine .bind (.ident plan.proxy.implementation) ?_
  rintro - ⟨implementation, rfl⟩
  refine .bind (.ident plan.proxyConstructor) ?_
  rintro - ⟨constructor, rfl⟩
  refine .bind (.mapM hmethods) fun methods hmethods => .pure ?_
  have hmade : IsBody (code "Box :: new" ++ parens [.ident implementation.text]) :=
    .result (isLead_boxed (.last implementation.isExpr))
  simp only [List.append_assoc]
  exact (areItems_documented _ (isBareItem_interface interface hmethods)).append
    ((areItems_implementation interface implementation .nothing hmethods).append
      (areItems_constructor constructor interface .nil hmade))

/-- The registration of an operation is a block. -/
theorem registration_gives {entry : Registration} (hplain : ∀ text ∈ entry.types, IsPlain text) :
    (registration (library path) entry).Gives IsStatement := by
  refine .bind (.ident entry.constant) ?_
  rintro - ⟨constant, rfl⟩
  have hcontext : IsType true (code "&" ++ (library path).lib "activity :: Context") :=
    isType_lib_referenced path false [⟨"activity", rfl, rfl⟩, ⟨"Context", rfl, rfl⟩] rfl
  refine .bind (userClosure_gives ⟨"inner", rfl, rfl⟩ hplain hcontext) fun closure hclosure => ?_
  have hcall : IsStatement (code "worker . register_activity" ++
      (parens ([.ident constant.text] ++ (code "," ++ closure)) ++ code ";")) :=
    ((BarePath.single ⟨"worker", rfl, rfl⟩).isLead_tail (.inl nofun)
      (.method ⟨"register_activity", rfl, rfl⟩ (.cons constant.isExpr (.last hclosure))
        .nil)).isStatement
  refine .pure ?_
  simp only [List.append_assoc]
  exact (IsBody.cons isStatement_inner (.cons hcall .nil)).isStatement

theorem controller_gives {plan : ActivityPlan}
    (hplain : ∀ text ∈ plan.registrations.flatMap Registration.types, IsPlain text) :
    (controller (library path) plan).Gives AreItems := by
  have hregistrations : ∀ entry ∈ plan.registrations,
      (registration (library path) entry).Gives IsStatement :=
    fun entry hentry => registration_gives path fun text htext =>
      hplain text (List.mem_flatMap.mpr ⟨entry, hentry, htext⟩)
  refine .bind (.ident plan.service) ?_
  rintro - ⟨service, rfl⟩
  refine .bind (.ident plan.controller) ?_
  rintro - ⟨controller, rfl⟩
  refine .bind (.mapM hregistrations) fun registrations hregistrations => .pure ?_
  have hbody : IsBody
      (if registrations.isEmpty then [code "let _ = worker ;"] else registrations).flatten := by
    split
    · exact .cons (isTarget_underscore.isStatement (Name.isExpr ⟨"worker", rfl, rfl⟩)) .nil
    · simpa using IsBody.flatten_append hregistrations .nil
  have hnothing : ∀ type ∈ (none : Option Code), IsType true type := nofun
  have hregister : IsPieces Member.ofImplementation (code "pub fn register" ++
      (parens (code "self , worker : & mut" ++ (library path).lib "worker :: Worker") ++
        braces _)) :=
    .ofPiece (isPiece_method true ⟨"register", rfl, rfl⟩ (isParams_worker path) hnothing hbody)
  simp only [List.append_assoc]
  exact areItems_controller _ controller ⟨"inner", rfl, rfl⟩ (isType_sharedService service)
    hregister

theorem render_gives {plan : ActivityPlan}
    (hplain : ∀ text ∈ (ServicePlan.activity plan).types, IsPlain text) :
    (render (library path) plan).Gives AreItems :=
  .bind (proxy_gives path fun text htext => hplain text (List.mem_append_left _ htext))
    fun _ hproxy => .bind (controller_gives path fun text htext =>
      hplain text (List.mem_append_right _ htext)) fun _ hcontroller =>
        .pure (hproxy.append hcontroller)

end ServiceGen.Render.Activity

/-!
The code of a plain service is made of items: its controller, a structure with a method that answers
the handlers of all routes.
-/
namespace ServiceGen.Render.HttpService

open Grammar Token

variable (path : BarePath)

/-- The handler of a route is a block. -/
theorem handler_gives {route : Route} (hplain : ∀ text ∈ route.call.types, IsPlain text) :
    (handler (library path) route).Gives IsExpr := by
  refine .bind (.ident route.constant) ?_
  rintro - ⟨constant, rfl⟩
  have hcontext : IsType true (code "&" ++ (library path).lib "http :: Context") :=
    isType_lib_referenced path false [⟨"http", rfl, rfl⟩, ⟨"Context", rfl, rfl⟩] rfl
  refine .bind (userClosure_gives ⟨"inner", rfl, rfl⟩ hplain hcontext) fun closure hclosure => ?_
  have hargs : IsArguments
      (commas [quoted route.method, quoted route.path, [.ident constant.text], closure]) := by
    refine commas_of_forall ?_
    simp only [List.forall_mem_cons]
    exact ⟨isExpr_quoted route.method, isExpr_quoted route.path, constant.isExpr, hclosure, nofun⟩
  have hcall := isLead_lib path "http :: Handler :: new" ⟨"http", rfl, rfl⟩
    [⟨"Handler", rfl, rfl⟩, ⟨"new", rfl, rfl⟩] rfl hargs .nil
  have hbody := IsBody.cons isStatement_inner (.result hcall)
  refine .pure ?_
  simp only [List.append_assoc]
  exact isExpr_block hbody

theorem render_gives {plan : HttpServicePlan}
    (hplain : ∀ text ∈ (ServicePlan.service plan).types, IsPlain text) :
    (render (library path) plan).Gives AreItems := by
  have hroutes : ∀ route ∈ plan.routes, (handler (library path) route).Gives IsExpr :=
    fun route hroute => handler_gives path fun text htext =>
      hplain text (List.mem_flatMap.mpr ⟨route, hroute, htext⟩)
  refine .bind (.ident plan.service) ?_
  rintro - ⟨service, rfl⟩
  refine .bind (.ident plan.controller) ?_
  rintro - ⟨controller, rfl⟩
  refine .bind (.mapM hroutes) fun handlers hhandlers => .pure ?_
  have hbody : IsBody (code "vec !" ++ brackets (commas handlers)) :=
    .result (Name.isLead_call ⟨"vec", rfl, rfl⟩ (commas_of_forall hhandlers).expr_readable)
  have hresult : ∀ type ∈ some (code "Vec <" ++ ((library path).lib "http :: Handler" ++ code ">")),
      IsType true type := by
    rintro type ⟨⟩
    exact (Opening.mk none ⟨"Vec", rfl, rfl⟩).isType false
      (isType_lib path [⟨"http", rfl, rfl⟩, ⟨"Handler", rfl, rfl⟩] rfl)
  have hmethod :=
    isPiece_method true ⟨"handlers", rfl, rfl⟩ (.last (isParam_self true)) hresult hbody
  simp only [signature, Option.elim, List.append_assoc, List.cons_append] at hmethod ⊢
  exact areItems_controller _ controller ⟨"inner", rfl, rfl⟩ (isType_sharedService service)
    (.ofPiece hmethod)

end ServiceGen.Render.HttpService
