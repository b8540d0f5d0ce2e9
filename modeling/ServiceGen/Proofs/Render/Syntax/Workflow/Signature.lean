import ServiceGen.Proofs.Render.Syntax.Fragments

/-!
The declarations of the methods of a workflow's interfaces are signatures.
-/
namespace ServiceGen.Render.Workflow

open Grammar Token

/-- What the code of a workflow refers to: the library, its constants and its types. -/
structure Setting where
  path : BarePath
  plan : WorkflowPlan
  nameConstant : Name
  taskQueue : Name
  request : Code
  response : Code
  isType_request : IsType true request
  isType_response : IsType true response

def Setting.frame (setting : Setting) : Frame :=
  { context := library setting.path
    plan := setting.plan
    nameConstant := [.ident setting.nameConstant.text]
    taskQueue := [.ident setting.taskQueue.text]
    request := setting.request
    response := setting.response }

theorem frame_gives (path : BarePath) {plan : WorkflowPlan} (hrequest : IsPlain plan.request)
    (hresponse : IsPlain plan.response) :
    (Frame.of (library path) plan).Gives fun frame =>
      ∃ setting : Setting, setting.plan = plan ∧ frame = setting.frame := by
  refine .bind (.ident plan.nameConstant) ?_
  rintro - ⟨nameConstant, rfl⟩
  refine .bind (.ident plan.taskQueueConstant) ?_
  rintro - ⟨taskQueue, rfl⟩
  refine .bind (.type hrequest plan.service) fun request hrequest => ?_
  refine .bind (.type hresponse plan.service) fun response hresponse => .pure ?_
  exact ⟨⟨path, plan, nameConstant, taskQueue, request, response, hrequest, hresponse⟩, rfl, rfl⟩

/-- The names of three handles, or of their implementations. -/
structure Handles.AreNames (handles : Handles) : Prop where
  run : IsName handles.run
  childRun : IsName handles.childRun
  externalRun : IsName handles.externalRun

theorem interfaces_gives (plan : WorkflowPlan) : (Handles.interfaces plan).Gives Handles.AreNames :=
  .bind (.ident _) fun _ hrun => .bind (.ident _) fun _ hchildRun =>
    .bind (.ident _) fun _ hexternalRun => .pure ⟨hrun, hchildRun, hexternalRun⟩

theorem implementations_gives (plan : WorkflowPlan) :
    (Handles.implementations plan).Gives Handles.AreNames :=
  .bind (.ident _) fun _ hrun => .bind (.ident _) fun _ hchildRun =>
    .bind (.ident _) fun _ hexternalRun => .pure ⟨hrun, hchildRun, hexternalRun⟩

/-- What a declaration says is sound if its parameters and its result are. -/
structure Declared.IsSound (declared : Declared) : Prop where
  params : IsParams true declared.params
  result : ∀ type ∈ declared.result, IsType true type

theorem Declared.isSound_answering {params result : Code} (hparams : IsParams true params)
    (hresult : IsType true result) : (answering params result).IsSound :=
  ⟨hparams, fun _ htype => Option.some.inj htype ▸ hresult⟩

variable (setting : Setting)

/-! Types and parameters -/

theorem isType_result {value : Code} (hvalue : IsType true value) :
    IsType true (setting.frame.result value) := by
  rw [Frame.result, List.append_assoc]
  exact isType_lib_of setting.path [] ⟨"Result", rfl, rfl⟩ rfl hvalue

theorem isType_boxedResult {interface : Code} (hinterface : IsName interface) :
    IsType true (setting.frame.boxedResult interface) := by
  obtain ⟨name, rfl⟩ := hinterface
  have hlib : setting.frame.lib "Result < Box < dyn" =
      (library setting.path).lib "Result <" ++ code "Box < dyn" :=
    lib_split setting.path "Result <" rfl
  have htype : IsType true ((library setting.path).lib "Result <" ++ _) :=
    isType_lib_nested setting.path [] ⟨"Result", rfl, rfl⟩ ⟨none, ⟨"Box", rfl, rfl⟩⟩ rfl
      (BarePath.single name).isType_object
  rw [Frame.boxedResult, hlib]
  simp only [List.append_assoc]
  exact htype

theorem isType_str : IsType true (code "& str") :=
  (BarePath.single ⟨"str", rfl, rfl⟩).isType.referenced false

theorem isType_unit : IsType true (parens []) := PlainType.unit.isType

theorem isType_execution : IsType true (setting.frame.lib "workflow :: Execution") :=
  isType_lib setting.path [⟨"workflow", rfl, rfl⟩, ⟨"Execution", rfl, rfl⟩] rfl

theorem isParams_self : IsParams true (code "& self") := .last (isParam_self true)

/-- Parameters behind that for the value which a method is called on. -/
theorem isParams_behind {params : Code} (hparams : IsParams false params) :
    IsParams true (code "& self ," ++ params) := .cons (isParam_self true) hparams

theorem isParam_contextParam {isFirst : Bool} : IsParam isFirst setting.frame.contextParam :=
  isParam_context setting.path

theorem isParam_request {isFirst : Bool} : IsParam isFirst (code "req :" ++ setting.request) :=
  setting.isType_request.isParam ⟨"req", rfl, rfl⟩

theorem isParams_selecting {answer : Code} (hanswer : IsType true answer) :
    IsParams true (selecting setting.frame answer) := by
  have hselector :
      IsParam false (code "selector : & mut" ++ setting.frame.lib "workflow :: Selector") :=
    (isType_lib_referenced setting.path true [⟨"workflow", rfl, rfl⟩, ⟨"Selector", rfl, rfl⟩]
      rfl).isParam ⟨"selector", rfl, rfl⟩
  have hfunction : IsType true (.ident "dyn" :: (functionTrait ⟨"FnOnce", rfl, rfl⟩
      (setting.frame.result answer) none ++ markers [⟨"Send", rfl, rfl⟩])) :=
    .function ⟨"FnOnce", rfl, rfl⟩ ⟨"Send", rfl, rfl⟩ [] (isType_result setting hanswer) nofun
  have hcallback : IsParam false _ :=
    ((Opening.mk none ⟨"Box", rfl, rfl⟩).isType false hfunction).isParam ⟨"f", rfl, rfl⟩
  have hparams := isParams_behind (.cons hselector (.cons hcallback .nil))
  simp only [selecting, List.append_assoc] at hparams ⊢
  exact hparams

theorem isParams_starting {signal : Code} (hsignal : LeadsParams signal) :
    IsParams true (starting setting.frame signal) := by
  have hoptions : IsParam false _ := isParam_options setting.path "client :: StartWorkflowOptions"
    [⟨"client", rfl, rfl⟩, ⟨"StartWorkflowOptions", rfl, rfl⟩] rfl
  have hparams :=
    isParams_behind (.cons (isParam_request setting) (hsignal _ (.cons hoptions .nil)))
  simp only [starting, List.append_assoc] at hparams ⊢
  exact hparams

theorem isParams_startingChild : IsParams true (startingChild setting.frame) := by
  have hoptions : IsParam false _ := isParam_options setting.path "workflow :: ChildWorkflowOptions"
    [⟨"workflow", rfl, rfl⟩, ⟨"ChildWorkflowOptions", rfl, rfl⟩] rfl
  have hparams := isParams_behind (.cons (isParam_contextParam setting)
    (.cons (isParam_request setting) (.cons hoptions .nil)))
  simp only [startingChild, List.append_assoc] at hparams ⊢
  exact hparams

/-! Declarations -/

variable {setting} {method : MethodPlan} {handles : Handles} {request response : Code}

/-- That a declaration, if there is one, is sound. -/
def IsSound? (declared : Option Declared) : Prop := ∀ found ∈ declared, found.IsSound

theorem isSound?_none : IsSound? none := nofun

theorem isSound?_answering {params result : Code} (hparams : IsParams true params)
    (hresult : IsType true result) : IsSound? (some (.answering params result)) := by
  rintro found ⟨⟩
  exact Declared.isSound_answering hparams hresult

theorem runDeclared_isSound (hrequest : LeadsParams request) (hresponse : IsType true response) :
    IsSound? (runDeclared setting.frame method request response) := by
  have hparams : IsParams true (code "& self ," ++ request) := isParams_behind hrequest.isParams
  have hresult : IsType true (setting.frame.result response) := isType_result setting hresponse
  unfold runDeclared
  split
  · exact isSound?_answering isParams_self hresult
  · exact isSound?_answering hparams hresult
  · exact isSound?_answering hparams hresult
  · have hlib : setting.frame.lib "client :: UpdateHandle <" =
        (Opening.mk (setting.path.join [⟨"client", rfl, rfl⟩]) ⟨"UpdateHandle", rfl, rfl⟩).code ++
          code "<" :=
      lib_eq_opening setting.path _ [⟨"client", rfl, rfl⟩] ⟨"UpdateHandle", rfl, rfl⟩ rfl
    refine isSound?_answering hparams ?_
    rw [hlib]
    simp only [List.append_assoc]
    exact isType_lib_nested setting.path [] ⟨"Result", rfl, rfl⟩ _ rfl hresponse
  · exact isSound?_answering hparams (isType_result setting isType_unit)
  · exact isSound?_none

theorem signalDeclared_isSound (hrequest : LeadsParams request) :
    IsSound? (signalDeclared setting.frame method request) := by
  have hparams := isParams_behind (.cons (isParam_contextParam setting) hrequest.isParams)
  unfold signalDeclared
  simp only [List.append_assoc]
  split
  · exact isSound?_answering hparams (isType_result setting isType_unit)
  · exact isSound?_answering hparams (isType_lib_of setting.path [⟨"workflow", rfl, rfl⟩]
      ⟨"Future", rfl, rfl⟩ rfl isType_unit)
  · exact isSound?_none

theorem childRunDeclared_isSound (hrequest : LeadsParams request)
    (hresponse : IsType true response) :
    IsSound? (childRunDeclared setting.frame method request response) := by
  have hparams : IsParams true (code "& self ," ++ setting.frame.contextParam) :=
    isParams_behind (.last (isParam_contextParam setting))
  have hselecting {answer : Code} (hanswer : IsType true answer) :
      IsSound? (some ⟨selecting setting.frame answer, none⟩) := by
    rintro found ⟨⟩
    exact ⟨isParams_selecting setting hanswer, nofun⟩
  unfold childRunDeclared
  dsimp only
  split
  · exact isSound?_answering isParams_self (BarePath.single ⟨"bool", rfl, rfl⟩).isType
  · exact isSound?_answering isParams_self (isType_lib_referenced setting.path false
      [⟨"workflow", rfl, rfl⟩, ⟨"ChildWorkflowFuture", rfl, rfl⟩] rfl)
  · exact isSound?_answering hparams (isType_result setting hresponse)
  · exact isSound?_answering hparams (isType_result setting (isType_execution setting))
  · exact hselecting hresponse
  · exact hselecting (isType_execution setting)
  · exact signalDeclared_isSound hrequest

theorem externalRunDeclared_isSound (hrequest : LeadsParams request) :
    IsSound? (externalRunDeclared setting.frame method request) := by
  unfold externalRunDeclared
  split
  · exact isSound?_answering (isParams_behind (.last (isParam_contextParam setting)))
      (isType_result setting isType_unit)
  · exact signalDeclared_isSound hrequest

theorem clientDeclared_gives (hplain : ∀ text ∈ method.types, IsPlain text)
    (hhandles : handles.AreNames) :
    (clientDeclared setting.frame method handles).Gives IsSound? := by
  have hresult := isType_boxedResult setting hhandles.run
  unfold clientDeclared
  split
  · exact .pure (isSound?_answering (isParams_starting setting fun _ => id) hresult)
  · obtain ⟨name, hname⟩ := hhandles.run
    have hoptions : IsParam false (code "options :" ++
        setting.frame.lib "client :: GetHandleOptions") :=
      (isType_lib setting.path [⟨"client", rfl, rfl⟩, ⟨"GetHandleOptions", rfl, rfl⟩] rfl).isParam
        ⟨"options", rfl, rfl⟩
    exact .pure (isSound?_answering (isParams_behind (.last hoptions)) (hname ▸ isType_boxed name))
  · next text hkind =>
    have htext : IsPlain text := hplain text (by simp [MethodPlan.types, hkind, MethodKind.types])
    refine .bind (.type htext method.name) fun signal hsignal => .pure ?_
    have hleads : LeadsParams (code "signal :" ++ signal ++ code ",") := by
      intro more hmore
      simp only [List.append_assoc]
      exact .cons (hsignal.isParam ⟨"signal", rfl, rfl⟩) hmore
    exact isSound?_answering (isParams_starting setting hleads) hresult
  · exact .pure isSound?_none

theorem childClientDeclared_isSound (hhandles : handles.AreNames)
    (hresponse : IsType true response) :
    IsSound? (childClientDeclared setting.frame method handles response) := by
  have hboxed {interface : Code} (hinterface : IsName interface) :
      IsType true (boxed interface) := by
    obtain ⟨name, rfl⟩ := hinterface
    exact isType_boxed name
  unfold childClientDeclared
  split
  · exact isSound?_answering (isParams_startingChild setting) (isType_result setting hresponse)
  · exact isSound?_answering (isParams_startingChild setting) (hboxed hhandles.childRun)
  · refine isSound?_answering (isParams_behind ?_) (hboxed hhandles.externalRun)
    exact .cons (isType_str.isParam ⟨"workflow_id", rfl, rfl⟩)
      (.last (isType_str.isParam ⟨"run_id", rfl, rfl⟩))
  · exact isSound?_none

theorem declared_gives (role : InterfaceRole) (hplain : ∀ text ∈ method.types, IsPlain text)
    (hhandles : handles.AreNames) (hrequest : LeadsParams request)
    (hresponse : IsType true response) :
    (declared setting.frame role method handles request response).Gives IsSound? := by
  unfold declared
  dsimp only
  split
  · exact .pure (isSound?_answering isParams_self isType_str)
  · exact .pure (isSound?_answering isParams_self isType_str)
  · exact .pure (runDeclared_isSound hrequest hresponse)
  · exact .pure (childRunDeclared_isSound hrequest hresponse)
  · exact .pure (externalRunDeclared_isSound hrequest)
  · exact clientDeclared_gives hplain hhandles
  · exact .pure (childClientDeclared_isSound hhandles hresponse)
  · exact .pure isSound?_none

theorem signature_gives (interface : Interface) (hplain : ∀ text ∈ method.types, IsPlain text) :
    (signature setting.frame interface method).Gives IsSignature := by
  refine .bind (.ident method.name) ?_
  rintro - ⟨name, rfl⟩
  refine .bind (requestParam_gives (request_isPlain hplain) method.name) fun request hrequest => ?_
  refine .bind (.type (response_isPlain hplain) method.name) fun response hresponse => ?_
  refine .bind (interfaces_gives setting.plan) fun handles hhandles => ?_
  refine .bind (declared_gives interface.role hplain hhandles hrequest hresponse)
    fun found hfound => ?_
  split
  · exact .throw
  · next declared =>
    obtain ⟨hparams, hresult⟩ := hfound declared rfl
    refine .pure ⟨name, declared.params, declared.result, hparams, hresult, ?_⟩
    cases declared.result <;> rfl

end ServiceGen.Render.Workflow
