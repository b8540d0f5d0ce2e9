import ServiceGen.Render.Workflow.Frame

/-!
The declarations of the methods of a workflow's interfaces. Where a method stands and what it does
decide its parameters and its result.
-/
namespace ServiceGen.Render.Workflow

/-- What a declaration says behind the name of the method: parameters and result. -/
structure Declared where
  params : Code
  result : Option Code

def Declared.answering (params result : Code) : Declared := ⟨params, some result⟩

/-- The parameters of a method that waits for what another one answers. -/
def selecting (frame : Frame) (answer : Code) : Code :=
  code "& self , selector : & mut" ++ frame.lib "workflow :: Selector" ++
    code ", f : Box < dyn FnOnce" ++ parens (frame.result answer) ++ code "+ Send > ,"

/-- The parameters of a method that starts a workflow for a client. -/
def starting (frame : Frame) (signal : Code) : Code :=
  code "& self , req :" ++ frame.request ++ code "," ++ signal ++ code "options : Option <" ++
    frame.lib "client :: StartWorkflowOptions" ++ code "> ,"

def startingChild (frame : Frame) : Code :=
  code "& self ," ++ frame.contextParam ++ code ", req :" ++ frame.request ++
    code ", options : Option <" ++ frame.lib "workflow :: ChildWorkflowOptions" ++ code "> ,"

/-- The declaration of a method in the handle that clients get. -/
def runDeclared (frame : Frame) (method : MethodPlan) (request response : Code) :
    Option Declared :=
  match method.kind with
  | .get => some (.answering (code "& self") (frame.result response))
  | .query => some (.answering (code "& self ," ++ request) (frame.result response))
  | .update => some (.answering (code "& self ," ++ request) (frame.result response))
  | .updateAsync => some (.answering (code "& self ," ++ request)
      (frame.lib "Result <" ++ frame.lib "client :: UpdateHandle <" ++ response ++ code ">>"))
  | .signal => some (.answering (code "& self ," ++ request) (frame.result (parens [])))
  | _ => none

/-- The declaration of a method that sends a signal from a workflow. -/
def signalDeclared (frame : Frame) (method : MethodPlan) (request : Code) : Option Declared :=
  let params := code "& self ," ++ frame.contextParam ++ code "," ++ request
  match method.kind with
  | .signal => some (.answering params (frame.result (parens [])))
  | .signalAsync =>
    some (.answering params (frame.lib "workflow :: Future <" ++ parens [] ++ code ">"))
  | _ => none

/-- The declaration of a method in the handle of a child workflow. -/
def childRunDeclared (frame : Frame) (method : MethodPlan) (request response : Code) :
    Option Declared :=
  let withContext := code "& self ," ++ frame.contextParam
  match method.kind with
  | .isReady => some (.answering (code "& self") (code "bool"))
  | .underlying =>
    some (.answering (code "& self") (code "&" ++ frame.lib "workflow :: ChildWorkflowFuture"))
  | .get => some (.answering withContext (frame.result response))
  | .waitStart =>
    some (.answering withContext (frame.result (frame.lib "workflow :: Execution")))
  | .select => some ⟨selecting frame response, none⟩
  | .selectStart => some ⟨selecting frame (frame.lib "workflow :: Execution"), none⟩
  | _ => signalDeclared frame method request

/-- The declaration of a method in the handle of an external workflow. -/
def externalRunDeclared (frame : Frame) (method : MethodPlan) (request : Code) : Option Declared :=
  match method.kind with
  | .requestCancellation =>
    some (.answering (code "& self ," ++ frame.contextParam) (frame.result (parens [])))
  | _ => signalDeclared frame method request

/-- The declaration of a method by which clients start workflows. -/
def clientDeclared (frame : Frame) (method : MethodPlan) (handles : Handles) :
    Emit (Option Declared) :=
  match method.kind with
  | .execute => pure (some (.answering (starting frame []) (frame.boxedResult handles.run)))
  | .getHandle =>
    pure (some (.answering
      (code "& self , options :" ++ frame.lib "client :: GetHandleOptions") (boxed handles.run)))
  | .executeWithSignal text => do
    let signal ← type text method.name
    pure (some (.answering (starting frame (code "signal :" ++ signal ++ code ","))
      (frame.boxedResult handles.run)))
  | _ => pure none

/-- The declaration of a method by which workflows start child workflows. -/
def childClientDeclared (frame : Frame) (method : MethodPlan) (handles : Handles)
    (response : Code) : Option Declared :=
  match method.kind with
  | .execute => some (.answering (startingChild frame) (frame.result response))
  | .executeAsync => some (.answering (startingChild frame) (boxed handles.childRun))
  | .external =>
    some (.answering (code "& self , workflow_id : & str , run_id : & str")
      (boxed handles.externalRun))
  | _ => none

/-- What the declaration of a method says behind its name. -/
def declared (frame : Frame) (role : InterfaceRole) (method : MethodPlan) (handles : Handles)
    (request response : Code) : Emit (Option Declared) :=
  let identity := some (Declared.answering (code "& self") (code "& str"))
  match role, method.kind with
  | _, .workflowId => pure identity
  | _, .runId => pure identity
  | .run, _ => pure (runDeclared frame method request response)
  | .childRun, _ => pure (childRunDeclared frame method request response)
  | .externalRun, _ => pure (externalRunDeclared frame method request)
  | .client, _ => clientDeclared frame method handles
  | .childClient, _ => pure (childClientDeclared frame method handles response)
  | .activityProxy, _ => pure none

def signature (frame : Frame) (interface : Interface) (method : MethodPlan) : Emit Code := do
  let name ← ident method.name
  let request ← requestParam method.request method.name
  let response ← type method.response method.name
  let handles ← Handles.interfaces frame.plan
  match ← declared frame interface.role method handles request response with
  | none => throw (.unsupported method.name interface.name)
  | some declared =>
    let result := match declared.result with
      | some result => code "->" ++ result
      | none => []
    pure (code "fn" ++ name ++ parens declared.params ++ result)

end ServiceGen.Render.Workflow
