import ServiceGen.Render.Workflow.Frame

/-!
The bodies of the methods of a workflow's interfaces. A method that waits calls the one that does
not and waits for its answer; every other method calls the library.
-/
namespace ServiceGen.Render.Workflow

def constantOf (interface : Interface) (method : MethodPlan) : Emit Code :=
  match method.constant with
  | some text => ident text
  | none => throw (.unsupported method.name interface.name)

/-- A call of the library about the run behind a handle. -/
def aboutRun (function : String) (constant : Code) (method : MethodPlan) : Code :=
  code "self . client ." ++ code function ++
    parens (code "self . run . workflow_id" ++ parens [] ++ code ", self . run . run_id" ++
      parens [] ++ code "," ++ constant ++ code "," ++ requestArgument method.request ++ code ",")

/-- The request as an argument, if the method takes one. -/
def forwarded (method : MethodPlan) : List Code :=
  if method.request.isSome then [code "req"] else []

/-- The body of a method in the handle that clients get. -/
def runBody (interface : Interface) (method : MethodPlan) : Emit Code :=
  let unsupported : Emit Code := throw (.unsupported method.name interface.name)
  match method.kind with
  | .workflowId => pure (code "self . run . workflow_id" ++ parens [])
  | .runId => pure (code "self . run . run_id" ++ parens [])
  | .get => pure (code "self . run . get" ++ parens [])
  | .query => do
    let constant ← constantOf interface method
    pure (aboutRun "query_workflow" constant method)
  | .signal => do
    let constant ← constantOf interface method
    pure (aboutRun "signal_workflow" constant method)
  | .update => do
    let asyncMethod ← ident (Naming.asyncMethod method.name)
    pure (code "self ." ++ asyncMethod ++ parens (forwarded method).flatten ++
      code "? . get" ++ parens [])
  | .updateAsync => do
    let constant ← constantOf interface method
    pure (aboutRun "update_workflow" constant method)
  | _ => unsupported

/-- The body of a method that sends a signal from a workflow and waits. -/
def signalBody (method : MethodPlan) : Emit Code := do
  let asyncMethod ← ident (Naming.asyncMethod method.name)
  pure (code "self ." ++ asyncMethod ++ parens (commas (code "ctx" :: forwarded method)) ++
    code ". get" ++ parens (code "ctx"))

def childRunBody (interface : Interface) (method : MethodPlan) : Emit Code :=
  match method.kind with
  | .workflowId => pure (code "self . future . workflow_id" ++ parens [])
  | .isReady => pure (code "self . future . is_ready" ++ parens [])
  | .underlying => pure (code "& self . future")
  | .get => pure (code "self . future . get" ++ parens (code "ctx"))
  | .waitStart =>
    pure (code "self . future . execution" ++ parens [] ++ code ". get" ++ parens (code "ctx"))
  | .select => pure (code "selector . add_child" ++ parens (code "& self . future , f") ++ code ";")
  | .selectStart =>
    pure (code "selector . add_future" ++
      parens (code "self . future . execution" ++ parens [] ++ code ", f") ++ code ";")
  | .signalAsync => do
    let constant ← constantOf interface method
    pure (code "self . future . signal" ++
      parens (code "ctx ," ++ constant ++ code "," ++ requestArgument method.request))
  | .signal => signalBody method
  | _ => throw (.unsupported method.name interface.name)

def externalRunBody (frame : Frame) (interface : Interface) (method : MethodPlan) : Emit Code :=
  match method.kind with
  | .workflowId => pure (code "& self . workflow_id")
  | .runId => pure (code "& self . run_id")
  | .requestCancellation =>
    pure (frame.lib "workflow :: request_cancel_external_workflow" ++
      parens (code "ctx , & self . workflow_id , & self . run_id") ++ code ". get" ++
      parens (code "ctx"))
  | .signalAsync => do
    let constant ← constantOf interface method
    pure (frame.lib "workflow :: signal_external_workflow" ++
      parens (code "ctx , & self . workflow_id , & self . run_id ," ++ constant ++ code "," ++
        requestArgument method.request ++ code ","))
  | .signal => signalBody method
  | _ => throw (.unsupported method.name interface.name)

/-- The options of a start that brings none: the task queue of the workflow. -/
def defaultOptions (frame : Frame) (options : String) : Code :=
  code "let options = options . unwrap_or_else" ++
    parens (code "||" ++ frame.lib options ++ code ":: new" ++ parens frame.taskQueue) ++ code ";"

def runHandle (handles : Handles) : Code :=
  code "Box :: new" ++
    parens (handles.run ++
      braces (code "client : self . client . clone" ++ parens [] ++ code ", run ,"))

def clientBody (frame : Frame) (interface : Interface) (method : MethodPlan) (handles : Handles) :
    Emit Code :=
  let options := defaultOptions frame "client :: StartWorkflowOptions"
  match method.kind with
  | .execute =>
    pure (options ++ code "let run = self . client . execute_workflow" ++
      parens (code "options ," ++ frame.nameConstant ++ code ", req") ++ code "? ;" ++
      code "Ok" ++ parens (runHandle handles))
  | .getHandle =>
    pure (code "let run = self . client . get_workflow" ++ parens (code "options") ++ code ";" ++
      runHandle handles)
  | .executeWithSignal _ => do
    let constant ← constantOf interface method
    pure (options ++ code "let run = self . client . signal_with_start_workflow" ++
      parens (code "options ," ++ constant ++ code ", signal ," ++ frame.nameConstant ++
        code ", req ,") ++ code "? ;" ++
      code "Ok" ++ parens (runHandle handles))
  | _ => throw (.unsupported method.name interface.name)

/-- The body of a method by which workflows start child workflows. -/
def childClientBody (frame : Frame) (interface : Interface) (method : MethodPlan)
    (handles : Handles) : Emit Code :=
  match method.kind with
  | .execute =>
    pure (code "self . execute_async" ++ parens (code "ctx , req , options") ++ code ". get" ++
      parens (code "ctx"))
  | .executeAsync =>
    pure (defaultOptions frame "workflow :: ChildWorkflowOptions" ++ code "let future =" ++
      frame.lib "workflow :: execute_child_workflow" ++
      parens (code "ctx , options ," ++ frame.nameConstant ++ code ", req") ++ code ";" ++
      code "Box :: new" ++ parens (handles.childRun ++ braces (code "future")))
  | .external =>
    pure (code "Box :: new" ++
      parens (handles.externalRun ++
        braces (code "workflow_id : workflow_id . to_string" ++ parens [] ++
          code ", run_id : run_id . to_string" ++ parens [] ++ code ",")))
  | _ => throw (.unsupported method.name interface.name)

def body (frame : Frame) (interface : Interface) (method : MethodPlan) : Emit Code := do
  let handles ← Handles.implementations frame.plan
  match interface.role with
  | .run => runBody interface method
  | .childRun => childRunBody interface method
  | .externalRun => externalRunBody frame interface method
  | .client => clientBody frame interface method handles
  | .childClient => childClientBody frame interface method handles
  | .activityProxy => throw (.unsupported method.name interface.name)

end ServiceGen.Render.Workflow
