import ServiceGen.Render.Context

/-!
What the code of a workflow has in common: its constants, its types and the handles that its
methods answer.
-/
namespace ServiceGen.Render.Workflow

structure Frame where
  context : Context
  plan : WorkflowPlan
  nameConstant : Code
  taskQueue : Code
  request : Code
  response : Code

def Frame.of (context : Context) (plan : WorkflowPlan) : Emit Frame := do
  let nameConstant ← ident plan.nameConstant
  let taskQueue ← ident plan.taskQueueConstant
  let request ← type plan.request plan.service
  let response ← type plan.response plan.service
  pure { context, plan, nameConstant, taskQueue, request, response }

namespace Frame

def lib (frame : Frame) (path : String) : Code := frame.context.lib path

def contextParam (frame : Frame) : Code := code "ctx : &" ++ frame.lib "workflow :: Context"

def result (frame : Frame) (value : Code) : Code := frame.lib "Result <" ++ value ++ code ">"

/-- The type of a handle that may fail to be made. Its two closing brackets are one operator. -/
def boxedResult (frame : Frame) (interface : Code) : Code :=
  frame.lib "Result < Box < dyn" ++ interface ++ code ">>"

end Frame

/-- The names of three handles, or of their implementations. -/
structure Handles where
  run : Code
  childRun : Code
  externalRun : Code

def Handles.interfaces (plan : WorkflowPlan) : Emit Handles := do
  let run ← ident plan.run.name
  let childRun ← ident plan.childRun.name
  let externalRun ← ident plan.externalRun.name
  pure { run, childRun, externalRun }

def Handles.implementations (plan : WorkflowPlan) : Emit Handles := do
  let run ← ident plan.run.implementation
  let childRun ← ident plan.childRun.implementation
  let externalRun ← ident plan.externalRun.implementation
  pure { run, childRun, externalRun }

end ServiceGen.Render.Workflow
