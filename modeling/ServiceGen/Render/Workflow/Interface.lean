import ServiceGen.Render.Workflow.Body
import ServiceGen.Render.Workflow.Signature

/-!
The interfaces of a workflow with their hidden implementations, and the functions that make them.
-/
namespace ServiceGen.Render.Workflow

def documentation (service : String) : InterfaceRole → String
  | .run => "Client-side handle to a running `" ++ service ++ "` workflow."
  | .childRun => "Handle to a `" ++ service ++ "` child workflow started from workflow code."
  | .externalRun =>
    "Handle to a `" ++ service ++ "` workflow that is not a child of the caller."
  | .client => "Starts `" ++ service ++ "` workflows."
  | .childClient =>
    "Starts `" ++ service ++ "` workflows as children of the calling workflow."
  | .activityProxy => "Proxy for `" ++ service ++ "`."

/-- The fields of an implementation. -/
def fields (frame : Frame) : InterfaceRole → Code
  | .run =>
    braces (code "client :" ++ frame.lib "client :: Client" ++ code ", run :" ++
      frame.lib "client :: WorkflowRun" ++ code ",")
  | .childRun =>
    braces (code "future :" ++ frame.lib "workflow :: ChildWorkflowFuture" ++ code ",")
  | .externalRun => braces (code "workflow_id : String , run_id : String ,")
  | .client => braces (code "client :" ++ frame.lib "client :: Client" ++ code ",")
  | .childClient => code ";"
  | .activityProxy => code ";"

/-- A method: its declaration and its body. -/
def interfaceMethod (frame : Frame) (interface : Interface) (method : MethodPlan) :
    Emit (Code × Code) := do
  let signature ← signature frame interface method
  let body ← body frame interface method
  pure (signature, body)

def interface (frame : Frame) (interface : Interface) : Emit Code := do
  let name ← ident interface.name
  let implementation ← ident interface.implementation
  let methods ← interface.methods.mapM (interfaceMethod frame interface)
  pure (documented (documentation frame.plan.service interface.role) ++
    code "pub trait" ++ name ++ code ": Send + Sync" ++
    braces (methods.flatMap fun (signature, _) => signature ++ code ";") ++
    code "struct" ++ implementation ++ fields frame interface.role ++
    code "impl" ++ name ++ code "for" ++ implementation ++
    braces (methods.flatMap fun (signature, body) => signature ++ braces body))

/-- The functions that make the clients. -/
def constructors (frame : Frame) : Emit Code := do
  let plan := frame.plan
  let client ← ident plan.client.name
  let clientImplementation ← ident plan.client.implementation
  let clientConstructor ← ident plan.clientConstructor
  let childClient ← ident plan.childClient.name
  let childClientImplementation ← ident plan.childClient.implementation
  let childClientConstructor ← ident plan.childClientConstructor
  pure (code "pub fn" ++ clientConstructor ++
    parens (code "client :" ++ frame.lib "client :: Client") ++ code "->" ++ boxed client ++
    braces (code "Box :: new" ++ parens (clientImplementation ++ braces (code "client"))) ++
    code "pub fn" ++ childClientConstructor ++ parens [] ++ code "->" ++ boxed childClient ++
    braces (code "Box :: new" ++ parens childClientImplementation))

end ServiceGen.Render.Workflow
