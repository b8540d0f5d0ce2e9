import ServiceGen.Render.Context

/-!
The code of an activity: its proxy, which calls the operations from workflows, and its controller,
which registers them with a worker.
-/
namespace ServiceGen.Render.Activity

/-- The name of the interface in what is said of a method that has no place in it. -/
def interfaceName : String := "activity proxy"

/-- The declaration of a method of the proxy. -/
def signature (context : Context) (method : MethodPlan) : Emit Code := do
  let name ← ident method.name
  let request ← requestParam method.request method.name
  let response ← type method.response method.name
  let result ← match method.kind with
    | .call => pure (context.lib "Result <" ++ response ++ code ">")
    | .callAsync => pure (context.lib "workflow :: Future <" ++ response ++ code ">")
    | _ => throw (.unsupported method.name interfaceName)
  pure (code "fn" ++ name ++
    parens (code "& self , ctx : &" ++ context.lib "workflow :: Context" ++ code "," ++ request ++
      code "options : Option <" ++ context.lib "workflow :: ActivityOptions" ++ code "> ,") ++
    code "->" ++ result)

/-- The options of a call that brings none: the task queue of the activity, and a limit of time. -/
def defaultOptions (context : Context) (taskQueue : Code) : Code :=
  code "let options = options . unwrap_or_else" ++
    parens (code "||" ++
      braces (context.lib "workflow :: ActivityOptions :: new" ++ parens taskQueue ++
        code ". with_start_to_close_timeout" ++
        parens (code ":: std :: time :: Duration :: from_secs" ++ parens (code "30u64") ++
          code ","))) ++
    code ";"

/-- The body of a method of the proxy. The one that waits calls the one that does not. -/
def body (context : Context) (plan : ActivityPlan) (method : MethodPlan) : Emit Code :=
  match method.kind with
  | .call => do
    let asyncMethod ← ident (Naming.asyncMethod method.name)
    let forwarded := if method.request.isSome then code "req ," else []
    pure (code "self ." ++ asyncMethod ++ parens (code "ctx ," ++ forwarded ++ code "options") ++
      code ". get" ++ parens (code "ctx"))
  | .callAsync => do
    let taskQueue ← ident plan.taskQueueConstant
    match method.constant with
    | none => throw (.unsupported method.name interfaceName)
    | some text =>
      let constant ← ident text
      pure (defaultOptions context taskQueue ++ context.lib "workflow :: execute_activity" ++
        parens (code "ctx , options ," ++ constant ++ code "," ++ requestArgument method.request))
  | _ => throw (.unsupported method.name interfaceName)

/-- A method of the proxy: its declaration and its body. -/
def proxyMethod (context : Context) (plan : ActivityPlan) (method : MethodPlan) :
    Emit (Code × Code) := do
  let signature ← signature context method
  let body ← body context plan method
  pure (signature, body)

def proxy (context : Context) (plan : ActivityPlan) : Emit Code := do
  let interface ← ident plan.proxy.name
  let implementation ← ident plan.proxy.implementation
  let constructor ← ident plan.proxyConstructor
  let methods ← plan.proxy.methods.mapM (proxyMethod context plan)
  pure (documented ("Calls the `" ++ plan.service ++ "` activity from workflow code.") ++
    code "pub trait" ++ interface ++ code ": Send + Sync" ++
    braces (methods.flatMap fun (signature, _) => signature ++ code ";") ++
    code "struct" ++ implementation ++ code ";" ++
    code "impl" ++ interface ++ code "for" ++ implementation ++
    braces (methods.flatMap fun (signature, body) => signature ++ braces body) ++
    code "pub fn" ++ constructor ++ parens [] ++ code "->" ++ boxed interface ++
    braces (code "Box :: new" ++ parens implementation))

/-- The registration of an operation with a worker. -/
def registration (context : Context) (registration : Registration) : Emit Code := do
  let constant ← ident registration.constant
  let fallback := code "&" ++ context.lib "activity :: Context"
  let closure ← userClosure (code "inner") registration.call fallback
  pure (braces (code "let inner = :: std :: sync :: Arc :: clone" ++
    parens (code "& self . inner") ++ code ";" ++
    code "worker . register_activity" ++ parens (constant ++ code "," ++ closure) ++ code ";"))

def controller (context : Context) (plan : ActivityPlan) : Emit Code := do
  let service ← ident plan.service
  let controller ← ident plan.controller
  let registrations ← plan.registrations.mapM (registration context)
  let registrations := if registrations.isEmpty then [code "let _ = worker ;"] else registrations
  let inner := code "inner :" ++ sharedService service
  pure (documented ("Registers every operation of a `" ++ plan.service ++
      "` implementation as an activity.") ++
    code "pub struct" ++ controller ++ braces (inner ++ code ",") ++
    code "impl" ++ controller ++
    braces (
      code "pub fn new" ++ parens inner ++ code "-> Self" ++
      braces (code "Self" ++ braces (code "inner")) ++
      code "pub fn register" ++
      parens (code "self , worker : & mut" ++ context.lib "worker :: Worker") ++
      braces registrations.flatten))

def render (context : Context) (plan : ActivityPlan) : Emit Code := do
  let proxy ← proxy context plan
  let controller ← controller context plan
  pure (proxy ++ controller)

end ServiceGen.Render.Activity
