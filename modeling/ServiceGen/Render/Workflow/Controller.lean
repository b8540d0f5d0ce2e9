import ServiceGen.Render.Workflow.Frame

/-!
What a worker needs to run a workflow: the input, the factory that makes an implementation from it,
and the controller that runs the implementation.
-/
namespace ServiceGen.Render.Workflow

def channelType (frame : Frame) (request : Code) : Code :=
  frame.lib "workflow :: SignalChannel <" ++ request ++ code ">"

def inputChannel (frame : Frame) (channel : InputChannel) : Emit (Code × Code) := do
  let accessor ← ident channel.accessor
  let request ← type channel.request channel.accessor
  let channelType := channelType frame request
  pure (accessor ++ code ":" ++ channelType ++ code ",",
    code "pub fn" ++ accessor ++ parens (code "& self") ++ code "-> &" ++ channelType ++
      braces (code "& self ." ++ accessor))

def input (frame : Frame) : Emit Code := do
  let input ← ident frame.plan.input.name
  let channels ← frame.plan.input.channels.mapM (inputChannel frame)
  let accessors :=
    if channels.isEmpty then []
    else code "impl" ++ input ++ braces (channels.flatMap (·.2))
  pure (documented ("Everything a `" ++ frame.plan.service ++
      "` implementation is constructed from.") ++
    code "pub struct" ++ input ++
    braces (code "pub request :" ++ frame.request ++ code "," ++ channels.flatMap (·.1)) ++
    accessors)

def factory (frame : Frame) : Emit Code := do
  let service ← ident frame.plan.service
  let factory ← ident frame.plan.factory
  let input ← ident frame.plan.input.name
  pure (code "pub type" ++ factory ++ code "= :: std :: sync :: Arc < dyn Fn" ++ parens input ++
    code "->" ++ frame.lib "Result < :: std :: sync :: Arc < dyn" ++ service ++
    code "+ Send + Sync >> + Send + Sync , > ;")

/-- The channel of a signal, as a field of the input that is made. -/
def channelField (channel : InputChannel) : Emit Code := do
  let accessor ← ident channel.accessor
  let provider ← ident channel.provider
  pure (accessor ++ code ":" ++ provider ++ parens (code "ctx") ++ code ",")

/-- The registration of an operation for the run, by the given function of the library. -/
def handler (frame : Frame) (function : String) (registration : Registration) : Emit Code := do
  let constant ← ident registration.constant
  let fallback := code "&" ++ frame.lib "workflow :: Context"
  let closure ← userClosure (code "workflow") registration.call fallback
  pure (braces (code "let workflow = :: std :: sync :: Arc :: clone" ++
    parens (code "& workflow") ++ code ";" ++
    frame.lib function ++ parens (code "ctx ," ++ constant ++ code "," ++ closure) ++ code "? ;"))

/-- How the run comes to its result. A workflow without an entrance has the default one. -/
def delegate : Option UserCall → Emit Code
  | some call => do
    let method ← ident call.method
    let result := code "workflow ." ++ method ++ parens (commas (directArguments call))
    pure (code "Ok" ++ parens (result ++ if call.isFallible then code "?" else []))
  | none =>
    pure (code "let _ =" ++ parens (code "workflow , req") ++ code "; Ok" ++
      parens (code "Default :: default" ++ parens []))

def controller (frame : Frame) : Emit Code := do
  let plan := frame.plan
  let controller ← ident plan.controller.name
  let factory ← ident plan.factory
  let input ← ident plan.input.name
  let channels ← plan.input.channels.mapM channelField
  let queries ← plan.controller.queries.mapM (handler frame "workflow :: set_query_handler")
  let updates ← plan.controller.updates.mapM (handler frame "workflow :: set_update_handler")
  let delegate ← delegate plan.controller.execute
  pure (documented ("Runs `" ++ plan.service ++
      "` workflows on a worker, building one implementation per run.") ++
    code "pub struct" ++ controller ++ braces (code "factory :" ++ factory ++ code ",") ++
    code "impl" ++ controller ++
    braces (
      code "pub fn new" ++ parens (code "factory :" ++ factory) ++ code "-> Self" ++
      braces (code "Self" ++ braces (code "factory")) ++
      code "pub fn execute" ++
      parens (code "& self ," ++ frame.contextParam ++ code ", req :" ++ frame.request ++
        code ",") ++
      code "->" ++ frame.result frame.response ++
      braces (
        code "let input =" ++ input ++
        braces (code "request : :: std :: clone :: Clone :: clone" ++ parens (code "& req") ++
          code "," ++ channels.flatten) ++ code ";" ++
        code "let workflow =" ++ parens (code "self . factory") ++ parens (code "input") ++
        code "? ;" ++ queries.flatten ++ updates.flatten ++ delegate) ++
      code "pub fn register" ++
      parens (code "self , worker : & mut" ++ frame.lib "worker :: Worker") ++
      braces (
        code "let controller = :: std :: sync :: Arc :: new" ++ parens (code "self") ++ code ";" ++
        code "worker . register_workflow" ++
        parens (frame.nameConstant ++ code ", move |" ++ frame.contextParam ++ code ", req :" ++
          frame.request ++ code "| controller . execute" ++ parens (code "ctx , req") ++
          code ",") ++ code ";")))

end ServiceGen.Render.Workflow
