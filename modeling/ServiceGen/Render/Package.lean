import ServiceGen.Render.Activity
import ServiceGen.Render.HttpService
import ServiceGen.Render.Workflow.Controller
import ServiceGen.Render.Workflow.Interface

/-!
The generated file of a package: constants, the channels of signals, the code of each service, and
what gathers the services of a kind.
-/
namespace ServiceGen.Render

def Workflow.render (context : Context) (plan : WorkflowPlan) : Emit Code := do
  let frame ← Frame.of context plan
  let run ← interface frame plan.run
  let childRun ← interface frame plan.childRun
  let externalRun ← interface frame plan.externalRun
  let client ← interface frame plan.client
  let childClient ← interface frame plan.childClient
  let constructors ← constructors frame
  let input ← input frame
  let factory ← factory frame
  let controller ← controller frame
  pure (run ++ childRun ++ externalRun ++ client ++ childClient ++ constructors ++ input ++
    factory ++ controller)

namespace Package

def constant (constant : Constant) : Emit Code := do
  let name ← ident constant.name
  pure (code "pub const" ++ name ++ code ": & str =" ++ quoted constant.value ++ code ";")

/-- The function that answers the channel of a signal. -/
def signalChannel (context : Context) (channel : SignalChannel) : Emit Code := do
  let provider ← ident channel.provider
  let constant ← ident channel.constant
  let request ← type channel.request channel.provider
  pure (code "pub fn" ++ provider ++
    parens (code "ctx : &" ++ context.lib "workflow :: Context") ++ code "->" ++
    context.lib "workflow :: SignalChannel <" ++ request ++ code ">" ++
    braces (context.lib "workflow :: SignalChannel :: new" ++
      parens (code "ctx ," ++ constant)))

def service (context : Context) : ServicePlan → Emit Code
  | .activity plan => Activity.render context plan
  | .workflow plan => Workflow.render context plan
  | .service plan => HttpService.render context plan

/-- The accessor of an interface: its declaration and its body. -/
def accessor (argument : Code) (entry : GatheredInterface) : Emit (Code × Code) := do
  let accessor ← ident entry.accessor
  let interface ← ident entry.interface
  let constructor ← ident entry.constructor
  pure (code "fn" ++ accessor ++ parens (code "& self") ++ code "->" ++ boxed interface,
    constructor ++ parens argument)

/-- What the implementation of a gathering interface holds. -/
inductive Held where
  | nothing
  /-- A client, which every constructor gets a copy of. -/
  | client

/-- An interface that gathers others, unless there are none. -/
def gathered (context : Context) (type : String) (held : Held) (entries : List GatheredInterface) :
    Emit Code :=
  if entries.isEmpty then pure []
  else do
    let name ← ident type
    let implementation ← ident (Naming.implementation type)
    let constructor ← ident (Naming.constructor type)
    let client := code "client :" ++ context.lib "client :: Client"
    let argument := match held with
      | .client => code "self . client . clone" ++ parens []
      | .nothing => []
    let accessors ← entries.mapM (accessor argument)
    let (definition, params, made) := match held with
      | .client => (braces client, client, implementation ++ braces (code "client"))
      | .nothing => (code ";", [], implementation)
    pure (code "pub trait" ++ name ++ code ": Send + Sync" ++
      braces (accessors.flatMap fun (declared, _) => declared ++ code ";") ++
      code "struct" ++ implementation ++ definition ++
      code "impl" ++ name ++ code "for" ++ implementation ++
      braces (accessors.flatMap fun (declared, body) => declared ++ braces body) ++
      code "pub fn" ++ constructor ++ parens params ++ code "->" ++ boxed name ++
      braces (code "Box :: new" ++ parens made))

def controllerField (entry : GatheredController) : Emit (Code × Code) := do
  let field ← ident entry.field
  let controller ← ident entry.controller
  pure (code "pub" ++ field ++ code ":" ++ controller ++ code ",",
    code "self ." ++ field ++ code ". register" ++ parens (code "worker") ++ code ";")

/-- The documentation of what gathers the controllers. -/
def controllersDoc : Code :=
  code "#" ++ brackets (code "doc =" ++
    [.literal "r\" Every activity and workflow controller of this package.\""])

/-- What gathers the controllers, unless there are none. -/
def controllers (context : Context) (entries : List GatheredController) : Emit Code :=
  if entries.isEmpty then pure []
  else do
    let fields ← entries.mapM controllerField
    pure (controllersDoc ++ code "pub struct WorkerController" ++ braces (fields.flatMap (·.1)) ++
      code "impl WorkerController" ++
      braces (code "pub fn register" ++
        parens (code "self , worker : & mut" ++ context.lib "worker :: Worker") ++
        braces (fields.flatMap (·.2))))

def gathering (context : Context) (gathering : Gathering) : Emit Code := do
  let clients ← gathered context "WorkflowClients" .client gathering.workflowClients
  let proxies ← gathered context "WorkflowProxies" .nothing gathering.workflowProxies
  let activities ← gathered context "ActivityProxies" .nothing gathering.activityProxies
  let controllers ← controllers context gathering.controllers
  pure (clients ++ proxies ++ activities ++ controllers)

def emit (context : Context) (plan : PackagePlan) : Emit Code := do
  let constants ← plan.constants.mapM constant
  let channels ← plan.signalChannels.mapM (signalChannel context)
  let services ← plan.services.mapM (service context)
  let gathering ← gathering context plan.gathering
  pure (constants.flatten ++ channels.flatten ++ services.flatten ++ gathering)

/-- The first line of every generated file. -/
def header : String := "// Code generated by weft-gen. DO NOT EDIT."

/-- The text of the generated file. -/
def render (options : GenerationOptions) (plan : PackagePlan) : Emit String := do
  let context ← Context.of options
  let tokens ← emit context plan
  pure (header ++ "\n// source: " ++ plan.sourcePath ++ "\n\n" ++ Token.text tokens ++ "\n")

end Package

end ServiceGen.Render
