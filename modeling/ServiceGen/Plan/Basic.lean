import ServiceGen.Model.Service
import ServiceGen.Naming.Names

/-!
Plans: what will be generated for a package, with every name, constant and type decided and no code
written yet.
-/
namespace ServiceGen

/-- What decides about generation beside the package itself. -/
structure GenerationOptions where
  /-- The path of the library that generated code calls. -/
  runtimeCrate : String := "weft_runtime"
  /-- Whether a package that breaks a rule is refused, rather than generated in part. -/
  strict : Bool := true
  /-- The HTTP method of routes that name none. -/
  httpMethod : String := "POST"
  /-- The tool whose tags count. -/
  marker : String := "weft"
  deriving Repr, DecidableEq

structure UserCall where
  /-- The name of the method as declared. -/
  method : String
  /-- Whether the method takes a context first, which a query does not. -/
  withContext : Bool
  /-- The declared type of the context, if there is one. -/
  context : Option String
  /-- The declared type of the request, if there is one. -/
  request : Option String
  isFallible : Bool
  deriving Repr, DecidableEq, Inhabited

def UserCall.of (operation : Operation) : UserCall :=
  { method := operation.name
    withContext := operation.kind ≠ .query
    context := operation.context?.map Param.type
    request := operation.request?.map Param.type
    isFallible := operation.isFallible }

/-- A call that is registered under the name which a constant holds. -/
structure Registration where
  constant : String
  call : UserCall
  deriving Repr, DecidableEq, Inhabited

inductive InterfaceRole where
  /-- Calls an activity. -/
  | activityProxy
  /-- A handle to a running workflow, for clients. -/
  | run
  /-- A handle to a child workflow, for the workflow that started it. -/
  | childRun
  /-- A handle to any other workflow, for a workflow. -/
  | externalRun
  /-- Starts workflows, for clients. -/
  | client
  /-- Starts child workflows, for workflows. -/
  | childClient
  deriving Repr, DecidableEq, Inhabited

inductive MethodKind where
  /-- Calls an activity and waits. -/
  | call
  | callAsync
  | workflowId
  | runId
  /-- Waits for the result of a workflow. -/
  | get
  | query
  /-- Sends a signal and waits until it is delivered. -/
  | signal
  | signalAsync
  | update
  | updateAsync
  | isReady
  /-- The future behind the handle of a child workflow. -/
  | underlying
  | waitStart
  | select
  | selectStart
  | requestCancellation
  /-- Starts a workflow; a child workflow is also waited for. -/
  | execute
  | executeAsync
  /-- A handle to a run that exists. -/
  | getHandle
  /-- Starts a workflow with a signal of the given type. -/
  | executeWithSignal (signal : String)
  /-- A handle to an external workflow. -/
  | external
  deriving Repr, DecidableEq, Inhabited

structure MethodPlan where
  name : String
  kind : MethodKind
  /-- The constant with the name of what the method calls. -/
  constant : Option String
  /-- The type of the request that the method passes on. -/
  request : Option String
  response : String
  deriving Repr, DecidableEq, Inhabited

namespace MethodPlan

/-- A method that passes nothing on. -/
def plain (name : String) (kind : MethodKind) (response : String) : MethodPlan :=
  { name, kind, constant := none, request := none, response }

def calling (constant : String) (name : String) (kind : MethodKind) (request : Option String)
    (response : String) : MethodPlan :=
  { name, kind, constant := some constant, request, response }

end MethodPlan

/-- A generated interface with its hidden implementation. -/
structure Interface where
  name : String
  implementation : String
  role : InterfaceRole
  methods : List MethodPlan
  deriving Repr, DecidableEq, Inhabited

def Interface.of (service : String) (type : Naming.TypeRole) (role : InterfaceRole)
    (methods : List MethodPlan) : Interface :=
  { name := type.of service
    implementation := Naming.implementation (type.of service)
    role, methods }

structure Constant where
  name : String
  value : String
  deriving Repr, DecidableEq, Inhabited

/-- A function that answers the channel of a signal. -/
structure SignalChannel where
  provider : String
  constant : String
  request : String
  deriving Repr, DecidableEq, Inhabited

/-- A signal channel in the input of a workflow. -/
structure InputChannel where
  accessor : String
  provider : String
  request : String
  deriving Repr, DecidableEq, Inhabited

/-- What a workflow is made from when it starts. -/
structure InputPlan where
  name : String
  request : String
  channels : List InputChannel
  deriving Repr, DecidableEq, Inhabited

structure WorkflowController where
  name : String
  execute : Option UserCall
  queries : List Registration
  updates : List Registration
  deriving Repr, DecidableEq, Inhabited

structure WorkflowPlan where
  service : String
  nameConstant : String
  taskQueueConstant : String
  request : String
  response : String
  run : Interface
  childRun : Interface
  externalRun : Interface
  client : Interface
  childClient : Interface
  clientConstructor : String
  childClientConstructor : String
  input : InputPlan
  factory : String
  controller : WorkflowController
  deriving Repr, DecidableEq, Inhabited

structure ActivityPlan where
  service : String
  taskQueueConstant : String
  proxy : Interface
  proxyConstructor : String
  controller : String
  registrations : List Registration
  deriving Repr, DecidableEq, Inhabited

/-- A route by which an operation is reached over HTTP. -/
structure Route where
  method : String
  path : String
  constant : String
  call : UserCall
  deriving Repr, DecidableEq, Inhabited

structure HttpServicePlan where
  service : String
  controller : String
  /-- The routes, one for each operation and HTTP method. -/
  routes : List Route
  deriving Repr, DecidableEq, Inhabited

inductive ServicePlan where
  | activity (plan : ActivityPlan)
  | workflow (plan : WorkflowPlan)
  | service (plan : HttpServicePlan)
  deriving Repr, DecidableEq, Inhabited

structure GatheredInterface where
  accessor : String
  interface : String
  constructor : String
  deriving Repr, DecidableEq, Inhabited

structure GatheredController where
  field : String
  controller : String
  deriving Repr, DecidableEq, Inhabited

/-- What is gathered over all services of a package. -/
structure Gathering where
  workflowClients : List GatheredInterface
  workflowProxies : List GatheredInterface
  activityProxies : List GatheredInterface
  controllers : List GatheredController
  deriving Repr, DecidableEq, Inhabited

/-- An operation that is left out, and why. -/
structure Omission where
  location : Location
  reason : String
  deriving Repr, DecidableEq, Inhabited

structure PackagePlan where
  package : String
  sourcePath : String
  constants : List Constant
  signalChannels : List SignalChannel
  services : List ServicePlan
  gathering : Gathering
  omissions : List Omission
  deriving Repr, DecidableEq, Inhabited

namespace PackagePlan

def constant? (plan : PackagePlan) (name : String) : Option String :=
  (plan.constants.find? (·.name == name)).map Constant.value

def activity? (plan : PackagePlan) (service : String) : Option ActivityPlan :=
  plan.services.findSome? fun
    | .activity plan => if plan.service == service then some plan else none
    | _ => none

def workflow? (plan : PackagePlan) (service : String) : Option WorkflowPlan :=
  plan.services.findSome? fun
    | .workflow plan => if plan.service == service then some plan else none
    | _ => none

def httpService? (plan : PackagePlan) (service : String) : Option HttpServicePlan :=
  plan.services.findSome? fun
    | .service plan => if plan.service == service then some plan else none
    | _ => none

end PackagePlan

end ServiceGen
