import ServiceGen.Plan.Convention

/-!
The plan of a workflow. Clients start it and get a handle to the run; other workflows start it as a
child, or get a handle to a run that is not theirs. Each handle has fixed methods and one or two for
every operation that can be reached through it: queries and updates from clients, signals from
everywhere.
-/
namespace ServiceGen.Plan.Workflow

open Convention

/-- The operations of the given kind that can be generated. -/
def usableOf (service : Service) (kind : OperationKind) : List Operation :=
  (usable service).filter (·.kind == kind)

def entrance? (service : Service) : Option Operation := (usableOf service .execute).head?

def requestOf (service : Service) : String :=
  ((entrance? service).map Operation.requestType).getD unitType

def responseOf (service : Service) : String :=
  ((entrance? service).map Operation.responseType).getD unitType

def constantOf (service : Service) (operation : Operation) : String :=
  Naming.operationConstant service.name operation.name

/-- The method that sends a signal and waits until it is delivered. -/
def signalMethod (service : Service) (operation : Operation) : MethodPlan :=
  .calling (constantOf service operation) (Naming.method operation.name) .signal
    (operation.request?.map Param.type) unitType

/-- The method that sends a signal and does not wait. -/
def asyncSignalMethod (service : Service) (operation : Operation) : MethodPlan :=
  .calling (constantOf service operation) (Naming.asyncMethod operation.name) .signalAsync
    (operation.request?.map Param.type) unitType

/-- The methods for an operation in the handle that clients get. -/
def runMethods (service : Service) (operation : Operation) : List MethodPlan :=
  let constant := constantOf service operation
  let request := operation.request?.map Param.type
  match operation.kind with
  | .query =>
    [.calling constant (Naming.method operation.name) .query request operation.responseType]
  | .update =>
    [.calling constant (Naming.method operation.name) .update request operation.responseType,
      .calling constant (Naming.asyncMethod operation.name) .updateAsync request
        operation.responseType]
  | .signal => [signalMethod service operation]
  | _ => []

/-- The fixed methods of the handle that clients get. -/
def runFixed (service : Service) : List MethodPlan :=
  [.plain "workflow_id" .workflowId unitType, .plain "run_id" .runId unitType,
    .plain "get" .get (responseOf service)]

def run (service : Service) : Interface :=
  .of service.name .run .run (runFixed service ++ (usable service).flatMap (runMethods service))

/-- The methods for the signals in the handles that workflows get. -/
def signalMethods (service : Service) : List MethodPlan :=
  (usableOf service .signal).flatMap fun operation =>
    [signalMethod service operation, asyncSignalMethod service operation]

def childRunFixed (service : Service) : List MethodPlan :=
  [.plain "workflow_id" .workflowId unitType, .plain "is_ready" .isReady unitType,
    .plain "underlying" .underlying unitType, .plain "get" .get (responseOf service),
    .plain "wait_start" .waitStart unitType, .plain "select" .select (responseOf service),
    .plain "select_start" .selectStart unitType]

def childRun (service : Service) : Interface :=
  .of service.name .childRun .childRun (childRunFixed service ++ signalMethods service)

/-- The fixed methods of the handle to a run that is not a child. -/
def externalRunFixed : List MethodPlan :=
  [.plain "workflow_id" .workflowId unitType, .plain "run_id" .runId unitType,
    .plain "request_cancellation" .requestCancellation unitType]

def externalRun (service : Service) : Interface :=
  .of service.name .externalRun .externalRun (externalRunFixed ++ signalMethods service)

/-- The method that starts the workflow with a signal. -/
def executeWith (service : Service) (operation : Operation) : MethodPlan :=
  .calling (constantOf service operation) (Naming.executeWith operation.name)
    (.executeWithSignal operation.requestType) (some (requestOf service)) (responseOf service)

def starting (service : Service) (name : String) (kind : MethodKind) : MethodPlan :=
  .calling (Naming.serviceConstant service.name) name kind (some (requestOf service))
    (responseOf service)

def clientFixed (service : Service) : List MethodPlan :=
  [starting service "execute" .execute, .plain "get_handle" .getHandle (responseOf service)]

def client (service : Service) : Interface :=
  .of service.name .client .client
    (clientFixed service ++ (usableOf service .signal).map (executeWith service))

def childClientFixed (service : Service) : List MethodPlan :=
  [starting service "execute" .execute, starting service "execute_async" .executeAsync,
    .plain "external" .external unitType]

def childClient (service : Service) : Interface :=
  .of service.name .childClient .childClient (childClientFixed service)

/-- The function that answers the channel of a signal. -/
def signalChannel (service : Service) (operation : Operation) : SignalChannel :=
  { provider := Naming.channelProvider service.name operation.name
    constant := constantOf service operation
    request := operation.requestType }

def inputChannel (service : Service) (operation : Operation) : InputChannel :=
  { accessor := Naming.channelMethod operation.name
    provider := Naming.channelProvider service.name operation.name
    request := operation.requestType }

def input (service : Service) : InputPlan :=
  { name := Naming.TypeRole.input.of service.name
    request := requestOf service
    channels := (usableOf service .signal).map (inputChannel service) }

def registration (service : Service) (operation : Operation) : Registration :=
  ⟨constantOf service operation, .of operation⟩

def registrations (service : Service) (kind : OperationKind) : List Registration :=
  (usableOf service kind).map (registration service)

def controller (service : Service) : WorkflowController :=
  { name := Naming.TypeRole.controller.of service.name
    execute := (entrance? service).map .of
    queries := registrations service .query
    updates := registrations service .update }

def plan (service : Service) : WorkflowPlan :=
  { service := service.name
    nameConstant := Naming.serviceConstant service.name
    taskQueueConstant := Naming.taskQueueConstant service.name
    request := requestOf service
    response := responseOf service
    run := run service
    childRun := childRun service
    externalRun := externalRun service
    client := client service
    childClient := childClient service
    clientConstructor := Naming.constructor (client service).name
    childClientConstructor := Naming.constructor (childClient service).name
    input := input service
    factory := Naming.TypeRole.factory.of service.name
    controller := controller service }

/-- The problem with the entrances of a workflow: there has to be exactly one. -/
def entranceProblems (marker : String) (service : Service) : List Problem :=
  match usableOf service .execute with
  | [] => [.noExecute service.name marker]
  | [_] => []
  | entrances => [.manyExecutes service.name (entrances.map Operation.name)]

/-- The constants of the operations, of which mere methods have none. -/
def operationConstants (package : Package) (service : Service) : List Constant :=
  ((usable service).filter (·.kind ≠ .method)).map (operationConstant package service)

/-- The operations that no tag says the kind of. -/
def untagged (marker : String) (service : Service) : List Omission :=
  (usableOf service .method).map fun operation =>
    ⟨operation.location, "`" ++ service.name ++ "::" ++ operation.name ++ "` has no `" ++ marker ++
      ":workflow:<kind>` tag"⟩

def contribution (options : GenerationOptions) (package : Package) (service : Service) :
    Contribution :=
  let plan := plan service
  let field := Naming.serviceField service.name
  { demands := demands options package service ++
      [.constant (taskQueueConstant options package service)] ++
      (if options.strict then (entranceProblems options.marker service).map .problem else []) ++
      (operationConstants package service).map .constant
    omissions := omissions options service ++ untagged options.marker service
    signalChannels := (usableOf service .signal).map (signalChannel service)
    plan := .workflow plan
    gathering := {
      workflowClients := [⟨field, plan.client.name, plan.clientConstructor⟩]
      workflowProxies := [⟨field, plan.childClient.name, plan.childClientConstructor⟩]
      activityProxies := []
      controllers := [⟨field, plan.controller.name⟩] } }

end ServiceGen.Plan.Workflow
