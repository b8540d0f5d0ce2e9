import ServiceGen.Model.Classifier
import ServiceGen.Plan.Problem

/-!
The calling convention of operations, and what a service asks of its package. An operation takes at
most a context and a request, a query only a request. Whatever a service asks for is a list in the
order of its declarations: constants, which must be new to the package, and problems.
-/
namespace ServiceGen

/-- What a service asks of its package. -/
inductive Demand where
  | constant (constant : Constant)
  | problem (problem : Problem)
  deriving Repr, DecidableEq

/-- What a service adds to the plan of its package. -/
structure Contribution where
  demands : List Demand
  omissions : List Omission
  signalChannels : List SignalChannel
  plan : ServicePlan
  gathering : Gathering
  deriving Repr, DecidableEq

namespace Plan.Convention

/-- The number of parameters that an operation may have. -/
def limit : OperationKind → Nat
  | .query => 1
  | _ => 2

/-- Whether an operation has no more parameters than it may have. -/
def fits (operation : Operation) : Bool := operation.params.length ≤ limit operation.kind

/-- The operations that can be generated. -/
def usable (service : Service) : List Operation := service.operations.filter fits

def paramsProblem (service : Service) (operation : Operation) : Problem :=
  .manyParams service.name operation.name operation.params.length (limit operation.kind)

/-- The problems with one operation, in strict mode. -/
def operationProblems (service : Service) (operation : Operation) : List Problem :=
  (if 1 < operation.declaredKinds.length then
    [.manyOperationKinds service.name operation.name operation.declaredKinds] else []) ++
  (if fits operation then [] else [paramsProblem service operation])

/-- The problems with a service and its operations, each by itself, in strict mode. -/
def problems (service : Service) : List Problem :=
  (if 1 < service.declaredKinds.length then [.manyKinds service.name service.declaredKinds]
    else []) ++
  service.operations.flatMap (operationProblems service)

/-- The operations that are left out because of their parameters, unless the mode is strict. -/
def omissions (options : GenerationOptions) (service : Service) : List Omission :=
  if options.strict then []
  else (service.operations.filter (!fits ·)).map fun operation =>
    ⟨operation.location, (paramsProblem service operation).message⟩

def serviceConstant (package : Package) (service : Service) : Constant :=
  ⟨Naming.serviceConstant service.name, Naming.serviceSymbol package.name service.name⟩

def operationConstant (package : Package) (service : Service) (operation : Operation) : Constant :=
  ⟨Naming.operationConstant service.name operation.name,
    Naming.operationSymbol package.name service.name operation.name⟩

/-- The constant of the task queue of a service, which a tag may name. -/
def taskQueueConstant (options : GenerationOptions) (package : Package) (service : Service) :
    Constant :=
  let tag := Classifier.topTag? ⟨options.marker⟩ service
  ⟨Naming.taskQueueConstant service.name,
    (tag.bind (·.options.get? "task_queue")).getD package.name⟩

/-- What any service asks for, whatever its kind. -/
def demands (options : GenerationOptions) (package : Package) (service : Service) : List Demand :=
  (if options.strict then (problems service).map .problem else []) ++
    [.constant (serviceConstant package service)]

end Plan.Convention

end ServiceGen
