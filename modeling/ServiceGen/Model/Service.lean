import ServiceGen.Source.Declaration
import ServiceGen.Tag.Basic

/-!
Services: what a source unit offers to others. A service is a trait whose tags say what it is, and
its operations are the methods of the trait. A parameter's meaning follows from its position: a
query takes its request first, and everything else takes the context first and the request second.
-/
namespace ServiceGen

inductive ServiceKind where
  /-- Answers requests over HTTP. -/
  | service
  /-- A unit of work that is called, and called again when it fails. -/
  | activity
  /-- A process that lives long and keeps its state. -/
  | workflow
  deriving Repr, DecidableEq, Inhabited

namespace ServiceKind

/-- The segment of a tag that asks for the kind. -/
def segment : ServiceKind → String
  | .service => "service"
  | .activity => "activity"
  | .workflow => "workflow"

/-- All kinds, in the order in which tags are compared with them. -/
def all : List ServiceKind := [.service, .activity, .workflow]

end ServiceKind

/-- What an operation is to its service. The operations of anything but a workflow are methods. -/
inductive OperationKind where
  | method
  /-- The entrance of a workflow. -/
  | execute
  /-- Changes a running workflow and answers. -/
  | update
  /-- Reads from a running workflow. -/
  | query
  /-- Tells a running workflow something and expects no answer. -/
  | signal
  deriving Repr, DecidableEq, Inhabited

namespace OperationKind

/-- The segment of a tag that asks for the kind. No tag asks for a mere method. -/
def segment? : OperationKind → Option String
  | .method => none
  | .execute => some "execute"
  | .update => some "update"
  | .query => some "query"
  | .signal => some "signal"

/-- The kinds of the operations of workflows, in the order in which tags are compared with them. -/
def ofWorkflow : List OperationKind := [.execute, .update, .query, .signal]

def text (kind : OperationKind) : String := kind.segment?.getD "method"

end OperationKind

structure Operation where
  name : String
  docs : String
  params : List Param
  /-- The results: the value and the error of an operation that can fail, else at most one. -/
  results : List Param
  tags : List Tag
  kind : OperationKind
  /-- Every kind that the tags ask for, in their order. -/
  declaredKinds : List OperationKind
  location : Location
  deriving Repr, DecidableEq, Inhabited

/-- The type that stands for no request and for no response. -/
def unitType : String := "()"

namespace Operation

/-- The parameter that carries the context of the call. -/
def context? (operation : Operation) : Option Param :=
  match operation.kind with
  | .query => none
  | _ => operation.params[0]?

def request? (operation : Operation) : Option Param :=
  match operation.kind with
  | .query => operation.params[0]?
  | _ => operation.params[1]?

def response? (operation : Operation) : Option Param := operation.results[0]?

def requestType (operation : Operation) : String :=
  (operation.request?.map Param.type).getD unitType

def responseType (operation : Operation) : String :=
  (operation.response?.map Param.type).getD unitType

/-- Whether the operation answers a value or an error. -/
def isFallible (operation : Operation) : Bool := operation.results.length == 2

end Operation

structure Service where
  name : String
  docs : String
  tags : List Tag
  kind : ServiceKind
  /-- Every kind that the tags ask for, in their order. -/
  declaredKinds : List ServiceKind
  operations : List Operation
  location : Location
  deriving Repr, DecidableEq, Inhabited

namespace Service

def operationsIn (service : Service) (kinds : List OperationKind) : List Operation :=
  service.operations.filter fun operation => kinds.contains operation.kind

def operationsOf (service : Service) (kind : OperationKind) : List Operation :=
  service.operationsIn [kind]

/-- The entrance of a workflow: the first operation of that kind. -/
def execute? (service : Service) : Option Operation := (service.operationsOf .execute).head?

end Service

structure Package where
  name : String
  sourcePath : String
  services : List Service
  deriving Repr, DecidableEq, Inhabited

def Package.servicesOf (package : Package) (kind : ServiceKind) : List Service :=
  package.services.filter (·.kind == kind)

end ServiceGen
