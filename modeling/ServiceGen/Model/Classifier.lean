import ServiceGen.Model.Service
import ServiceGen.Tag.Predicate

/-!
Classification by tags. The marker is the tool whose tags count: `acme:workflow` makes a workflow
under the marker `acme`, and `acme:workflow:signal` a signal of it. Only the exact path of a tag
asks for a kind.
-/
namespace ServiceGen

structure Classifier where
  marker : String
  deriving Repr, DecidableEq

namespace Classifier

def anyTag (classifier : Classifier) : Predicate := .startsWith [classifier.marker]

/-- Whether a tag asks for a kind of service. -/
def ofService (classifier : Classifier) (kind : ServiceKind) : Predicate :=
  .has [classifier.marker, kind.segment]

/-- Whether a tag asks for a kind of operation. -/
def ofOperation (classifier : Classifier) (kind : OperationKind) : Predicate :=
  match kind.segment? with
  | some segment => .has [classifier.marker, ServiceKind.workflow.segment, segment]
  | none => .oneOf []

/-- Whether a tag may carry the options of a route. -/
def route (classifier : Classifier) : Predicate :=
  .oneOf [.has [classifier.marker, "service", "method"], classifier.ofService .service]

/-- The kinds of services that tags ask for, each once, in the order of the tags. -/
def serviceKinds (classifier : Classifier) (tags : List Tag) : List ServiceKind :=
  (tags.filterMap fun tag =>
    ServiceKind.all.find? fun kind => (classifier.ofService kind).holds tag).eraseDups

/-- The kinds of operations that tags ask for, each once, in the order of the tags. -/
def operationKinds (classifier : Classifier) (tags : List Tag) : List OperationKind :=
  (tags.filterMap fun tag =>
    OperationKind.ofWorkflow.find? fun kind => (classifier.ofOperation kind).holds tag).eraseDups

def topTag? (classifier : Classifier) (service : Service) : Option Tag :=
  (classifier.ofService service.kind).find? service.tags

end Classifier

end ServiceGen
