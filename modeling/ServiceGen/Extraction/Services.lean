import ServiceGen.Extraction.Decorations
import ServiceGen.Model.Classifier

/-!
Finding the services of a unit. A declaration that speaks to the marker becomes a service if it is
a trait, a tag asks for a kind of service, and all of its members can be operations. If not, the
reasons are reported and nothing is made of it.
-/
namespace ServiceGen

open Analysis

namespace Extraction

def warning (location : Location) (message : String) : Report := ⟨.warning, some location, message⟩

/-- Why a method cannot be an operation. -/
def unfitness? (method : Method) : Option String :=
  match method.receiver with
  | .none => some "has no `&self` receiver"
  | .changing => some "takes `&mut self`; service methods must take `&self`"
  | .value => some "takes `self` by value; service methods must take `&self`"
  | .typed => some "takes `self` by value; service methods must take `&self`"
  | .shared =>
    if method.isGeneric then some "is generic"
    else if method.isAsync then some "is async"
    else none

/-- What is said of a member of a trait that cannot be an operation. -/
def objection? (item : Item) : Member → Option Report
  | .method method =>
    (unfitness? method).map fun reason =>
      warning method.location ("`" ++ item.name ++ "::" ++ method.name ++ "` " ++ reason)
  | .other what location =>
    some (warning location
      (what ++ " in `" ++ item.name ++ "` is not supported in a service trait"))

def methods (item : Item) : List Method :=
  item.members.filterMap fun member =>
    match member with
    | .method method => some method
    | .other .. => none

/-- The kinds that the tags of a method ask for, in a service of the given kind. -/
def declaredKinds (classifier : Classifier) (kind : ServiceKind) (tags : List Tag) :
    List OperationKind :=
  match kind with
  | .workflow => classifier.operationKinds tags
  | _ => []

def operation (classifier : Classifier) (kind : ServiceKind) (method : Method) : Operation :=
  let tags := (Tag.scan method.docs).tags
  let declared := declaredKinds classifier kind tags
  { name := method.name
    docs := Docs.text method.docs
    params := method.params
    results := method.results
    tags := tags
    kind := declared.head?.getD .method
    declaredKinds := declared
    location := method.location }

def methodReports (item : Item) : List Report :=
  (methods item).flatMap fun method => (Tag.scan method.docs).reports method.name method.location

/-- What is made of a declaration that speaks to the marker, and what is reported of it. -/
def service (classifier : Classifier) (item : Item) (tags : List Tag) :
    Option Service × List Report :=
  let marker := classifier.marker
  let declared := classifier.serviceKinds tags
  let refused (message : String) : Option Service × List Report :=
    (none, [warning item.location message])
  if item.kind ≠ .trait then
    refused ("`" ++ item.name ++ "` is a " ++ item.kind.text ++ " tagged with `" ++ marker ++
      ":`; only traits become services")
  else
    match declared with
    | [] =>
      refused ("`" ++ item.name ++ "` has `" ++ marker ++ ":` tags but none of `" ++ marker ++
        ":service`, `" ++ marker ++ ":activity` or `" ++ marker ++ ":workflow`")
    | kind :: _ =>
      let objections := item.members.filterMap (objection? item)
      if objections.isEmpty then
        (some {
          name := item.name
          docs := Docs.text item.docs
          tags := tags
          kind := kind
          declaredKinds := declared
          operations := (methods item).map (operation classifier kind)
          location := item.location }, methodReports item)
      else
        let skipped := "`" ++ item.name ++ "` skipped: unsupported trait members"
        (none, objections ++ [warning item.location skipped])

/-- What is made of each name whose tags speak to the marker. The declaration of a name is the
first one. -/
def services (classifier : Classifier) (unit : SourceUnit) (decorations : Decorations) :
    List (Option Service × List Report) :=
  decorations.entries.filterMap fun (name, tags) =>
    if classifier.anyTag.any tags then
      (unit.item? name).map fun item => service classifier item tags
    else none

def package (classifier : Classifier) (unit : SourceUnit) (decorations : Decorations) : Package :=
  { name := unit.package
    sourcePath := unit.path
    services := (services classifier unit decorations).filterMap (·.1) }

def reports (classifier : Classifier) (unit : SourceUnit) (decorations : Decorations) :
    List Report :=
  (services classifier unit decorations).flatMap (·.2)

end Extraction

end ServiceGen
