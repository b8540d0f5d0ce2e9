import ServiceGen.Document.Basic
import ServiceGen.Model.Service

/-!
The documents of services: what a package holds, field by field.
-/
namespace ServiceGen

def Location.document (location : Location) : Document :=
  .record [("file", .string location.file), ("line", .number location.line),
    ("column", .number location.column)]

/-- The document of a tag. An option is a list of its key and its values. -/
def Tag.document (tag : Tag) : Document :=
  let entries := tag.options.entries.map fun (key, values) =>
    Document.list [.string key, .strings values]
  .record [("path", .strings tag.path), ("options", .record [("entries", .list entries)])]

def Param.document (param : Param) : Document :=
  .record [("name", .ofOption .string param.name), ("ty", .string param.type)]

def Operation.document (operation : Operation) : Document :=
  .record [("name", .string operation.name), ("docs", .string operation.docs),
    ("params", .list (operation.params.map Param.document)),
    ("results", .list (operation.results.map Param.document)),
    ("tags", .list (operation.tags.map Tag.document)),
    ("kind", .string operation.kind.text),
    ("declared_kinds", .strings (operation.declaredKinds.map OperationKind.text)),
    ("location", operation.location.document)]

def Service.document (service : Service) : Document :=
  .record [("name", .string service.name), ("docs", .string service.docs),
    ("tags", .list (service.tags.map Tag.document)),
    ("kind", .string service.kind.segment),
    ("declared_kinds", .strings (service.declaredKinds.map ServiceKind.segment)),
    ("operations", .list (service.operations.map Operation.document)),
    ("location", service.location.document)]

def Package.document (package : Package) : Document :=
  .record [("name", .string package.name), ("source_path", .string package.sourcePath),
    ("services", .list (package.services.map Service.document))]

end ServiceGen
