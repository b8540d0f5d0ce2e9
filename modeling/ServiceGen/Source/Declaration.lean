import ServiceGen.Diagnostic
import ServiceGen.Text.Blank

/-!
What is kept of a source text: its named declarations at the top level, their documentation, and
the members of its interfaces.
-/
namespace ServiceGen

/-- A parameter or a result. The type is the text of its tokens. -/
structure Param where
  name : Option String
  type : String
  deriving Repr, DecidableEq, Inhabited

inductive ItemKind where
  | trait
  | struct
  | enum
  | typeAlias
  | function
  | other
  deriving Repr, DecidableEq, Inhabited

def ItemKind.text : ItemKind → String
  | .trait => "trait"
  | .struct => "struct"
  | .enum => "enum"
  | .typeAlias => "type alias"
  | .function => "function"
  | .other => "item"

/-- How a method takes the value that it is called on. -/
inductive Receiver where
  | none
  | shared
  | changing
  | value
  | typed
  deriving Repr, DecidableEq, Inhabited

structure Method where
  name : String
  /-- The documentation, line by line as written. -/
  docs : List String
  receiver : Receiver
  /-- Whether the method has generic parameters or conditions on them. -/
  isGeneric : Bool
  isAsync : Bool
  params : List Param
  /-- The results: none for the empty tuple, the value and the error of a `Result`, else one. -/
  results : List Param
  location : Location
  deriving Repr, DecidableEq, Inhabited

inductive Member where
  | method (method : Method)
  /-- Anything else, with a description of it. -/
  | other (what : String) (location : Location)
  deriving Repr, DecidableEq, Inhabited

/-- A named declaration at the top level. -/
structure Item where
  name : String
  kind : ItemKind
  /-- The documentation, line by line as written. -/
  docs : List String
  location : Location
  /-- The members of a trait; other declarations have none. -/
  members : List Member
  deriving Repr, DecidableEq, Inhabited

/-- A source text that was read, with the package that it is for. -/
structure SourceUnit where
  package : String
  path : String
  items : List Item
  deriving Repr, DecidableEq, Inhabited

namespace SourceUnit

/-- The part of the path before its last slash. -/
def dir (unit : SourceUnit) : String :=
  match Text.cutAt (· == '/') unit.path.toList.reverse with
  | some (_, before) => String.ofList before.reverse
  | none => ""

def item? (unit : SourceUnit) (name : String) : Option Item :=
  unit.items.find? (·.name == name)

end SourceUnit

namespace Docs

/-- A documentation line without the blank that is customary in front of it. -/
def unindent : List Char → List Char
  | ' ' :: cs => cs
  | cs => cs

def text (lines : List String) : String :=
  let joined := List.intercalate ['\n'] (lines.map fun line => unindent line.toList)
  String.ofList (Text.trim joined)

end Docs

end ServiceGen
