import ServiceGen.Text.Blank

/-!
Paths of files. A path is a text of parts between slashes, and what it means is its components:
empty parts and single dots mean nothing, unless a dot is the first part. Two dots are a component
of their own, since the part before them may be a link.
-/
namespace ServiceGen.Files

inductive Component where
  | root
  | current
  | above
  | named (name : String)
  deriving Repr, DecidableEq, Inhabited

namespace Component

/-- The component that a part of a path stands for, if it means anything. -/
def ofPart (part : List Char) : Option Component :=
  if part.isEmpty || part == ['.'] then none
  else if part == ['.', '.'] then some .above
  else some (.named (String.ofList part))

def name? : Component → Option String
  | .named name => some name
  | _ => none

def rank : Component → Nat
  | .root => 0
  | .current => 1
  | .above => 2
  | .named _ => 3

/-- Whether a component comes before another: those without a name first, the others by name. -/
def before : Component → Component → Bool
  | .named a, .named b => decide (a < b)
  | a, b => a.rank < b.rank

end Component

def components (path : String) : List Component :=
  let parts := Text.pieces (· == '/') path.toList
  let meaning := parts.filterMap Component.ofPart
  match path.toList, parts with
  | '/' :: _, _ => .root :: meaning
  | _, ['.'] :: _ => .current :: meaning
  | _, _ => meaning

/-- Whether a path begins at the root. -/
def isAbsolute (path : String) : Bool := path.toList.head? == some '/'

/-- A path behind another one. An absolute path stands for itself. -/
def join (base path : String) : String :=
  if isAbsolute path then path
  else if base.isEmpty || base.toList.getLast? == some '/' then base ++ path
  else base ++ "/" ++ path

/-- Whether a part behind the first one means anything. -/
def isMeaningful (part : List Char) : Bool := !(part.isEmpty || part == ['.'])

/-- The path before the last component, without what means nothing at its end. The root has nothing
before it, and neither has the empty path. -/
def parentPath? (path : String) : Option String :=
  match Text.pieces (· == '/') path.toList with
  | [] => none
  | first :: rest =>
    let tail := rest.reverse.dropWhile (!isMeaningful ·)
    let behind := (tail.drop 1).dropWhile (!isMeaningful ·)
    match tail, behind with
    | [], _ => if first.isEmpty then none else some ""
    | _ :: _, [] => some (if first.isEmpty then "/" else String.ofList first)
    | _ :: _, _ :: _ =>
      some (String.intercalate "/" ((first :: behind.reverse).map String.ofList))

/-- The components before the last one. The root has nothing before it. -/
def parent? (components : List Component) : Option (List Component) :=
  match components.getLast? with
  | none => none
  | some .root => none
  | some _ => some components.dropLast

/-- The name of the file or directory that the components lead to. -/
def fileName? (components : List Component) : Option String :=
  components.getLast?.bind Component.name?

/-- A file name without what follows its last dot. A dot in front does not count. -/
def stem (name : String) : String :=
  match Text.cutAt (· == '.') name.toList.reverse with
  | some (_, before) => if before.isEmpty then name else String.ofList before.reverse
  | none => name

/-- Whether a path comes before another one, component by component. -/
def before : List Component → List Component → Bool
  | [], [] => false
  | [], _ :: _ => true
  | _ :: _, [] => false
  | a :: as, b :: bs => a.before b || (a == b && before as bs)

/-- The components behind a leading path, if that is what the components begin with. -/
def strip? : List Component → List Component → Option (List Component)
  | [], path => some path
  | a :: as, b :: bs => if a == b then strip? as bs else none
  | _ :: _, [] => none

end ServiceGen.Files
