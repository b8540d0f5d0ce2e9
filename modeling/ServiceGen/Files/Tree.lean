import ServiceGen.Files.Path

/-!
Trees of files. A tree holds files and directories at places, and knows where relative paths begin.
A path leads to a place component by component, and every component but the last has to lead to a
directory, so that two dots can be followed.

Only `put` changes what is at a place. The tree keeps a journal of the files that were written.
-/
namespace ServiceGen

/-- A place in a tree: the names on the way from the top. -/
abbrev Files.Place := List String

inductive Files.Entry where
  | file (content : ByteArray)
  | directory

open Files

structure FileTree where
  /-- What is at each place. There is always a directory at the top. -/
  entries : List (Place × Entry)
  /-- The directory where relative paths begin. -/
  base : Place
  /-- The places of the files that were written, the first one first. -/
  journal : List Place

namespace FileTree

def empty : FileTree := ⟨[], [], []⟩

def entry? (tree : FileTree) (place : Place) : Option Entry :=
  if place.isEmpty then some .directory
  else (tree.entries.find? (·.1 == place)).map Prod.snd

def isDirectory (tree : FileTree) (place : Place) : Bool :=
  match tree.entry? place with
  | some .directory => true
  | _ => false

def isFile (tree : FileTree) (place : Place) : Bool :=
  match tree.entry? place with
  | some (.file _) => true
  | _ => false

/-- The place that a component leads to from a directory. -/
def step (tree : FileTree) (place : Place) (component : Component) : Option Place :=
  match component with
  | .root => some []
  | .current => if tree.isDirectory place then some place else none
  | .above => if tree.isDirectory place then some place.dropLast else none
  | .named name => if tree.isDirectory place then some (place ++ [name]) else none

/-- The place that a path leads to. There need not be anything at that place. -/
def resolve (tree : FileTree) (path : String) : Option Place :=
  (components path).foldlM tree.step tree.base

def lookup (tree : FileTree) (path : String) : Option Entry := (tree.resolve path).bind tree.entry?

def content? (tree : FileTree) (path : String) : Option ByteArray :=
  match tree.lookup path with
  | some (.file content) => some content
  | _ => none

/-- The text of the file that a path leads to, if the file holds text. -/
def text? (tree : FileTree) (path : String) : Option String :=
  (tree.content? path).bind String.fromUTF8?

/-- Whether two places are in the order in which they are met: a directory before what is in it, and
what is in a directory by name. -/
def inOrder : Place → Place → Bool
  | [], _ => true
  | _ :: _, [] => false
  | a :: as, b :: bs => decide (a < b) || (a == b && inOrder as bs)

def children (tree : FileTree) (place : Place) : List Place :=
  let inside := tree.entries.filter fun entry => !entry.1.isEmpty && entry.1.dropLast == place
  (inside.map Prod.fst).mergeSort inOrder

def below (tree : FileTree) (place : Place) : List Place :=
  let inside := tree.entries.filter fun entry => place.isPrefixOf entry.1 && entry.1 != place
  (inside.map Prod.fst).mergeSort inOrder

def put (tree : FileTree) (place : Place) (entry : Entry) : FileTree :=
  { tree with entries := tree.entries.filter (·.1 != place) ++ [(place, entry)] }

/-- Takes away what is at a place, and all that is below it. -/
def remove (tree : FileTree) (place : Place) : FileTree :=
  { tree with entries := tree.entries.filter fun entry => !place.isPrefixOf entry.1 }

/-- Whether a text can be a path at all, which no zero character is part of. -/
def isPath (text : String) : Bool := !text.toList.contains (Char.ofNat 0)

/-- Whether a name can be given to a file: it is no longer than file systems allow. -/
def isNameable (name : String) : Bool := name.utf8ByteSize ≤ 255

/-- The tree in which a component leads from a directory to another one, which is made if there is
nothing. Fails if there is a file, or if no directory can have that name. -/
def enter (tree : FileTree) (place : Place) (component : Component) : FileTree × Option Place :=
  match component, tree.step place component with
  | .named name, some place =>
    match tree.entry? place with
    | none => if isNameable name then (tree.put place .directory, some place) else (tree, none)
    | some .directory => (tree, some place)
    | some (.file _) => (tree, none)
  | _, next => (tree, next)

/-- Follows components, making the directories that are missing. -/
def enterAll (tree : FileTree) (place : Place) : List Component → FileTree × Option Place
  | [] => (tree, some place)
  | component :: rest =>
    match tree.enter place component with
    | (tree, some place) => tree.enterAll place rest
    | (tree, none) => (tree, none)

/-- Makes the directory of a path and those on the way. Answers whether there is one now. -/
def makeDirectories (tree : FileTree) (path : String) : FileTree × Bool :=
  if isPath path then
    let (tree, place) := tree.enterAll tree.base (components path)
    (tree, place.isSome)
  else (tree, false)

def write? (tree : FileTree) (path : String) (content : ByteArray) : Option FileTree :=
  match tree.resolve path with
  | none => none
  | some place =>
    if tree.isDirectory place || !isPath path || !(place.getLast?.any isNameable) then none
    else
      let tree := tree.put place (.file content)
      some { tree with journal := tree.journal ++ [place] }

end FileTree

end ServiceGen
