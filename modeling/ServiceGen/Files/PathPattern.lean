import ServiceGen.Files.NamePattern
import ServiceGen.Files.Tree

/-!
Patterns of paths. A part of a pattern is the pattern of a name, or two stars for any number of
directories. The paths that a pattern finds keep those parts that are spelled out as they are.
-/
namespace ServiceGen.Files

inductive Segment where
  | name (pattern : NamePattern)
  /-- Any number of directories. -/
  | deep
  deriving Repr, DecidableEq

structure PathPattern where
  isAbsolute : Bool
  segments : List Segment
  /-- Whether only directories are meant. -/
  onlyDirectories : Bool
  deriving Repr, DecidableEq

/-- A path that leads to something, and where it leads. -/
structure Found where
  path : String
  place : Place
  deriving Repr, DecidableEq

namespace Segment

def parse? (part : List Char) : Option Segment :=
  if part == ['*', '*'] then some .deep else (NamePattern.parse? part).map .name

end Segment

namespace Found

/-- A path with one more part. A path that is only a dot goes before no other part. -/
def extend (found : Found) (part : String) (place : Place) : Found :=
  ⟨if components found.path == [.current] then part else join found.path part, place⟩

/-- What is found behind a path by a part that is spelled out. The path has to lead to a directory
even if the part is empty, and then it has to be a path. -/
def follow (tree : FileTree) (found : Found) (part : List Char) : Option Found :=
  if tree.isDirectory found.place then
    let text := String.ofList part
    match Component.ofPart part with
    | none => some (found.extend text found.place) |>.filter (!·.path.isEmpty)
    | some component =>
      match tree.step found.place component with
      | none => none
      | some place =>
        if (tree.entry? place).isSome then some (found.extend text place) else none
  else none

/-- What is found below a path, given where it is. -/
def inside (found : Found) (place : Place) : Found :=
  found.extend (String.intercalate "/" (place.drop found.place.length)) place

def name (found : Found) : List Char := ((found.place.getLast?).getD "").toList

/-- The directory itself and the one above, if the pattern begins with a dot and they fit. -/
def dots (found : Found) (pattern : NamePattern) : List Found :=
  if pattern.head? == some (.exactly '.') then
    let above := ⟨join found.path "..", found.place.dropLast⟩
    let current := ⟨join found.path ".", found.place⟩
    (if pattern.matchesText ['.', '.'] then [above] else []) ++
      (if pattern.matchesText ['.'] then [current] else [])
  else []

def entries (tree : FileTree) (found : Found) (pattern : NamePattern) : List Found :=
  if tree.isDirectory found.place then
    let inside := (tree.children found.place).map found.inside
    found.dots pattern ++ inside.filter fun entry => pattern.matchesText entry.name
  else []

def search (tree : FileTree) : List Segment → Found → List Found
  | [], found => [found]
  | .deep :: .deep :: rest, found => search tree (.deep :: rest) found
  | [.deep], found =>
    ((tree.below found.place).map found.inside).filter (tree.isDirectory ·.place)
  | .deep :: .name pattern :: rest, found =>
    let fitting := ((tree.below found.place).map found.inside).filter fun entry =>
      pattern.matchesText entry.name
    fitting.flatMap (search tree rest)
  | .name pattern :: rest, found =>
    match pattern.literal? with
    | some part => ((found.follow tree part).map (search tree rest)).getD []
    | none => (found.entries tree pattern).flatMap (search tree rest)

end Found

namespace PathPattern

/-- The parts of a text between slashes. A slash at the end has nothing behind it. -/
def parts (cs : List Char) : List (List Char) :=
  let parts := Text.pieces (· == '/') cs
  if parts.getLast? == some [] then parts.dropLast else parts

/-- The pattern that a text stands for, if it is one. The empty text stands for where one is. -/
def parse? (text : String) : Option PathPattern :=
  let isAbsolute := Files.isAbsolute text
  let body := if isAbsolute then text.toList.drop 1 else text.toList
  let segments := if body.isEmpty then some [.name []] else (parts body).mapM Segment.parse?
  segments.map fun segments => ⟨isAbsolute, segments, text.toList.getLast? == some '/'⟩

/-- Where the search for a pattern begins. -/
def origin (pattern : PathPattern) (tree : FileTree) : Found :=
  if pattern.isAbsolute then ⟨"/", []⟩ else ⟨".", tree.base⟩

def find (pattern : PathPattern) (tree : FileTree) : List Found :=
  let found := (pattern.origin tree).search tree pattern.segments
  if pattern.onlyDirectories then found.filter (tree.isDirectory ·.place) else found

end PathPattern

end ServiceGen.Files
