import ServiceGen.Analysis.Analyzer
import ServiceGen.Source.Declaration
import ServiceGen.Tag.Scan

/-!
The tags of the declarations of a unit. The tags of every tool are kept; whoever uses them chooses
among them. A line that looks like a tag and is none is reported and passed over.
-/
namespace ServiceGen

open Analysis

/-- What is reported of the tags of a declaration that are none. -/
def Tag.Scan.reports (scan : Tag.Scan) (name : String) (location : Location) : List Report :=
  scan.malformed.map fun (_, cause) =>
    ⟨.warning, some location, "failed to parse tag on `" ++ name ++ "`: " ++ cause.message⟩

/-- The declarations that have tags, with their names, in the order of the unit. -/
structure Decorations where
  entries : List (String × List Tag)
  deriving Repr, DecidableEq

namespace Decorations

def get? (decorations : Decorations) (name : String) : Option (List Tag) :=
  (decorations.entries.find? (·.1 == name)).map (·.2)

/-- The number of declarations that have tags. -/
def size (decorations : Decorations) : Nat := decorations.entries.length

/-- The tags of the declarations of a unit. -/
def ofUnit (unit : SourceUnit) : Decorations :=
  ⟨unit.items.filterMap fun item =>
    let tags := (Tag.scan item.docs).tags
    if tags.isEmpty then none else some (item.name, tags)⟩

def reports (unit : SourceUnit) : List Report :=
  unit.items.flatMap fun item => (Tag.scan item.docs).reports item.name item.location

end Decorations

end ServiceGen
