import ServiceGen.Tag.Grammar
import ServiceGen.Text.Lines

/-!
Scanning documentation for tags. Lines that do not look like tags are passed over; lines that look
like tags and are none are set aside with their position.
-/
namespace ServiceGen.Tag

/-- What the lines of a documentation text hold. -/
structure Scan where
  /-- The tags, in the order of their lines. -/
  tags : List Tag
  /-- The lines that look like a tag and are none: position, counted from zero, and reason. -/
  malformed : List (Nat × ParseError)
  deriving Repr, DecidableEq

/-- Scans lines, the first of which has the given position. -/
def scanFrom (position : Nat) : List String → Scan
  | [] => ⟨[], []⟩
  | line :: rest =>
    let later := scanFrom (position + 1) rest
    if !isTag line then later
    else
      match parse line with
      | .ok tag => { later with tags := tag :: later.tags }
      | .error cause => { later with malformed := (position, cause) :: later.malformed }

def scan (lines : List String) : Scan := scanFrom 0 lines

def linesOf (text : String) : List String := (Text.lines text.toList).map String.ofList

/-- Every tag of a documentation text. -/
def ofText (text : String) : List Tag := (scan (linesOf text)).tags

end ServiceGen.Tag
