import ServiceGen.Text.Blank

/-!
Patterns of names. A question mark stands for any character, a star for any text, and brackets for
one character of a class, or for one outside of it if an exclamation mark comes first. Two stars in
a row are no pattern of a name.
-/
namespace ServiceGen.Files

/-- The characters from one to another. -/
structure CharRange where
  first : Char
  last : Char
  deriving Repr, DecidableEq

inductive NameElement where
  | exactly (c : Char)
  | anyCharacter
  | anyText
  | within (ranges : List CharRange)
  | outside (ranges : List CharRange)
  deriving Repr, DecidableEq

abbrev NamePattern := List NameElement

namespace NamePattern

/-- The class that is written between brackets. A dash at an end stands for itself. -/
def ranges : List Char → List CharRange
  | a :: '-' :: b :: rest => ⟨a, b⟩ :: ranges rest
  | a :: rest => ⟨a, a⟩ :: ranges rest
  | [] => []

/-- The class behind an opening bracket, and what follows it. A closing bracket that comes first
belongs to the class. -/
def bracket? : List Char → Option (NameElement × List Char)
  | '!' :: c :: rest =>
    (Text.cutAt (· == ']') rest).map fun (more, after) => (.outside (ranges (c :: more)), after)
  | ['!'] => none
  | c :: rest =>
    (Text.cutAt (· == ']') rest).map fun (more, after) => (.within (ranges (c :: more)), after)
  | [] => none

theorem cutAt_length {cut : Char → Bool} {cs before after : List Char}
    (h : Text.cutAt cut cs = some (before, after)) : after.length < cs.length := by
  induction cs generalizing before with
  | nil => simp [Text.cutAt] at h
  | cons c cs ih =>
    simp only [Text.cutAt] at h
    split at h
    · simp only [Option.some.injEq, Prod.mk.injEq] at h
      simp [h.2]
    · simp only [Option.map_eq_some_iff, Prod.mk.injEq, Prod.exists] at h
      obtain ⟨b, a, hba, -, rfl⟩ := h
      have := ih hba
      simp only [List.length_cons]
      omega

theorem bracket?_length {cs after : List Char} {element : NameElement}
    (h : bracket? cs = some (element, after)) : after.length < cs.length := by
  unfold bracket? at h
  split at h <;> simp only [Option.map_eq_some_iff, Prod.mk.injEq, Prod.exists, reduceCtorEq] at h
  all_goals
    obtain ⟨b, a, hba, -, rfl⟩ := h
    have := cutAt_length hba
    simp only [List.length_cons]
    omega

/-- The pattern that a text stands for, if it is one. -/
def parse? (cs : List Char) : Option NamePattern :=
  match cs with
  | [] => some []
  | '?' :: rest => (parse? rest).map (.anyCharacter :: ·)
  | '*' :: rest => if rest.head? == some '*' then none else (parse? rest).map (.anyText :: ·)
  | '[' :: rest =>
    match h : bracket? rest with
    | none => none
    | some (element, after) =>
      have := bracket?_length h
      (parse? after).map (element :: ·)
  | c :: rest => (parse? rest).map (.exactly c :: ·)
termination_by cs.length

def holds (ranges : List CharRange) (c : Char) : Bool :=
  ranges.any fun range => range.first ≤ c && c ≤ range.last

/-- Whether a character fits an element that stands for one character. -/
def fits : NameElement → Char → Bool
  | .exactly d, c => c == d
  | .anyCharacter, _ => true
  | .anyText, _ => false
  | .within ranges, c => holds ranges c
  | .outside ranges, c => !holds ranges c

/-- For every end of a name, the longest one first, whether it fits a pattern. The empty end comes
last, so that a name has one more end than it has characters. -/
def matchesEnds : NamePattern → List Char → List Bool
  | [], cs => cs.map (fun _ => false) ++ [true]
  | .anyText :: rest, cs =>
    (matchesEnds rest cs).foldr (fun fits shorter => (fits || shorter.headD false) :: shorter) []
  | element :: rest, cs =>
    let shorter := (matchesEnds rest cs).tail
    List.zipWith (fun c fitting => fits element c && fitting) cs shorter ++ [false]

/-- Whether a name fits a pattern as a whole. -/
def matchesText (pattern : NamePattern) (cs : List Char) : Bool :=
  (matchesEnds pattern cs).headD false

/-- The only name that fits a pattern, if the pattern is spelled out. -/
def literal? : NamePattern → Option (List Char)
  | [] => some []
  | .exactly c :: rest => (literal? rest).map (c :: ·)
  | _ => none

end NamePattern

end ServiceGen.Files
