import ServiceGen.Files.NamePattern

/-!
Which names fit a pattern. Ends of a name are tried one character after the other, and what comes of
it is that each element takes its part of the name: a star any text, the others one character.
-/
namespace ServiceGen.Files

namespace NamePattern

/-- That the elements of a pattern take the characters of a name, from the first to the last. -/
inductive Fits : NamePattern → List Char → Prop where
  | nil : Fits [] []
  | one {element : NameElement} {rest : NamePattern} {c : Char} {cs : List Char}
      (hfits : fits element c = true) (hrest : Fits rest cs) : Fits (element :: rest) (c :: cs)
  | text {rest : NamePattern} (front : List Char) {cs : List Char} (hrest : Fits rest cs) :
      Fits (.anyText :: rest) (front ++ cs)

variable {pattern rest : NamePattern} {element : NameElement} {c : Char} {cs : List Char}

theorem fits_nil : Fits [] cs ↔ cs = [] := by
  constructor
  · intro hfits
    cases hfits
    rfl
  · rintro rfl
    exact .nil

theorem fits_anyText : Fits (.anyText :: rest) cs ↔ ∃ behind, behind <:+ cs ∧ Fits rest behind := by
  constructor
  · intro hfits
    cases hfits with
    | one hnone _ => exact absurd hnone (by simp [fits])
    | text front hrest => exact ⟨_, ⟨front, rfl⟩, hrest⟩
  · rintro ⟨behind, ⟨front, rfl⟩, hrest⟩
    exact .text front hrest

theorem fits_one_cons (hone : element ≠ .anyText) :
    Fits (element :: rest) (c :: cs) ↔ fits element c = true ∧ Fits rest cs := by
  constructor
  · intro hfits
    generalize hname : c :: cs = name at hfits
    cases hfits with
    | one hfits hrest =>
      obtain ⟨rfl, rfl⟩ := List.cons.inj hname
      exact ⟨hfits, hrest⟩
    | text _ _ => exact absurd rfl hone
  · exact fun ⟨hfits, hrest⟩ => .one hfits hrest

theorem not_fits_one_nil (hone : element ≠ .anyText) : ¬ Fits (element :: rest) [] := by
  intro hfits
  generalize hname : ([] : List Char) = name at hfits
  cases hfits with
  | one _ _ => exact absurd hname (by simp)
  | text _ _ => exact absurd rfl hone

theorem matchesEnds_ne_nil (pattern : NamePattern) (cs : List Char) :
    matchesEnds pattern cs ≠ [] := by
  induction pattern with
  | nil => simp [matchesEnds]
  | cons element rest ih =>
    cases element with
    | anyText =>
      rw [matchesEnds]
      cases hends : matchesEnds rest cs with
      | nil => exact absurd hends ih
      | cons first shorter => simp
    | exactly _ | anyCharacter | within _ | outside _ => simp [matchesEnds]

/-- The empty name has no end but itself. -/
theorem matchesEnds_nil (pattern : NamePattern) :
    matchesEnds pattern [] = [matchesText pattern []] := by
  suffices hlast : ∃ last, matchesEnds pattern [] = [last] by
    obtain ⟨last, hlast⟩ := hlast
    rw [matchesText, hlast, List.headD_cons]
  induction pattern with
  | nil => exact ⟨true, rfl⟩
  | cons element rest ih =>
    cases element with
    | anyText =>
      obtain ⟨last, hlast⟩ := ih
      exact ⟨last || false, by rw [matchesEnds, hlast]; rfl⟩
    | exactly _ | anyCharacter | within _ | outside _ => exact ⟨false, by simp [matchesEnds]⟩

/-- The ends of a name but the longest are those of the name without its first character. -/
theorem matchesEnds_cons (pattern : NamePattern) (c : Char) (cs : List Char) :
    matchesEnds pattern (c :: cs) = matchesText pattern (c :: cs) :: matchesEnds pattern cs := by
  suffices htail : (matchesEnds pattern (c :: cs)).tail = matchesEnds pattern cs by
    obtain ⟨first, shorter, hends⟩ :=
      List.exists_cons_of_ne_nil (matchesEnds_ne_nil pattern (c :: cs))
    rw [hends, List.tail_cons] at htail
    rw [matchesText, hends, htail, List.headD_cons]
  induction pattern with
  | nil => rfl
  | cons element rest ih =>
    obtain ⟨first, shorter, hends⟩ :=
      List.exists_cons_of_ne_nil (matchesEnds_ne_nil rest (c :: cs))
    obtain ⟨second, others, hshorter⟩ := List.exists_cons_of_ne_nil (matchesEnds_ne_nil rest cs)
    rw [hends, List.tail_cons] at ih
    cases element with
    | anyText => rw [matchesEnds, matchesEnds, hends, List.foldr_cons, List.tail_cons, ih]
    | exactly _ | anyCharacter | within _ | outside _ =>
      rw [matchesEnds, matchesEnds, hends, List.tail_cons, ih, hshorter]
      rfl
      all_goals simp

theorem matchesText_nil : matchesText [] cs = cs.isEmpty := by
  cases cs <;> simp [matchesText, matchesEnds]

theorem matchesText_anyText_nil : matchesText (.anyText :: rest) [] = matchesText rest [] := by
  rw [matchesText, matchesEnds, matchesEnds_nil]
  exact Bool.or_false _

/-- A star takes nothing, or it takes the first character and goes on. -/
theorem matchesText_anyText_cons : matchesText (.anyText :: rest) (c :: cs) =
    (matchesText rest (c :: cs) || matchesText (.anyText :: rest) cs) := by
  rw [matchesText, matchesEnds, matchesEnds_cons, List.foldr_cons, List.headD_cons, ← matchesEnds,
    matchesText.eq_1 (.anyText :: rest)]

section one

variable (hone : element ≠ .anyText)
include hone

theorem matchesEnds_one : matchesEnds (element :: rest) cs =
    List.zipWith (fun c fitting => fits element c && fitting) cs (matchesEnds rest cs).tail ++
      [false] := by
  cases element with
  | anyText => exact absurd rfl hone
  | exactly _ | anyCharacter | within _ | outside _ => rw [matchesEnds]; simp

theorem matchesText_one_nil : matchesText (element :: rest) [] = false := by
  rw [matchesText, matchesEnds_one hone]
  rfl

theorem matchesText_one_cons : matchesText (element :: rest) (c :: cs) =
    (fits element c && matchesText rest cs) := by
  obtain ⟨first, shorter, hends⟩ := List.exists_cons_of_ne_nil (matchesEnds_ne_nil rest cs)
  have hrest : matchesText rest cs = first := by rw [matchesText, hends, List.headD_cons]
  rw [matchesText, matchesEnds_one hone, matchesEnds_cons, List.tail_cons, hends, hrest,
    List.zipWith_cons_cons, List.cons_append, List.headD_cons]

end one

/-- A name fits a pattern as a whole if the elements of the pattern take its characters. -/
theorem matchesText_iff : matchesText pattern cs = true ↔ Fits pattern cs := by
  induction pattern generalizing cs with
  | nil =>
    rw [matchesText_nil, fits_nil, List.isEmpty_iff]
  | cons element rest ih =>
    by_cases hone : element = .anyText
    · subst hone
      rw [fits_anyText]
      induction cs with
      | nil => rw [matchesText_anyText_nil, ih]; simp
      | cons c cs ihcs =>
        rw [matchesText_anyText_cons, Bool.or_eq_true, ih, ihcs]
        simp only [List.suffix_cons_iff, or_and_right, exists_or, exists_eq_left]
    · cases cs with
      | nil =>
        rw [matchesText_one_nil hone]
        exact iff_of_false (by simp) (not_fits_one_nil hone)
      | cons c cs =>
        rw [matchesText_one_cons hone, fits_one_cons hone, Bool.and_eq_true, ih]

/-- A text that is spelled out in a pattern stands for itself. -/
theorem fits_exactly {text : List Char} :
    Fits (text.map .exactly) cs ↔ cs = text := by
  induction text generalizing cs with
  | nil => exact fits_nil
  | cons d text ih =>
    have hone : NameElement.exactly d ≠ .anyText := by simp
    cases cs with
    | nil => exact iff_of_false (not_fits_one_nil hone) (by simp)
    | cons c cs => rw [List.map_cons, fits_one_cons hone, ih, List.cons.injEq, fits, beq_iff_eq]

/-- A star in front of a text stands for the names that end with the text. -/
theorem matchesText_ending {ending : List Char} :
    matchesText (.anyText :: ending.map .exactly) cs = true ↔ ending <:+ cs := by
  rw [matchesText_iff, fits_anyText]
  simp only [fits_exactly, exists_eq_right]

/-- The characters with a meaning of their own in patterns. -/
def marks : List Char := ['*', '?', '[']

theorem parse?_of_plain (hplain : ∀ c ∈ cs, c ∉ marks) : parse? cs = some (cs.map .exactly) := by
  induction cs with
  | nil => simp [parse?]
  | cons c rest ih =>
    have hc := hplain c List.mem_cons_self
    have hrest := ih fun d hd => hplain d (List.mem_cons_of_mem _ hd)
    simp only [marks, List.mem_cons, List.not_mem_nil, or_false, not_or] at hc
    rw [parse?.eq_def]
    split
    all_goals simp_all

theorem literal?_exactly : literal? (cs.map .exactly) = some cs := by
  induction cs with
  | nil => rfl
  | cons c rest ih => rw [List.map_cons, literal?, ih]; rfl

end NamePattern

end ServiceGen.Files
