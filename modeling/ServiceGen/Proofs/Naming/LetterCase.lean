import Mathlib.Data.List.Basic
import ServiceGen.Naming.Names
import ServiceGen.Proofs.Text.Pieces

/-!
What the snake case of a name says about its shouty case. The first is what methods and functions
are named by, and the second what constants are named by. Writing a letter small loses nothing that
writing it large would keep, but for a few letters: the Kelvin sign and `K` have the same small form
and are two capitals. Of a name without such letters the snake case determines the shouty case.
-/
namespace ServiceGen

namespace Text.LetterCase

/-- Whether the small form of a character has the same capital form as the character itself. -/
def Steady (c : Char) : Prop := (lower c).flatMap upper = upper c

instance (c : Char) : Decidable (Steady c) := inferInstanceAs (Decidable (_ = _))

theorem steady_of_lt {c : Char} (hascii : c.toNat < 0x80) : Steady c := by
  have hall : ∀ point : Fin 0x80, Steady (Char.ofNat point) := by decide +kernel
  have hc := hall ⟨c.toNat, hascii⟩
  rwa [Char.ofNat_toNat] at hc

end Text.LetterCase

namespace Naming

open Text LetterCase

theorem flatMap_intercalate {α β : Type} (f : α → List β) (separator : List α)
    (pieces : List (List α)) :
    (List.intercalate separator pieces).flatMap f =
      List.intercalate (separator.flatMap f) (pieces.map fun piece => piece.flatMap f) := by
  induction pieces with
  | nil => rfl
  | cons piece rest ih =>
    cases rest with
    | nil => simp
    | cons next others =>
      rw [List.intercalate_cons_cons, List.flatMap_append, List.flatMap_append, ih]
      simp only [List.map_cons, List.intercalate_cons_cons]

/-- Humps hold the characters of the part of the word before them and those that follow. -/
theorem mem_of_mem_humps {run : Run} {word cs hump : List Char} {c : Char}
    (hhump : hump ∈ humps run word cs) (hc : c ∈ hump) : c ∈ word ∨ c ∈ cs := by
  fun_induction humps run word cs with
  | case1 => exact absurd hhump List.not_mem_nil
  | case2 run word last =>
    rw [List.mem_singleton.mp hhump, List.mem_reverse, List.mem_cons] at hc
    obtain rfl | hword := hc
    · exact .inr List.mem_cons_self
    · exact .inl hword
  | case3 run word first next rest hends ih =>
    obtain rfl | hlater := List.mem_cons.mp hhump
    · rw [List.mem_reverse, List.mem_cons] at hc
      obtain rfl | hword := hc
      · exact .inr List.mem_cons_self
      · exact .inl hword
    · obtain hnone | hrest := ih hlater
      · exact absurd hnone List.not_mem_nil
      · exact .inr (List.mem_cons_of_mem _ hrest)
  | case4 run word first next rest hgoes hends ih =>
    obtain rfl | hlater := List.mem_cons.mp hhump
    · exact .inl (List.mem_reverse.mp hc)
    · obtain hfirst | hrest := ih hlater
      · exact .inr (List.mem_singleton.mp hfirst ▸ List.mem_cons_self)
      · exact .inr (List.mem_cons_of_mem _ hrest)
  | case5 run word first next rest hgoes hstays ih =>
    obtain hfirst | hrest := ih hhump
    · obtain rfl | hword := List.mem_cons.mp hfirst
      · exact .inr List.mem_cons_self
      · exact .inl hword
    · exact .inr (List.mem_cons_of_mem _ hrest)

theorem mem_of_mem_words {name : String} {word : List Char} (hword : word ∈ words name) {c : Char}
    (hc : c ∈ word) : c ∈ name.toList ∧ isAlphanumeric c = true := by
  obtain ⟨piece, hpiece, hhump⟩ := List.mem_flatMap.mp hword
  obtain hnone | hmem := mem_of_mem_humps hhump hc
  · exact absurd hnone List.not_mem_nil
  · obtain ⟨hname, hkept⟩ := mem_of_mem_pieces hpiece hmem
    exact ⟨hname, by simpa using hkept⟩

/-- A word of steady characters is as large in its small form. The form of a sigma at the end of the
word is as steady as the other one. -/
theorem uppercase_lowercase {word : List Char} (hsteady : ∀ c ∈ word, Steady c) :
    (lowercase word).flatMap upper = uppercase word := by
  have hsigma : (['ς'] : List Char).flatMap upper = upper 'Σ' := by decide +kernel
  fun_induction lowercase word with
  | case1 => rfl
  | case2 c hlast =>
    rw [eq_of_beq hlast, hsigma, uppercase, List.flatMap_singleton]
  | case3 c hother => rw [hsteady c List.mem_cons_self, uppercase, List.flatMap_singleton]
  | case4 c rest hrest ih =>
    have hfollowing : ∀ next ∈ rest, Steady next :=
      fun next hnext => hsteady next (List.mem_cons_of_mem _ hnext)
    rw [List.flatMap_append, hsteady c List.mem_cons_self, ih hfollowing, uppercase, uppercase,
      List.flatMap_cons]

/-- Whether a name is of steady characters, as all names of ASCII characters are. -/
def IsSteady (name : String) : Prop := ∀ c ∈ name.toList, Steady c

def IsAscii (name : String) : Prop := name.toList.all (·.toNat < 0x80) = true

instance (name : String) : Decidable (IsAscii name) := inferInstanceAs (Decidable (_ = true))

theorem isSteady_of_ascii {name : String} (hascii : IsAscii name) : IsSteady name := by
  intro c hc
  exact steady_of_lt (of_decide_eq_true (List.all_eq_true.mp hascii c hc))

theorem isSteady_append {name ending : String} (hname : IsSteady name) (hending : IsSteady ending) :
    IsSteady (name ++ ending) := by
  intro c hc
  rw [String.toList_append, List.mem_append] at hc
  exact hc.elim (hname c) (hending c)

/-- The shouty case of a name of steady characters is its snake case written large. -/
theorem upper_snake {name : String} (hsteady : IsSteady name) :
    (snake name).toList.flatMap upper = (shouty name).toList := by
  have hunderscore : (['_'] : List Char).flatMap upper = ['_'] := by decide +kernel
  rw [snake, shouty, joined, joined, String.toList_ofList, String.toList_ofList,
    flatMap_intercalate, hunderscore, List.map_map]
  apply congrArg
  apply List.map_congr_left
  intro word hword
  exact uppercase_lowercase fun c hc => hsteady c (mem_of_mem_words hword hc).1

/-- Names of steady characters with the same snake case have the same shouty case. -/
theorem shouty_eq_of_snake_eq {first second : String} (hfirst : IsSteady first)
    (hsecond : IsSteady second) (hsnake : snake first = snake second) :
    shouty first = shouty second := by
  apply String.toList_inj.mp
  rw [← upper_snake hfirst, ← upper_snake hsecond, hsnake]

end Naming

end ServiceGen
