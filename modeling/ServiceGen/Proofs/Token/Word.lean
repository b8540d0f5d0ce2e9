import Mathlib.Data.List.TakeWhile
import ServiceGen.Proofs.Token.Lexeme
import ServiceGen.Token.Lexer

/-!
Words that are read. Every identifier among the tokens of a text is a word, so that it is read again
as itself where it is printed.
-/
namespace ServiceGen.Token

open Text Literal Lexeme

variable {cs name : List Char} {length : Nat}

theorem identLength_take (cs : List Char) :
    identLength (cs.take (identLength cs)) = identLength cs := by
  cases cs with
  | nil => rfl
  | cons c cs =>
    rw [identLength]
    split
    · next hstart =>
      have hkept : cs.take (cs.takeWhile Identifier.isContinue).length =
          cs.takeWhile Identifier.isContinue :=
        (List.prefix_iff_eq_take.mp (List.takeWhile_prefix _)).symm
      rw [Nat.add_comm, List.take_succ_cons, hkept, identLength, if_pos hstart,
        List.takeWhile_idem, Nat.add_comm]
    · rfl

theorem identLength_le (cs : List Char) : identLength cs ≤ cs.length := by
  cases cs with
  | nil => exact Nat.le_refl 0
  | cons c cs =>
    have hkept := (List.takeWhile_prefix (l := cs) Identifier.isContinue).length_le
    rw [identLength, List.length_cons]
    split <;> omega

theorem isWord_take (hlength : wordLength cs = some length) : IsWord (cs.take length) := by
  rw [wordLength.eq_def] at hlength
  split at hlength
  · next body =>
    simp only [Option.ite_none_left_eq_some, Option.some.injEq] at hlength
    obtain ⟨hplain, rfl⟩ := hlength
    rw [IsWord, List.take_succ_cons, List.take_succ_cons, wordLength]
    simp only [identLength_take, List.take_take, Nat.min_self, if_neg hplain, List.length_cons,
      List.length_take_of_le (identLength_le body)]
  · next hraw =>
    simp only [Option.ite_none_left_eq_some, beq_iff_eq, Option.some.injEq] at hlength
    obtain ⟨hnonzero, rfl⟩ := hlength
    rw [IsWord, wordLength.eq_def]
    split
    · next body heq =>
      have hfront : 'r' :: '#' :: body <+: cs := heq ▸ List.take_prefix _ _
      obtain ⟨behind, rfl⟩ := hfront
      exact absurd rfl (hraw (body ++ behind))
    · simp only [identLength_take, beq_iff_eq, if_neg hnonzero,
        List.length_take_of_le (identLength_le cs)]

theorem isWord_of_leaf? (hleaf : leaf? cs = some (.word name, length)) : IsWord name := by
  rw [leaf?] at hleaf
  split at hleaf
  · simp at hleaf
  · split at hleaf
    · next hmark =>
      unfold mark? at hmark
      grind
    · rw [word?] at hleaf
      split at hleaf
      · simp at hleaf
      · obtain ⟨n, hn, heq⟩ := Option.map_eq_some_iff.mp hleaf
        simp only [Prod.mk.injEq, Lexeme.word.injEq] at heq
        exact heq.1 ▸ isWord_take hn

/-- A comment is no word. -/
theorem lineComment_ne_word : lineComment cs ≠ some (.word name, length) := by
  unfold lineComment documented
  grind

theorem blockComment_ne_word : blockComment cs ≠ some (.word name, length) := by
  unfold blockComment documented
  grind

/-- A lexeme that is read as a word is one. -/
theorem isWord_of_first? (hfirst : first? cs = some (.word name, length)) : IsWord name := by
  rw [first?.eq_def] at hfirst
  split at hfirst
  · simp at hfirst
  · exact absurd hfirst lineComment_ne_word
  · exact absurd hfirst blockComment_ne_word
  · split at hfirst <;> simp at hfirst
  iterate 5 simp at hfirst
  · split at hfirst
    · simp at hfirst
    · exact isWord_of_leaf? hfirst

namespace Lexer

/-- Whether all identifiers among tokens are words. What stands inside of groups does not count. -/
def Worded (trees : List Located) : Prop :=
  ∀ name position, .ident name position ∈ trees → IsWord name.toList

variable {fuel : Nat} {position : Position} {stack : List OpenGroup}
  {front back trees : List Located}

theorem Worded.nil : Worded [] := by simp [Worded]

theorem Worded.append (hfront : Worded front) (hback : Worded back) : Worded (front ++ back) :=
  fun name position hmem =>
    (List.mem_append.mp hmem).elim (hfront name position) (hback name position)

theorem Worded.reverse (htrees : Worded trees) : Worded trees.reverse :=
  fun name position hmem => htrees name position (List.mem_reverse.mp hmem)

theorem worded_leaf {lexeme : Lexeme} (hfirst : first? cs = some (lexeme, length)) :
    Worded (leaf lexeme position) := by
  intro name place hmem
  cases lexeme with
  | word text =>
    obtain ⟨rfl, -⟩ := Located.ident.inj (List.mem_singleton.mp hmem)
    rw [String.toList_ofList]
    exact isWord_of_first? hfirst
  | documentation text inner => cases inner <;> simp [leaf, documentation] at hmem
  | _ => simp [leaf] at hmem

/-- Whatever is read, in a group or outside of all, has words as its identifiers. -/
theorem worded_run (hread : Worded front) (hstack : ∀ group ∈ stack, Worded group.before)
    (hrun : run fuel cs position stack front = .ok trees) : Worded trees := by
  have hend {fuel : Nat} {position : Position} {stack : List OpenGroup} {front : List Located}
      (hread : Worded front) (hrun : run fuel [] position stack front = .ok trees) :
      Worded trees := by
    cases stack with
    | nil =>
      rw [run] at hrun
      exact Except.ok.inj hrun ▸ hread.reverse
    | cons group stack => simp [run] at hrun
  induction fuel generalizing cs position stack front with
  | zero =>
    cases cs with
    | nil => exact hend hread hrun
    | cons c cs => exact absurd hrun nofun
  | succ fuel ih =>
    cases cs with
    | nil => exact hend hread hrun
    | cons c cs =>
      rw [run] at hrun
      split at hrun
      · exact absurd hrun nofun
      next lexeme length hfirst =>
      split at hrun
      · exact ih hread hstack hrun
      · exact ih .nil (List.forall_mem_cons.mpr ⟨hread, hstack⟩) hrun
      · split at hrun
        · exact absurd hrun nofun
        · obtain ⟨hinner, houter⟩ := List.forall_mem_cons.mp hstack
          split at hrun
          · refine ih (fun name place hmem => ?_) houter hrun
            obtain heq | hmem := List.mem_cons.mp hmem
            · exact absurd heq nofun
            · exact hinner name place hmem
          · exact absurd hrun nofun
      · exact ih ((worded_leaf hfirst).reverse.append hread) hstack hrun

theorem worded_read (hread : read cs = .ok trees) : Worded trees := by
  have hfrom {position : Position} {cs : List Char} (hread : readFrom position cs = .ok trees) :
      Worded trees := worded_run .nil (by simp) hread
  rw [read.eq_def] at hread
  split at hread
  · split at hread <;> exact hfrom hread
  · exact hfrom hread

end Lexer

end ServiceGen.Token
