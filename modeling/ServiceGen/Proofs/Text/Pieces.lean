import Mathlib.Data.List.Basic
import ServiceGen.Text.Blank

/-!
Cutting texts. The pieces of a text hold what is between the cuts, and the pieces in front of a cut
are those of the text in front of it.
-/
namespace ServiceGen.Text

section pieces

variable {α : Type} {cut : α → Bool}

/-- There is always a first piece, which is empty if nothing is in front of the first cut. -/
theorem exists_pieces (cut : α → Bool) (cs : List α) :
    ∃ piece others, pieces cut cs = piece :: others := by
  cases cs with
  | nil => exact ⟨_, _, rfl⟩
  | cons c rest =>
    rw [pieces]
    split
    · exact ⟨_, _, rfl⟩
    · split <;> exact ⟨_, _, rfl⟩

theorem pieces_ne_nil (cs : List α) : pieces cut cs ≠ [] := by
  obtain ⟨piece, others, hpieces⟩ := exists_pieces cut cs
  rw [hpieces]
  exact List.cons_ne_nil _ _

theorem pieces_cons_of_uncut {c : α} (hc : cut c = false) {cs piece : List α}
    {others : List (List α)} (hpieces : pieces cut cs = piece :: others) :
    pieces cut (c :: cs) = (c :: piece) :: others := by
  rw [pieces, hc, hpieces]
  rfl

/-- A cut divides the pieces in front of it from those behind it. -/
theorem pieces_append_cut {c : α} (hc : cut c = true) (front behind : List α) :
    pieces cut (front ++ c :: behind) = pieces cut front ++ pieces cut behind := by
  induction front with
  | nil =>
    rw [List.nil_append, pieces.eq_2, if_pos hc, pieces.eq_1, List.singleton_append]
  | cons d rest ih =>
    by_cases hd : cut d = true
    · rw [List.cons_append, pieces, if_pos hd, ih, pieces, if_pos hd, List.cons_append]
    · obtain ⟨piece, others, hpieces⟩ := exists_pieces cut rest
      have hd : cut d = false := by simpa using hd
      rw [hpieces, List.cons_append] at ih
      rw [List.cons_append, pieces_cons_of_uncut hd ih, pieces_cons_of_uncut hd hpieces,
        List.cons_append]

theorem pieces_of_uncut {cs : List α} (huncut : ∀ c ∈ cs, cut c = false) :
    pieces cut cs = [cs] := by
  induction cs with
  | nil => rfl
  | cons c rest ih =>
    have hrest := ih fun next hnext => huncut next (List.mem_cons_of_mem _ hnext)
    exact pieces_cons_of_uncut (huncut c List.mem_cons_self) hrest

theorem pieces_of_notMem [BEq α] [LawfulBEq α] {cs : List α} {c : α} (hnot : c ∉ cs) :
    pieces (· == c) cs = [cs] :=
  pieces_of_uncut fun d hd => beq_false_of_ne fun heq : d = c => hnot (heq ▸ hd)

/-- A piece consists of characters of the whole at which nothing is cut. -/
theorem mem_of_mem_pieces {cs piece : List α} (hpiece : piece ∈ pieces cut cs) {c : α}
    (hc : c ∈ piece) : c ∈ cs ∧ cut c = false := by
  induction cs generalizing piece with
  | nil =>
    rw [pieces, List.mem_singleton] at hpiece
    exact absurd (hpiece ▸ hc) List.not_mem_nil
  | cons d rest ih =>
    by_cases hd : cut d = true
    · rw [pieces, if_pos hd, List.mem_cons] at hpiece
      rcases hpiece with rfl | hpiece
      · exact absurd hc List.not_mem_nil
      · exact (ih hpiece hc).imp_left (List.mem_cons_of_mem _)
    · obtain ⟨first, others, hpieces⟩ := exists_pieces cut rest
      have hd : cut d = false := by simpa using hd
      rw [pieces_cons_of_uncut hd hpieces, List.mem_cons] at hpiece
      rcases hpiece with rfl | hpiece
      · rcases List.mem_cons.mp hc with rfl | hc
        · exact ⟨List.mem_cons_self, hd⟩
        · exact (ih (hpieces ▸ List.mem_cons_self) hc).imp_left (List.mem_cons_of_mem _)
      · have hmem := ih (hpieces ▸ List.mem_cons_of_mem _ hpiece) hc
        exact hmem.imp_left (List.mem_cons_of_mem _)

/-- What does not end at a cut does not end with an empty piece. -/
theorem getLast?_pieces_ne {cs : List α} {last : α} (hlast : cs.getLast? = some last)
    (huncut : cut last = false) : (pieces cut cs).getLast? ≠ some [] := by
  obtain ⟨front, rfl⟩ := List.getLast?_eq_some_iff.mp hlast
  clear hlast
  induction front with
  | nil =>
    have hsingle : pieces cut [last] = [[last]] := pieces_of_uncut (by simpa using huncut)
    rw [List.nil_append, hsingle]
    simp
  | cons d rest ih =>
    obtain ⟨first, others, hpieces⟩ := exists_pieces cut (rest ++ [last])
    rw [List.cons_append]
    by_cases hd : cut d = true
    · rw [pieces, if_pos hd, hpieces, List.getLast?_cons_cons, ← hpieces]
      exact ih
    · rw [pieces_cons_of_uncut (by simpa using hd) hpieces]
      rw [hpieces] at ih
      cases others with
      | nil => simp
      | cons second more => rwa [List.getLast?_cons_cons] at ih ⊢

/-- Parts without a cut are the pieces of what they make up with a cut between them. -/
theorem pieces_intercalate {c : α} (hc : cut c = true) {parts : List (List α)} (hne : parts ≠ [])
    (huncut : ∀ part ∈ parts, ∀ d ∈ part, cut d = false) :
    pieces cut (List.intercalate [c] parts) = parts := by
  induction parts with
  | nil => exact absurd rfl hne
  | cons part rest ih =>
    have hpart : pieces cut part = [part] := pieces_of_uncut (huncut part List.mem_cons_self)
    cases rest with
    | nil => rw [List.intercalate_singleton, hpart]
    | cons next others =>
      have hrest := ih (List.cons_ne_nil _ _) fun other hother =>
        huncut other (List.mem_cons_of_mem _ hother)
      rw [List.intercalate_cons_cons, List.append_assoc, List.singleton_append,
        pieces_append_cut hc, hpart, hrest, List.singleton_append]

theorem intercalate_pieces [BEq α] [LawfulBEq α] (c : α) (cs : List α) :
    List.intercalate [c] (pieces (· == c) cs) = cs := by
  induction cs with
  | nil => rfl
  | cons d rest ih =>
    obtain ⟨piece, others, hpieces⟩ := exists_pieces (· == c) rest
    rw [hpieces] at ih
    by_cases hd : d = c
    · rw [pieces, if_pos (beq_iff_eq.mpr hd), hpieces, List.intercalate_cons_cons, ih, hd]
      rfl
    · rw [pieces_cons_of_uncut (by simpa using hd) hpieces, ← ih]
      cases others with
      | nil => simp
      | cons next more => simp only [List.intercalate_cons_cons, List.cons_append]

/-- A text as parts with a character between them that stands in none of them. -/
structure JoinedBy (c : α) (text : List α) (parts : List (List α)) : Prop where
  ne_nil : parts ≠ []
  notMem : ∀ part ∈ parts, c ∉ part
  intercalate : List.intercalate [c] parts = text

/-- A text is joined in one way only, of its pieces. -/
theorem pieces_eq_iff [BEq α] [LawfulBEq α] {c : α} {text : List α} {parts : List (List α)} :
    pieces (· == c) text = parts ↔ JoinedBy c text parts := by
  constructor
  · rintro rfl
    refine ⟨pieces_ne_nil text, fun part hpart hmem => ?_, intercalate_pieces c text⟩
    simpa using (mem_of_mem_pieces hpart hmem).2
  · rintro ⟨hne, hnot, rfl⟩
    refine pieces_intercalate ?_ hne ?_
    · exact beq_self_eq_true c
    · intro part hpart d hd
      exact beq_false_of_ne fun heq : d = c => hnot part hpart (heq ▸ hd)

end pieces

section cutAt

variable {cut : Char → Bool} {cs front behind : List Char}

/-- What a cut leaves on its sides: nothing to cut at in front of it. -/
theorem eq_of_cutAt (hcut : cutAt cut cs = some (front, behind)) :
    ∃ c, cut c = true ∧ cs = front ++ c :: behind ∧ ∀ d ∈ front, cut d = false := by
  induction cs generalizing front with
  | nil => exact absurd hcut (by simp [cutAt])
  | cons d rest ih =>
    rw [cutAt] at hcut
    split at hcut
    · next hd =>
      obtain ⟨rfl, rfl⟩ := Prod.mk.inj (Option.some.inj hcut)
      exact ⟨d, hd, rfl, fun _ hmem => absurd hmem List.not_mem_nil⟩
    · next hd =>
      obtain ⟨⟨before, after⟩, hrest, heq⟩ := Option.map_eq_some_iff.mp hcut
      obtain ⟨rfl, rfl⟩ := Prod.mk.inj heq
      obtain ⟨c, hc, rfl, hfront⟩ := ih hrest
      refine ⟨c, hc, rfl, ?_⟩
      intro e he
      rcases List.mem_cons.mp he with rfl | he
      · simpa using hd
      · exact hfront e he

theorem cutAt_append {c : Char} (hfront : ∀ d ∈ front, cut d = false) (hc : cut c = true) :
    cutAt cut (front ++ c :: behind) = some (front, behind) := by
  induction front with
  | nil => rw [List.nil_append, cutAt, if_pos hc]
  | cons d rest ih =>
    rw [List.cons_append, cutAt, if_neg (by simp [hfront d List.mem_cons_self]),
      ih fun e he => hfront e (List.mem_cons_of_mem _ he)]
    rfl

theorem cutAt_of_uncut (hfront : ∀ d ∈ front, cut d = false) : cutAt cut front = none := by
  induction front with
  | nil => rfl
  | cons d rest ih =>
    rw [cutAt, if_neg (by simp [hfront d List.mem_cons_self]),
      ih fun e he => hfront e (List.mem_cons_of_mem _ he)]
    rfl

end cutAt

end ServiceGen.Text
