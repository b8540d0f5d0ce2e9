import Mathlib.Data.List.TakeWhile
import ServiceGen.Proofs.Text.Pieces
import ServiceGen.Text.Lines

/-!
Words of a text. A text is made of words and blanks in one way only, and cutting it at its blanks
finds that way. Blanks at the ends do not matter, so a trimmed text has the words of the text
itself, and it begins with the first of them.
-/
namespace ServiceGen.Text

/-- A text that is not empty and holds no blank. -/
structure IsWord (word : List Char) : Prop where
  ne_nil : word ≠ []
  unblank : ∀ c ∈ word, isBlank c = false

instance (word : List Char) : Decidable (IsWord word) :=
  decidable_of_iff (word ≠ [] ∧ word.all (fun c => !isBlank c) = true)
    ⟨fun ⟨hne, hall⟩ => ⟨hne, by simpa using hall⟩,
      fun ⟨hne, hunblank⟩ => ⟨hne, by simpa using hunblank⟩⟩

/-- A text as its words. In front of a word there are blanks or nothing, and it ends at a blank or
with the text. -/
inductive Spaced : List Char → List (List Char) → Prop
  | blank {gap : List Char} (hgap : ∀ c ∈ gap, isBlank c = true) : Spaced gap []
  | word {gap word rest : List Char} {words : List (List Char)}
    (hgap : ∀ c ∈ gap, isBlank c = true) (hword : IsWord word)
    (hends : ∀ c ∈ rest.head?, isBlank c = true) (hrest : Spaced rest words) :
    Spaced (gap ++ word ++ rest) (word :: words)

/-- No word goes over a blank. -/
theorem words_append_blank {b : Char} (hb : isBlank b = true) (front behind : List Char) :
    words (front ++ b :: behind) = words front ++ words behind := by
  rw [words, pieces_append_cut hb, List.filter_append]
  rfl

theorem words_blanks_append {gap : List Char} (hgap : ∀ c ∈ gap, isBlank c = true)
    (cs : List Char) : words (gap ++ cs) = words cs := by
  induction gap with
  | nil => rfl
  | cons c rest ih =>
    have hc : words (c :: (rest ++ cs)) = words [] ++ words (rest ++ cs) :=
      words_append_blank (hgap c List.mem_cons_self) [] _
    rw [List.cons_append, hc, ih fun d hd => hgap d (List.mem_cons_of_mem _ hd)]
    rfl

theorem words_of_blanks {gap : List Char} (hgap : ∀ c ∈ gap, isBlank c = true) :
    words gap = [] := by
  have hwords : words (gap ++ []) = [] := words_blanks_append hgap []
  rwa [List.append_nil] at hwords

/-- Two texts side by side have the words of both if the second begins with a blank. -/
theorem words_append {rest : List Char} (hends : ∀ c ∈ rest.head?, isBlank c = true)
    (front : List Char) : words (front ++ rest) = words front ++ words rest := by
  cases rest with
  | nil => simp [words_of_blanks]
  | cons b behind =>
    have hb : isBlank b = true := hends b rfl
    have hbehind : words (b :: behind) = words [] ++ words behind :=
      words_append_blank hb [] behind
    rw [words_append_blank hb, hbehind]
    rfl

/-- They also do if the first ends with a blank. -/
theorem words_append_of_getLast? {front : List Char}
    (hends : ∀ c ∈ front.getLast?, isBlank c = true) (rest : List Char) :
    words (front ++ rest) = words front ++ words rest := by
  rcases List.eq_nil_or_concat' front with rfl | ⟨front, b, rfl⟩
  · rfl
  · have hb : isBlank b = true := hends b (by simp)
    have hfront : words (front ++ [b]) = words front ++ words [] := words_append_blank hb front []
    rw [List.append_assoc, List.singleton_append, words_append_blank hb, hfront, List.append_assoc]
    rfl

theorem words_of_isWord {word : List Char} (hword : IsWord word) : words word = [word] := by
  rw [words, pieces_of_uncut hword.unblank]
  simp [hword.ne_nil]

theorem words_of_spaced {text : List Char} {parts : List (List Char)} (h : Spaced text parts) :
    words text = parts := by
  induction h with
  | blank hgap => exact words_of_blanks hgap
  | word hgap hword hends hrest ih =>
    rw [words_append hends, words_blanks_append hgap, words_of_isWord hword, ih,
      List.singleton_append]

theorem isWord_singleton {c : Char} (hc : isBlank c = false) : IsWord [c] :=
  ⟨List.cons_ne_nil _ _, by simpa using hc⟩

theorem IsWord.cons {c : Char} {word : List Char} (hword : IsWord word) (hc : isBlank c = false) :
    IsWord (c :: word) :=
  ⟨List.cons_ne_nil _ _, List.forall_mem_cons.mpr ⟨hc, hword.unblank⟩⟩

namespace Spaced

theorem nil : Spaced [] [] := .blank fun _ hc => absurd hc List.not_mem_nil

theorem cons_blank {b : Char} (hb : isBlank b = true) {text : List Char} {parts : List (List Char)}
    (h : Spaced text parts) : Spaced (b :: text) parts := by
  cases h with
  | blank hgap => exact .blank (List.forall_mem_cons.mpr ⟨hb, hgap⟩)
  | word hgap hword hends hrest =>
    exact .word (List.forall_mem_cons.mpr ⟨hb, hgap⟩) hword hends hrest

/-- A word at the very beginning of a text. -/
theorem cons_word {word rest : List Char} (hword : IsWord word)
    (hends : ∀ c ∈ rest.head?, isBlank c = true) {parts : List (List Char)}
    (hrest : Spaced rest parts) : Spaced (word ++ rest) (word :: parts) := by
  have hgap : ∀ c ∈ ([] : List Char), isBlank c = true := fun _ hc => absurd hc List.not_mem_nil
  exact .word hgap hword hends hrest

end Spaced

/-- Every text is made of words and blanks. -/
theorem exists_spaced (text : List Char) : ∃ parts, Spaced text parts := by
  induction text with
  | nil => exact ⟨[], .nil⟩
  | cons c rest ih =>
    obtain ⟨parts, hrest⟩ := ih
    by_cases hc : isBlank c = true
    · exact ⟨parts, hrest.cons_blank hc⟩
    have hc : isBlank c = false := by simpa using hc
    by_cases hends : ∀ d ∈ rest.head?, isBlank d = true
    · exact ⟨[c] :: parts, .cons_word (isWord_singleton hc) hends hrest⟩
    -- The word that the rest begins with becomes longer.
    cases hrest with
    | blank hgap => exact absurd (fun d hd => hgap d (List.mem_of_mem_head? hd)) hends
    | @word gap word behind parts hgap hword hbehind hrest =>
      cases gap with
      | nil => exact ⟨(c :: word) :: parts, .cons_word (hword.cons hc) hbehind hrest⟩
      | cons b more =>
        refine absurd (fun d hd => ?_) hends
        obtain rfl : b = d := by simpa using hd
        exact hgap b List.mem_cons_self

theorem words_eq_iff {text : List Char} {parts : List (List Char)} :
    words text = parts ↔ Spaced text parts := by
  constructor
  · rintro rfl
    obtain ⟨parts, h⟩ := exists_spaced text
    rwa [words_of_spaced h]
  · exact words_of_spaced

theorem words_eq_nil_iff {text : List Char} :
    words text = [] ↔ ∀ c ∈ text, isBlank c = true := by
  refine ⟨fun hnone => ?_, words_of_blanks⟩
  cases words_eq_iff.mp hnone with
  | blank hgap => exact hgap

theorem isWord_of_mem_words {text word : List Char} (hmem : word ∈ words text) : IsWord word := by
  obtain ⟨hpiece, hne⟩ := List.mem_filter.mp hmem
  exact ⟨by simpa using hne, fun c hc => (mem_of_mem_pieces hpiece hc).2⟩

/-- Words with single blanks between them are the words of what they make up. -/
theorem words_intercalate {b : Char} (hb : isBlank b = true) {parts : List (List Char)}
    (hwords : ∀ part ∈ parts, IsWord part) : words (List.intercalate [b] parts) = parts := by
  by_cases hne : parts = []
  · rw [hne]
    rfl
  · rw [words, pieces_intercalate hb hne fun part hpart => (hwords part hpart).unblank,
      List.filter_eq_self]
    intro part hpart
    simpa using (hwords part hpart).ne_nil

/-- A text that begins with no blank begins with its first word. -/
theorem exists_eq_append {text first : List Char} {later : List (List Char)}
    (hhead : ∀ c ∈ text.head?, isBlank c = false) (hwords : words text = first :: later) :
    ∃ rest, text = first ++ rest ∧ ∀ c ∈ rest.head?, isBlank c = true := by
  cases words_eq_iff.mp hwords with
  | @word gap _ rest _ hgap hword hends hrest =>
    cases gap with
    | nil => exact ⟨rest, rfl, hends⟩
    | cons b more =>
      have hb : isBlank b = false := hhead b rfl
      exact absurd (hgap b List.mem_cons_self) (by simp [hb])

section trim

theorem head?_trimStart (cs : List Char) : ∀ c ∈ (trimStart cs).head?, isBlank c = false := by
  intro c hc
  have hnot := List.head?_dropWhile_not isBlank cs
  rw [show (cs.dropWhile isBlank).head? = some c from hc] at hnot
  simpa using hnot

theorem exists_trimStart (cs : List Char) :
    ∃ front, (∀ c ∈ front, isBlank c = true) ∧ cs = front ++ trimStart cs :=
  ⟨cs.takeWhile isBlank, fun _ hc => List.mem_takeWhile_imp hc,
    List.takeWhile_append_dropWhile.symm⟩

theorem exists_trimEnd (cs : List Char) :
    ∃ behind, (∀ c ∈ behind, isBlank c = true) ∧ cs = trimEnd cs ++ behind := by
  refine ⟨(cs.reverse.takeWhile isBlank).reverse, fun c hc => ?_, ?_⟩
  · exact List.mem_takeWhile_imp (List.mem_reverse.mp hc)
  · rw [trimEnd, ← List.reverse_append, List.takeWhile_append_dropWhile, List.reverse_reverse]

theorem words_trimStart (cs : List Char) : words (trimStart cs) = words cs := by
  obtain ⟨front, hfront, hcs⟩ := exists_trimStart cs
  conv_rhs => rw [hcs]
  exact (words_blanks_append hfront _).symm

theorem words_trim (cs : List Char) : words (trim cs) = words cs := by
  obtain ⟨behind, hbehind, hcs⟩ := exists_trimEnd (trimStart cs)
  have hends : ∀ c ∈ behind.head?, isBlank c = true :=
    fun c hc => hbehind c (List.mem_of_mem_head? hc)
  rw [← words_trimStart cs, hcs, words_append hends, words_of_blanks hbehind, List.append_nil]
  rfl

theorem head?_trim (cs : List Char) : ∀ c ∈ (trim cs).head?, isBlank c = false := by
  obtain ⟨behind, -, hcs⟩ := exists_trimEnd (trimStart cs)
  intro c hc
  apply head?_trimStart cs c
  rw [hcs]
  exact List.mem_head?_append_of_mem_head? hc

end trim

end ServiceGen.Text

/-!
Lines of a text that is put together of lines. What is found in single lines, whatever blanks stand
at their ends, is found in the text that they make up: the ends of that text are ends of lines, so
that trimming it takes blank lines and blanks at the ends of lines, and nothing else.
-/
namespace ServiceGen.Text

section lines

theorem mem_of_mem_dropReturn {line : List Char} {c : Char} (hc : c ∈ dropReturn line) :
    c ∈ line := by
  rw [dropReturn] at hc
  split at hc
  · exact List.dropLast_subset line hc
  · exact hc

theorem exists_of_mem_linesOfPieces {parts : List (List Char)} {line : List Char}
    (hline : line ∈ linesOfPieces parts) : ∃ part ∈ parts, ∀ c ∈ line, c ∈ part := by
  fun_induction linesOfPieces parts with
  | case1 => exact absurd hline List.not_mem_nil
  | case2 last hempty => exact absurd hline List.not_mem_nil
  | case3 last hempty =>
    obtain rfl := List.mem_singleton.mp hline
    exact ⟨line, List.mem_cons_self, fun _ hc => hc⟩
  | case4 part next rest ih =>
    rcases List.mem_cons.mp hline with rfl | hline
    · exact ⟨part, List.mem_cons_self, fun _ hc => mem_of_mem_dropReturn hc⟩
    · obtain ⟨other, hother, hmem⟩ := ih hline
      exact ⟨other, List.mem_cons_of_mem _ hother, hmem⟩

/-- No line holds a line feed. -/
theorem notMem_of_mem_lines {cs line : List Char} (hline : line ∈ lines cs) : '\n' ∉ line := by
  obtain ⟨part, hpart, hmem⟩ := exists_of_mem_linesOfPieces hline
  intro hbreak
  simpa using (mem_of_mem_pieces hpart (hmem _ hbreak)).2

end lines

section trim

variable {b : Char} (hb : isBlank b = true)

include hb

theorem trim_cons_blank (cs : List Char) : trim (b :: cs) = trim cs := by
  rw [trim, trim, trimStart, trimStart, List.dropWhile_cons_of_pos hb]

theorem trimEnd_append_blank (cs : List Char) : trimEnd (cs ++ [b]) = trimEnd cs := by
  rw [trimEnd, trimEnd, List.reverse_append, List.reverse_singleton, List.singleton_append,
    List.dropWhile_cons_of_pos hb]

theorem trim_append_blank (cs : List Char) : trim (cs ++ [b]) = trim cs := by
  rw [trim, trim, trimStart, trimStart, List.dropWhile_append]
  split
  · next hnone =>
    rw [List.isEmpty_iff.mp hnone, List.dropWhile_cons_of_pos hb, List.dropWhile_nil]
  · exact trimEnd_append_blank hb _

end trim

/-- What a blank at either end does not change, trimming does not change. -/
theorem apply_trim {γ : Type} (f : List Char → γ)
    (hfront : ∀ b, isBlank b = true → ∀ cs, f (b :: cs) = f cs)
    (hbehind : ∀ b, isBlank b = true → ∀ cs, f (cs ++ [b]) = f cs) (cs : List Char) :
    f (trim cs) = f cs := by
  have hfronts {gap : List Char} (hgap : ∀ b ∈ gap, isBlank b = true) (cs : List Char) :
      f (gap ++ cs) = f cs := by
    induction gap with
    | nil => rfl
    | cons b rest ih =>
      obtain ⟨hb, hrest⟩ := List.forall_mem_cons.mp hgap
      rw [List.cons_append, hfront b hb, ih hrest]
  have hbehinds {gap : List Char} (hgap : ∀ b ∈ gap, isBlank b = true) (cs : List Char) :
      f (cs ++ gap) = f cs := by
    induction gap generalizing cs with
    | nil => rw [List.append_nil]
    | cons b rest ih =>
      obtain ⟨hb, hrest⟩ := List.forall_mem_cons.mp hgap
      rw [List.append_cons, ih hrest, hbehind b hb]
  obtain ⟨front, hblank, hstart⟩ := exists_trimStart cs
  obtain ⟨behind, hblank', hend⟩ := exists_trimEnd (trimStart cs)
  calc f (trim cs)
    _ = f (trimEnd (trimStart cs) ++ behind) := (hbehinds hblank' _).symm
    _ = f (front ++ trimStart cs) := by rw [← hend, hfronts hblank]
    _ = f cs := by rw [← hstart]

theorem trim_trim (cs : List Char) : trim (trim cs) = trim cs :=
  apply_trim trim (fun _ hb => trim_cons_blank hb) (fun _ hb => trim_append_blank hb) cs

/-- What is put behind a text goes to the end of its last piece. -/
theorem exists_pieces_concat {α : Type} (cut : α → Bool) {c : α} (hc : cut c = false)
    (cs : List α) :
    ∃ front last, pieces cut cs = front ++ [last] ∧
      pieces cut (cs ++ [c]) = front ++ [last ++ [c]] := by
  induction cs with
  | nil => exact ⟨[], [], rfl, pieces_cons_of_uncut hc rfl⟩
  | cons d rest ih =>
    obtain ⟨front, last, hrest, hconcat⟩ := ih
    by_cases hd : cut d = true
    · refine ⟨[] :: front, last, ?_, ?_⟩
      · rw [pieces, if_pos hd, hrest, List.cons_append]
      · rw [List.cons_append, pieces, if_pos hd, hconcat, List.cons_append]
    have hd : cut d = false := by simpa using hd
    -- The character in front belongs to the first piece, which may be the last one.
    cases front with
    | nil => exact ⟨[], d :: last, pieces_cons_of_uncut hd hrest, pieces_cons_of_uncut hd hconcat⟩
    | cons first others =>
      exact ⟨(d :: first) :: others, last, pieces_cons_of_uncut hd hrest,
        pieces_cons_of_uncut hd hconcat⟩

/-- That what is found in a line is found between the blanks at its ends, so that an empty line has
nothing in it. -/
structure IgnoresBlanks {β : Type} (find : List Char → Option β) : Prop where
  nil : find [] = none
  trim : ∀ line, find (Text.trim line) = find line

namespace IgnoresBlanks

variable {β : Type} {find : List Char → Option β} (hfind : IgnoresBlanks find)

include hfind

section line

variable {b : Char} (hb : isBlank b = true) (line : List Char)

include hb

theorem cons_blank : find (b :: line) = find line := by
  rw [← hfind.trim, trim_cons_blank hb, hfind.trim]

theorem append_blank : find (line ++ [b]) = find line := by
  rw [← hfind.trim, trim_append_blank hb, hfind.trim]

end line

theorem dropReturn (line : List Char) : find (Text.dropReturn line) = find line := by
  rw [Text.dropReturn]
  split
  · next hlast =>
    obtain ⟨front, rfl⟩ := List.getLast?_eq_some_iff.mp (beq_iff_eq.mp hlast)
    rw [List.dropLast_concat, hfind.append_blank (by decide)]
  · rfl

/-- The pieces that are no lines have nothing in them. -/
theorem lines (cs : List Char) :
    (Text.lines cs).filterMap find = (pieces (· == '\n') cs).filterMap find := by
  rw [Text.lines]
  fun_induction linesOfPieces (pieces (· == '\n') cs) with
  | case1 => rfl
  | case2 last hempty =>
    rw [List.isEmpty_iff.mp hempty, List.filterMap_cons_none hfind.nil]
  | case3 last hempty => rfl
  | case4 piece next rest ih =>
    rw [List.filterMap_cons, List.filterMap_cons, hfind.dropReturn, ih]

theorem pieces_cons_blank {b : Char} (hb : isBlank b = true) (cs : List Char) :
    (pieces (· == '\n') (b :: cs)).filterMap find = (pieces (· == '\n') cs).filterMap find := by
  by_cases hbreak : b = '\n'
  · rw [pieces, if_pos (beq_iff_eq.mpr hbreak), List.filterMap_cons_none hfind.nil]
  · obtain ⟨piece, others, hpieces⟩ := exists_pieces (· == '\n') cs
    have hcons : pieces (· == '\n') (b :: cs) = (b :: piece) :: others :=
      pieces_cons_of_uncut (by simpa using hbreak) hpieces
    rw [hcons, hpieces, List.filterMap_cons, List.filterMap_cons, hfind.cons_blank hb]

theorem pieces_append_blank {b : Char} (hb : isBlank b = true) (cs : List Char) :
    (pieces (· == '\n') (cs ++ [b])).filterMap find =
      (pieces (· == '\n') cs).filterMap find := by
  by_cases hbreak : b = '\n'
  · have hsplit : pieces (· == '\n') (cs ++ [b]) = pieces (· == '\n') cs ++ [[]] :=
      pieces_append_cut (by simpa using hbreak) cs []
    rw [hsplit, List.filterMap_append, List.filterMap_cons_none hfind.nil, List.filterMap_nil,
      List.append_nil]
  · obtain ⟨front, last, hpieces, hconcat⟩ :=
      exists_pieces_concat (· == '\n') (beq_false_of_ne hbreak) cs
    rw [hpieces, hconcat, List.filterMap_append, List.filterMap_append, List.filterMap_cons,
      List.filterMap_cons, hfind.append_blank hb]

/-- Trimming a text takes nothing away that is found in its lines. -/
theorem lines_trim (cs : List Char) :
    (Text.lines (Text.trim cs)).filterMap find = (Text.lines cs).filterMap find := by
  rw [hfind.lines, hfind.lines]
  exact apply_trim (fun cs => (pieces (· == '\n') cs).filterMap find)
    (fun _ hb => hfind.pieces_cons_blank hb) (fun _ hb => hfind.pieces_append_blank hb) cs

/-- A text that is put together of lines has in its lines what they have. -/
theorem lines_intercalate {parts : List (List Char)} (hparts : ∀ part ∈ parts, '\n' ∉ part) :
    (Text.lines (List.intercalate ['\n'] parts)).filterMap find = parts.filterMap find := by
  by_cases hne : parts = []
  · rw [hne]
    rfl
  · have hjoined : JoinedBy '\n' (List.intercalate ['\n'] parts) parts := ⟨hne, hparts, rfl⟩
    rw [hfind.lines, pieces_eq_iff.mpr hjoined]

end IgnoresBlanks

end ServiceGen.Text
