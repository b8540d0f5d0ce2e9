import ServiceGen.Token.Lexeme

/-!
Lexemes behind which the text goes on as it does behind a printed token. A word, an operator
character or the mark of a lifetime is then read as what it is by itself.
-/
namespace ServiceGen.Token

open Text Literal Lexeme

/-- That a text goes on as it may behind a printed token: not at all, with a blank, with the end of
a group or with that of the line. -/
def Apart (rest : List Char) : Prop :=
  ∀ c, rest.head? = some c → c = ' ' ∨ c = ')' ∨ c = ']' ∨ c = '\n'

/-- The characters of an identifier. -/
def IsIdentifier (name : List Char) : Prop :=
  ∃ first others, name = first :: others ∧ Identifier.isStart first = true ∧
    ∀ c ∈ others, Identifier.isContinue c = true

/-- The characters of a word: an identifier, or a raw one. -/
def IsWord (name : List Char) : Prop := wordLength name = some name.length

variable {name rest : List Char} {c : Char}

theorem apart_nil : Apart [] := by simp [Apart]

theorem apart_cons : Apart (c :: rest) ↔ c = ' ' ∨ c = ')' ∨ c = ']' ∨ c = '\n' := by simp [Apart]

theorem Apart.not_continue (hapart : Apart rest) (hc : rest.head? = some c) :
    Identifier.isContinue c = false := by
  obtain rfl | rfl | rfl | rfl := hapart c hc <;> decide

theorem Apart.takeWhile_append {cs : List Char} (hapart : Apart rest)
    (hcs : ∀ c ∈ cs, Identifier.isContinue c = true) :
    (cs ++ rest).takeWhile Identifier.isContinue = cs := by
  rw [List.takeWhile_append_of_pos hcs]
  cases rest with
  | nil => simp
  | cons c others => simp [hapart.not_continue rfl]

/-! Words -/

theorem isIdentifier_of_identLength (hnonempty : name ≠ [])
    (hlength : identLength name = name.length) :
    IsIdentifier name := by
  cases name with
  | nil => exact absurd rfl hnonempty
  | cons first others =>
    rw [identLength] at hlength
    split at hlength
    · next hfirst =>
      have hsame : (others.takeWhile Identifier.isContinue).length = others.length := by
        rw [List.length_cons] at hlength
        omega
      refine ⟨first, others, rfl, hfirst, fun c hc => ?_⟩
      have hall := List.all_takeWhile (p := Identifier.isContinue) (l := others)
      rw [List.Sublist.eq_of_length (List.takeWhile_sublist _) hsame] at hall
      exact List.all_eq_true.mp hall c hc
    · exact absurd hlength (by simp)

theorem IsIdentifier.identLength_append (hname : IsIdentifier name) (hapart : Apart rest) :
    identLength (name ++ rest) = name.length := by
  obtain ⟨first, others, rfl, hfirst, hothers⟩ := hname
  rw [List.cons_append, identLength, if_pos hfirst, hapart.takeWhile_append hothers,
    List.length_cons, Nat.add_comm]

theorem identLength_of_apart (hapart : Apart rest) : identLength rest = 0 := by
  cases rest with
  | nil => rfl
  | cons c others => obtain rfl | rfl | rfl | rfl := apart_cons.mp hapart <;> rfl

/-- A word is an identifier, or a raw one. -/
theorem IsWord.cases (hword : IsWord name) :
    IsIdentifier name ∨
      ∃ body, name = 'r' :: '#' :: body ∧ IsIdentifier body ∧ isNeverRaw body = false := by
  rw [IsWord, wordLength.eq_def] at hword
  split at hword
  · next body =>
    simp only [Option.ite_none_left_eq_some, Bool.not_eq_true, Bool.or_eq_false_iff,
      beq_eq_false_iff_ne, ne_eq, Option.some.injEq, List.length_cons] at hword
    obtain ⟨⟨hlength, hraw⟩, hsame⟩ := hword
    have hsame : identLength body = body.length := by omega
    have hbody : body ≠ [] := by
      rintro rfl
      exact hlength rfl
    rw [hsame, List.take_length] at hraw
    exact .inr ⟨body, rfl, isIdentifier_of_identLength hbody hsame, hraw⟩
  · simp only [Option.ite_none_left_eq_some, beq_iff_eq, Option.some.injEq] at hword
    refine .inl (isIdentifier_of_identLength ?_ hword.2)
    rintro rfl
    exact hword.1 rfl

theorem wordLength_identifier (hname : IsIdentifier name) (hapart : Apart rest) :
    wordLength (name ++ rest) = some name.length := by
  have hlength := hname.identLength_append hapart
  obtain ⟨first, others, rfl, hfirst, hothers⟩ := hname
  rw [wordLength.eq_def]
  split
  · next body heq =>
    -- the hash sign is neither in the name nor behind it
    cases others with
    | nil =>
      obtain ⟨rfl, rfl⟩ := List.cons.inj heq
      exact absurd hapart (by simp [apart_cons])
    | cons second others =>
      obtain ⟨-, heq⟩ := List.cons.inj heq
      obtain ⟨rfl, -⟩ := List.cons.inj heq
      exact absurd (hothers '#' (by simp)) (by decide)
  · rw [hlength]
    rfl

theorem wordLength_append (hword : IsWord name) (hapart : Apart rest) :
    wordLength (name ++ rest) = some name.length := by
  obtain hname | ⟨body, rfl, hbody, hraw⟩ := hword.cases
  · exact wordLength_identifier hname hapart
  · have hlength := hbody.identLength_append hapart
    obtain ⟨first, others, rfl, -, -⟩ := hbody
    simp only [List.cons_append, wordLength] at hlength ⊢
    rw [hlength, ← List.cons_append, List.take_left]
    simp [hraw]

theorem prefix_of_apart {opening : List Char} (hapart : Apart rest)
    (hopening : ∀ c ∈ opening, ¬ (c = ' ' ∨ c = ')' ∨ c = ']' ∨ c = '\n'))
    (hfront : opening <+: name ++ rest) : opening <+: name := by
  obtain hinside | ⟨behind, rfl⟩ :=
    List.prefix_or_prefix_of_prefix hfront (List.prefix_append name rest)
  · exact hinside
  · cases behind with
    | nil => simp
    | cons c others =>
      obtain ⟨more, rfl⟩ := (List.prefix_append_right_inj name).mp hfront
      exact absurd (hapart c rfl) (hopening c (by simp))

/-- What begins a quoted literal holds a mark that no name has. -/
theorem beginsLikeQuoted_append (hword : IsWord name) (hapart : Apart rest) :
    beginsLikeQuoted (name ++ rest) = false := by
  simp only [beginsLikeQuoted, List.any_eq_false, List.isPrefixOf_iff_prefix]
  intro opening hopening hfront
  have hall : (quotedOpenings.all fun text => text.toList.all fun c =>
      !(c == ' ' || c == ')' || c == ']' || c == '\n')) = true := by decide
  have hinside : ∀ c ∈ opening.toList, ¬ (c = ' ' ∨ c = ')' ∨ c = ']' ∨ c = '\n') := fun c hc => by
    simpa [and_assoc] using List.all_eq_true.mp (List.all_eq_true.mp hall opening hopening) c hc
  have hfront := prefix_of_apart hapart hinside hfront
  obtain ⟨first, others, rfl, -, hothers⟩ | ⟨body, rfl, ⟨first, others, rfl, hfirst, -⟩, -⟩ :=
    hword.cases
  · have hmark : (quotedOpenings.all fun text =>
        text.toList.tail.any fun c => !Identifier.isContinue c) = true := by decide
    obtain ⟨c, hc, hnot⟩ := List.any_eq_true.mp (List.all_eq_true.mp hmark opening hopening)
    rw [Bool.not_eq_true'] at hnot
    obtain ⟨behind, hbehind⟩ := hfront
    have htail := congrArg List.tail hbehind
    rw [List.tail_append_of_ne_nil (List.ne_nil_of_mem (List.mem_of_mem_tail hc)),
      List.tail_cons] at htail
    exact absurd (hothers c (htail ▸ List.mem_append_left behind hc)) (by simp [hnot])
  · have hmark : ∀ text ∈ quotedOpenings, text.toList = ['r', '"'] ∨
        text.toList = ['r', '#', '"'] ∨ text.toList = ['r', '#', '#'] ∨
        text.toList.head? ≠ some 'r' := by decide
    obtain heq | heq | heq | hhead := hmark opening hopening
    · simp [heq] at hfront
    · obtain rfl : '"' = first := by simpa [heq] using hfront
      exact absurd hfirst (by decide)
    · obtain rfl : '#' = first := by simpa [heq] using hfront
      exact absurd hfirst (by decide)
    · have hnonempty : ∀ text ∈ quotedOpenings, text.toList ≠ [] := by decide
      obtain ⟨c, cs, heq⟩ := List.exists_cons_of_ne_nil (hnonempty opening hopening)
      rw [heq] at hfront hhead
      exact hhead (congrArg some (List.cons_prefix_cons.mp hfront).1)

/-! What is no literal -/

/-- A raw text opens with a quote, behind hash signs. -/
theorem rawTextLength_eq_none {kind : Quotation} (hashes : Nat) {cs : List Char}
    (hhead : cs.head? ≠ some '#' ∧ cs.head? ≠ some '"') :
    rawTextLength kind (List.replicate hashes '#' ++ cs) = none := by
  have htake : (List.replicate hashes '#' ++ cs).takeWhile (· == '#') =
      List.replicate hashes '#' := by
    rw [List.takeWhile_append_of_pos (by simp)]
    cases cs with
    | nil => simp
    | cons c others => simp_all
  rw [rawTextLength, htake, List.length_replicate, List.drop_left' List.length_replicate]
  cases cs with
  | nil => rfl
  | cons c others =>
    split
    · next heq => exact absurd (congrArg List.head? heq) hhead.2
    · rfl

theorem isStart_of_isMark (hmark : isMark c = true) : Identifier.isStart c = false := by
  have hall : ("~!@#$%^&*-=+|;:,<.>/?'".toList.all fun d => !Identifier.isStart d) = true := by
    decide
  simpa using List.all_eq_true.mp hall c (List.contains_iff_mem.mp hmark)

/-- The code points of the characters that the lexer passes over. -/
def skippedPoints : List Nat :=
  [0x09, 0x0a, 0x0b, 0x0c, 0x0d, 0x20, 0x85, 0xa0, 0x1680, 0x2000, 0x2001, 0x2002, 0x2003, 0x2004,
    0x2005, 0x2006, 0x2007, 0x2008, 0x2009, 0x200a, 0x200e, 0x200f, 0x2028, 0x2029, 0x202f, 0x205f,
    0x3000]

theorem isStart_of_isSkipped (hskipped : isSkipped c = true) : Identifier.isStart c = false := by
  have hpoint : c.toNat ∈ skippedPoints := by
    have hspace : c = ' ' ↔ c.toNat = 0x20 := Char.toNat_inj.symm
    simp only [isSkipped, isBlank, Bool.or_eq_true, Bool.and_eq_true, decide_eq_true_eq,
      beq_iff_eq, hspace] at hskipped
    simp only [skippedPoints, List.mem_cons, List.not_mem_nil, or_false]
    omega
  have hall : ∀ point ∈ skippedPoints, Identifier.isStart (Char.ofNat point) = false := by
    decide +kernel
  rw [← Char.ofNat_toNat c]
  exact hall c.toNat hpoint

/-- That a text does not go on with a mark of a quoted literal. -/
def Unmarked (cs : List Char) : Prop :=
  ∀ c, cs.head? = some c → c ≠ '"' ∧ c ≠ '#' ∧ c ≠ '\''

theorem Unmarked.rawTextLength_eq_none {kind : Quotation} {cs : List Char}
    (hunmarked : Unmarked cs) : rawTextLength kind cs = none := by
  have hhead : cs.head? ≠ some '#' ∧ cs.head? ≠ some '"' :=
    ⟨fun heq => (hunmarked _ heq).2.1 rfl, fun heq => (hunmarked _ heq).1 rfl⟩
  exact Token.rawTextLength_eq_none 0 hhead

theorem unmarked_append {cs : List Char} (hcs : ∀ c ∈ cs, Identifier.isContinue c = true)
    (hapart : Apart rest) : Unmarked (cs ++ rest) := by
  intro c hc
  cases cs with
  | nil => obtain rfl | rfl | rfl | rfl := hapart c hc <;> decide
  | cons first others =>
    obtain rfl : first = c := Option.some.inj hc
    have hfirst := hcs first (by simp)
    refine ⟨?_, ?_, ?_⟩ <;> rintro rfl <;> exact absurd hfirst (by decide)

theorem unmarked_tail {cs others : List Char} (hcs : ∀ c ∈ cs, Identifier.isContinue c = true)
    (hapart : Apart rest) (hc : Identifier.isContinue c = true) (heq : cs ++ rest = c :: others) :
    Unmarked others := by
  cases cs with
  | nil =>
    obtain rfl : rest = c :: others := heq
    exact absurd hc (by simp [hapart.not_continue rfl])
  | cons first more =>
    obtain ⟨rfl, rfl⟩ := List.cons.inj heq
    exact unmarked_append (fun d hd => hcs d (by simp [hd])) hapart

/-- A name begins no quoted literal, since the mark of one would be part of the name. -/
theorem quotedLiteralLength_word (hword : IsWord name) (hapart : Apart rest) :
    quotedLiteralLength (name ++ rest) = none := by
  obtain ⟨first, others, rfl, hfirst, hothers⟩ | ⟨body, rfl, ⟨first, others, rfl, hfirst, -⟩, -⟩ :=
    hword.cases
  · have hhead := unmarked_append hothers hapart
    rw [List.cons_append, quotedLiteralLength.eq_def]
    split
    · next heq =>
      obtain ⟨rfl, -⟩ := List.cons.inj heq
      exact absurd hfirst (by decide)
    · next heq =>
      obtain ⟨-, rfl⟩ := List.cons.inj heq
      simp [hhead.rawTextLength_eq_none]
    · next heq =>
      exact absurd rfl (hhead '"' (by simp [(List.cons.inj heq).2])).1
    · next heq =>
      have hraw := unmarked_tail hothers hapart (by decide) (List.cons.inj heq).2
      simp [hraw.rawTextLength_eq_none]
    · next heq =>
      exact absurd rfl (hhead '"' (by simp [(List.cons.inj heq).2])).1
    · next heq =>
      have hraw := unmarked_tail hothers hapart (by decide) (List.cons.inj heq).2
      simp [hraw.rawTextLength_eq_none]
    · next heq =>
      exact absurd rfl (hhead '\'' (by simp [(List.cons.inj heq).2])).2.2
    · next heq =>
      obtain ⟨rfl, -⟩ := List.cons.inj heq
      exact absurd hfirst (by decide)
    · rfl
  · have hhead : ((first :: others ++ rest).head? ≠ some '#') ∧
        ((first :: others ++ rest).head? ≠ some '"') := by
      simp only [List.cons_append, List.head?_cons, ne_eq, Option.some.injEq]
      constructor <;> rintro rfl <;> exact absurd hfirst (by decide)
    simp only [List.cons_append, quotedLiteralLength]
    exact congrArg _ (rawTextLength_eq_none 1 hhead)

theorem mem_digits (hdigit : c.isDigit = true) : c ∈ "0123456789".toList := by
  have hpoint : c.toNat ∈ List.range' 48 10 := by
    simp only [Char.isDigit, Bool.and_eq_true, decide_eq_true_eq, ge_iff_le,
      UInt32.le_iff_toNat_le] at hdigit
    exact List.mem_range'_1.mpr ⟨hdigit.1, Nat.lt_succ_of_le hdigit.2⟩
  have hall : ∀ point ∈ List.range' 48 10, Char.ofNat point ∈ "0123456789".toList := by decide
  rw [← Char.ofNat_toNat c]
  exact hall c.toNat hpoint

theorem isStart_of_isDigit (hdigit : c.isDigit = true) : Identifier.isStart c = false := by
  have hall : ("0123456789".toList.all fun d => !Identifier.isStart d) = true := by decide
  simpa using List.all_eq_true.mp hall c (mem_digits hdigit)

theorem length?_word (hword : IsWord name) (hapart : Apart rest) :
    Literal.length? (name ++ rest) = none := by
  have hdigit : (name ++ rest).head?.any Char.isDigit = false := by
    obtain ⟨first, others, rfl, hfirst, -⟩ | ⟨body, rfl, -⟩ := hword.cases
    · cases hdigit : first.isDigit with
      | false => exact hdigit
      | true => exact absurd hfirst (by simp [isStart_of_isDigit hdigit])
    · rfl
  rw [Literal.length?, quotedLiteralLength_word hword hapart, numberLength, hdigit]
  rfl

/-! Reading -/

/-- No comment begins with the character and the text behind it. -/
def Uncommented (c : Char) (rest : List Char) : Prop :=
  c = '/' → rest.head? ≠ some '/' ∧ rest.head? ≠ some '*'

theorem first?_eq (huncommented : Uncommented c rest) (hdelimiter : c ∉ "([{)]}".toList) :
    first? (c :: rest) = if isSkipped c then some (.blank, 1) else leaf? (c :: rest) := by
  rw [first?.eq_def]
  split <;> next heq =>
    first
    | obtain ⟨rfl, rfl⟩ := List.cons.inj heq
      first
      | rfl
      | exact absurd rfl (huncommented rfl).1
      | exact absurd rfl (huncommented rfl).2
      | exact absurd hdelimiter (by decide)
    | exact absurd heq (List.cons_ne_nil _ _)

theorem beginsWithMark_of_not_isMark {cs : List Char} (hmark : isMark c = false) :
    beginsWithMark (c :: cs) = false := by
  rw [beginsWithMark.eq_def]
  split
  · rfl
  · rfl
  · next heq =>
    obtain ⟨rfl, rfl⟩ := List.cons.inj heq
    exact hmark
  · rfl

theorem isMark_of_isStart (hstart : Identifier.isStart c = true) : isMark c = false := by
  cases hmark : isMark c with
  | false => rfl
  | true => exact absurd hstart (by simp [isStart_of_isMark hmark])

theorem mark?_of_isStart {cs : List Char} (hstart : Identifier.isStart c = true) :
    mark? (c :: cs) = none := by
  rw [mark?.eq_def]
  split
  · next heq =>
    obtain ⟨rfl, -⟩ := List.cons.inj heq
    exact absurd hstart (by decide)
  · next heq =>
    obtain ⟨rfl, rfl⟩ := List.cons.inj heq
    simp [beginsWithMark_of_not_isMark (isMark_of_isStart hstart)]
  · rfl

theorem IsWord.exists_start (hword : IsWord name) :
    ∃ first others, name = first :: others ∧ Identifier.isStart first = true := by
  obtain ⟨first, others, rfl, hfirst, -⟩ | ⟨body, rfl, -⟩ := hword.cases
  · exact ⟨first, others, rfl, hfirst⟩
  · exact ⟨'r', '#' :: body, rfl, by decide⟩

theorem first?_word (hword : IsWord name) (hapart : Apart rest) :
    first? (name ++ rest) = some (.word name, name.length) := by
  have hlength := length?_word hword hapart
  have hquoted := beginsLikeQuoted_append hword hapart
  have hword' := wordLength_append hword hapart
  obtain ⟨first, others, rfl, hfirst⟩ := hword.exists_start
  have hall : ("([{)]}".toList.all fun d => !Identifier.isStart d) = true := by decide
  have hskipped : isSkipped first = false := by
    cases hskipped : isSkipped first with
    | false => rfl
    | true => exact absurd hfirst (by simp [isStart_of_isSkipped hskipped])
  rw [List.cons_append] at hlength hquoted hword' ⊢
  rw [first?_eq, hskipped]
  · simp [leaf?, hlength, mark?_of_isStart hfirst, word?, hquoted, hword']
  · rintro rfl
    exact absurd hfirst (by decide)
  · intro hmem
    simpa [hfirst] using List.all_eq_true.mp hall first hmem

/-- The characters of operators. The apostrophe is none of them, since it needs a name behind it. -/
def operators : List Char := "~!@#$%^&*-=+|;:,<.>/?".toList

theorem isMark_of_mem_operators (hc : c ∈ operators) : isMark c = true ∧ c ≠ '\'' := by
  have hall : (operators.all fun d => isMark d && d != '\'') = true := by decide
  simpa using List.all_eq_true.mp hall c hc

theorem beginsWithMark_eq (huncommented : Uncommented c rest) :
    beginsWithMark (c :: rest) = isMark c := by
  rw [beginsWithMark.eq_def]
  split
  · next heq =>
    obtain ⟨rfl, rfl⟩ := List.cons.inj heq
    exact absurd rfl (huncommented rfl).1
  · next heq =>
    obtain ⟨rfl, rfl⟩ := List.cons.inj heq
    exact absurd rfl (huncommented rfl).2
  · next heq =>
    obtain ⟨rfl, rfl⟩ := List.cons.inj heq
    rfl
  · next heq => exact absurd heq (List.cons_ne_nil _ _)

theorem quotedLiteralLength_eq_none (hopening : c ∉ "\"rbc'".toList) :
    quotedLiteralLength (c :: rest) = none := by
  rw [quotedLiteralLength.eq_def]
  split <;> next heq =>
    first
    | obtain ⟨rfl, -⟩ := List.cons.inj heq
      exact absurd hopening (by decide)
    | rfl

theorem length?_operator (hc : c ∈ operators) : Literal.length? (c :: rest) = none := by
  have hall : (operators.all fun d => !"\"rbc'".toList.contains d && !d.isDigit) = true := by decide
  obtain ⟨hopening, hdigit⟩ : c ∉ "\"rbc'".toList ∧ c.isDigit = false := by
    simpa only [Bool.and_eq_true, Bool.not_eq_true', List.contains_eq_mem, decide_eq_false_iff_not]
      using List.all_eq_true.mp hall c hc
  simp [Literal.length?, quotedLiteralLength_eq_none hopening, numberLength, hdigit]

theorem first?_operator (hc : c ∈ operators) (huncommented : Uncommented c rest) :
    first? (c :: rest) = some (.mark c (beginsWithMark rest), 1) := by
  obtain ⟨hmark, hne⟩ := isMark_of_mem_operators hc
  have hleaf : leaf? (c :: rest) = some (.mark c (beginsWithMark rest), 1) := by
    have hmark? : mark? (c :: rest) = some (.mark c (beginsWithMark rest), 1) := by
      rw [mark?.eq_def]
      split
      · next heq => exact absurd (List.cons.inj heq).1 hne
      · next heq =>
        obtain ⟨rfl, rfl⟩ := List.cons.inj heq
        rw [beginsWithMark_eq huncommented, hmark]
        rfl
      · next heq => exact absurd heq (List.cons_ne_nil _ _)
    rw [leaf?, length?_operator hc, hmark?]
  have hall : (operators.all fun d => !"([{)]}".toList.contains d && !isSkipped d) = true := by
    decide
  obtain ⟨hdelimiter, hskipped⟩ : c ∉ "([{)]}".toList ∧ isSkipped c = false := by
    simpa only [Bool.and_eq_true, Bool.not_eq_true', List.contains_eq_mem, decide_eq_false_iff_not]
      using List.all_eq_true.mp hall c hc
  rw [first?_eq huncommented hdelimiter, hskipped]
  exact hleaf

theorem characterLength_word (hword : IsWord name) (hapart : Apart rest) :
    characterLength .text (name ++ rest) = none := by
  have hsecond : ∀ c others, name ++ rest ≠ c :: '\'' :: others := by
    intro c behind heq
    obtain ⟨first, others, rfl, -, hothers⟩ | ⟨body, rfl, -⟩ := hword.cases
    · have hhead : (others ++ rest).head? = some '\'' := congrArg List.head? (List.cons.inj heq).2
      exact (unmarked_append hothers hapart _ hhead).2.2 rfl
    · exact absurd (List.cons.inj (List.cons.inj heq).2).1 (by decide)
  obtain ⟨first, others, rfl, hfirst⟩ := hword.exists_start
  rw [List.cons_append, characterLength.eq_def]
  split
  · next heq =>
    obtain ⟨rfl, -⟩ := List.cons.inj heq
    exact absurd hfirst (by decide)
  · next heq => exact absurd heq (hsecond _ _)
  · rfl

/-- The mark of a lifetime, which a name follows. -/
theorem first?_lifetime (hword : IsWord name) (hapart : Apart rest) :
    first? ('\'' :: (name ++ rest)) = some (.mark '\'' true, 1) := by
  have hquoted : quotedLiteralLength ('\'' :: (name ++ rest)) = none := by
    rw [quotedLiteralLength, characterLength_word hword hapart]
    rfl
  have hlength : Literal.length? ('\'' :: (name ++ rest)) = none := by
    simp [Literal.length?, hquoted, numberLength]
  have hafter : ∀ c, rest.head? = some c → c ≠ '\'' ∧ c ≠ '#' := by
    intro c hc
    obtain rfl | rfl | rfl | rfl := hapart c hc <;> decide
  have hmark : mark? ('\'' :: (name ++ rest)) = some (.mark '\'' true, 1) := by
    rw [mark?, wordLength_append hword hapart]
    cases rest with
    | nil => simp
    | cons c others => simp [hafter c rfl]
  have hskipped : isSkipped '\'' = false := by decide
  rw [first?_eq (fun heq => absurd heq (by decide)) (by decide), hskipped]
  simp [leaf?, hlength, hmark]

end ServiceGen.Token
