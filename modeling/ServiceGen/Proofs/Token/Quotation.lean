import ServiceGen.Proofs.Token.Lexeme
import ServiceGen.Token.Quotation

/-!
Text literals are read back. Whatever a text holds, the literal that is written for it is one
lexeme, and the text that the literal stands for is the text it was written for.
-/
namespace ServiceGen.Token.Quotation

open Text Literal Quoted

/-- Hexadecimal digits as a number, behind those that were read. -/
def hexNumber (value : Nat) (digits : List Char) : Nat :=
  digits.foldl (fun value c => value * 16 + hexValue c) value

theorem codePoint_digits {digits rest : List Char} {value count passed : Nat}
    (hdigits : ∀ c ∈ digits, isHexDigit c = true) (hcount : count + digits.length ≤ 6)
    (hsome : count + digits.length ≠ 0) :
    codePoint value count passed (digits ++ '}' :: rest) =
      some (hexNumber value digits, passed + digits.length + 1) := by
  induction digits generalizing value count passed with
  | nil =>
    have hbrace : isHexDigit '}' = false := by decide
    simp [codePoint, hbrace, hexNumber] at hsome ⊢
    omega
  | cons c digits ih =>
    rw [List.length_cons] at hcount hsome
    have hnot : (count == 6) = false := by simp; omega
    rw [List.cons_append, codePoint, if_pos (hdigits c (by simp)), hnot,
      if_neg Bool.false_ne_true, ih (fun d hd => hdigits d (by simp [hd])) (by omega) (by omega)]
    simp [hexNumber]
    omega

theorem hexNumber_digitChar (value : Nat) {n : Nat} (hn : n < 16) :
    isHexDigit n.digitChar = true ∧ hexNumber value [n.digitChar] = value * 16 + n := by
  have hall : ∀ m < 16, isHexDigit m.digitChar = true ∧ hexValue m.digitChar = m := by decide
  exact ⟨(hall n hn).1, by simp [hexNumber, (hall n hn).2]⟩

theorem hexNumber_toDigits (n : Nat) :
    (∀ c ∈ Nat.toDigits 16 n, isHexDigit c = true) ∧ hexNumber 0 (Nat.toDigits 16 n) = n := by
  induction n using Nat.strongRecOn with
  | ind n ih =>
    by_cases hn : n < 16
    · rw [Nat.toDigits_of_lt_base hn]
      simpa using hexNumber_digitChar 0 hn
    · have hsplit : n = 16 * (n / 16) + n % 16 := (Nat.div_add_mod n 16).symm
      have hlast : n % 16 < 16 := Nat.mod_lt n (by decide)
      obtain ⟨hdigits, hnumber⟩ := ih (n / 16) (by omega)
      rw [hsplit, ← Nat.toDigits_append_toDigits (by decide) (by omega) hlast,
        Nat.toDigits_of_lt_base hlast]
      constructor
      · simp only [List.mem_append, List.mem_singleton]
        rintro c (hc | rfl)
        · exact hdigits c hc
        · exact (hexNumber_digitChar 0 hlast).1
      · have hlastNumber := (hexNumber_digitChar (n / 16) hlast).2
        rw [hexNumber] at hnumber hlastNumber ⊢
        rw [List.foldl_append, hnumber, hlastNumber, Nat.mul_comm]

/-- That some characters between quotes are one unit, and stand for a character. -/
structure StandsFor (unit : List Char) (c : Char) : Prop where
  head : unit.head? ≠ some '"'
  length : ∀ rest, unitLength .text (unit ++ rest) = some unit.length
  meaning : ∀ rest, unescape (unit ++ rest) = (unescape rest).map (c :: ·)

theorem standsFor_simple {c meant : Char} (hsimple : simpleEscape c = some meant) :
    StandsFor ['\\', c] meant := by
  have hletter : c ∈ ['n', 'r', 't', '0', '\\', '\'', '"'] := by
    refine Classical.byContradiction fun hnot => ?_
    simp only [List.mem_cons, List.not_mem_nil, or_false, not_or] at hnot
    simp [simpleEscape, hnot] at hsimple
  simp only [List.mem_cons, List.not_mem_nil, or_false] at hletter
  refine ⟨by simp, fun rest => ?_, fun rest => ?_⟩
  · have hlength : escapeLength .text (c :: rest) = some 1 := by
      obtain rfl | rfl | rfl | rfl | rfl | rfl | rfl := hletter <;> rfl
    simp [unitLength, hlength]
  · rw [List.cons_append, List.singleton_append, unescape.eq_8, hsimple]
    all_goals
      intros
      subst_vars
      simp at hletter

theorem standsFor_number (c : Char) : StandsFor (byNumber c) c := by
  obtain ⟨hdigits, hnumber⟩ := hexNumber_toDigits c.toNat
  have hpoint (rest : List Char) :
      codePoint 0 0 0 (Nat.toDigits 16 c.toNat ++ '}' :: rest) =
        some (c.toNat, (Nat.toDigits 16 c.toNat).length + 1) := by
    have hshort : (Nat.toDigits 16 c.toNat).length ≤ 6 := by
      have hvalid := c.valid
      refine (Nat.length_toDigits_le_iff (by decide) (by decide)).mpr ?_
      simp only [UInt32.isValidChar, Nat.isValidChar] at hvalid
      change c.val.toNat < _
      omega
    have hlong : (Nat.toDigits 16 c.toNat).length ≠ 0 := by
      simp [Nat.toDigits_ne_nil]
    rw [codePoint_digits hdigits (by omega) (by omega), hnumber, Nat.zero_add]
  have hscalar : isScalar c.toNat = true := by
    have hvalid := c.valid
    simp only [UInt32.isValidChar, Nat.isValidChar] at hvalid
    simp only [isScalar, Bool.or_eq_true, Bool.and_eq_true, decide_eq_true_eq]
    exact hvalid
  refine ⟨by simp [byNumber], fun rest => ?_, fun rest => ?_⟩
  · simp only [byNumber, List.cons_append, List.nil_append, List.append_assoc, unitLength,
      escapeLength, hpoint, hscalar]
    simp
  · simp only [byNumber, List.cons_append, List.nil_append, List.append_assoc, unescape, hpoint]
    rw [← List.drop_drop, List.drop_left, Char.ofNat_toNat]
    rfl

theorem standsFor_zero : StandsFor "\\x00".toList (Char.ofNat 0) := by
  refine ⟨by decide, fun rest => rfl, fun rest => ?_⟩
  · exact unescape.eq_4 '0' '0' rest

theorem standsFor_plain {c : Char} (hplain : c ∉ ['"', '\\', '\r']) : StandsFor [c] c := by
  refine ⟨by simpa using fun heq => hplain (by simp [heq]), fun rest => ?_, fun rest => ?_⟩
  · simp at hplain
    rw [List.singleton_append, unitLength.eq_def]
    split
    · simp_all
    · simp_all
    · simp_all
    · simp_all
    · next heq =>
      obtain ⟨rfl, rfl⟩ := List.cons.inj heq
      rfl
  · rw [List.singleton_append]
    apply unescape.eq_9 <;> simp_all

theorem standsFor_escape (c : Char) : StandsFor (escape c) c := by
  by_cases hsimple : c ∈ ['"', '\\', '\n', '\r', '\t', Char.ofNat 0]
  · simp only [List.mem_cons, List.not_mem_nil, or_false] at hsimple
    obtain rfl | rfl | rfl | rfl | rfl | rfl := hsimple <;> exact standsFor_simple rfl
  · simp only [List.mem_cons, List.not_mem_nil, or_false, not_or] at hsimple
    cases hreadable : Printable.isReadable c with
    | true => simpa [escape, hsimple, hreadable] using standsFor_plain (by simp [hsimple])
    | false => simpa [escape, hsimple, hreadable] using standsFor_number c

theorem StandsFor.ne_nil {unit : List Char} {c : Char} (hstands : StandsFor unit c) :
    unit ≠ [] := by
  rintro rfl
  exact absurd (hstands.length []) (by simp [unitLength])

theorem StandsFor.quotedLength {unit rest : List Char} {c : Char} (hstands : StandsFor unit c) :
    quotedLength .text (unit ++ rest) = (quotedLength .text rest).map (· + unit.length) := by
  obtain ⟨first, others, rfl⟩ := List.exists_cons_of_ne_nil hstands.ne_nil
  have hfirst : first ≠ '"' := fun heq => hstands.head (congrArg some heq)
  have hlength := hstands.length rest
  rw [List.length_cons] at hlength ⊢
  rw [List.cons_append] at hlength ⊢
  rw [Literal.quotedLength, hlength]
  · simp
  · exact fun heq => hfirst heq

theorem escaped_cons (c : Char) (cs : List Char) :
    ∃ unit, StandsFor unit c ∧ escaped (c :: cs) = unit ++ escaped cs := by
  rw [escaped]
  split
  · next hzero =>
    obtain rfl : c = Char.ofNat 0 := by simp_all
    exact ⟨_, standsFor_zero, rfl⟩
  · exact ⟨_, standsFor_escape c, rfl⟩

theorem quotedLength_escaped (text rest : List Char) :
    quotedLength .text (escaped text ++ '"' :: rest) = some ((escaped text).length + 1) := by
  induction text with
  | nil => simp [escaped, quotedLength]
  | cons c cs ih =>
    obtain ⟨unit, hstands, heq⟩ := escaped_cons c cs
    rw [heq, List.append_assoc, hstands.quotedLength, ih, List.length_append, Option.map_some]
    exact congrArg some (by omega)

theorem unescape_escaped (text rest : List Char) :
    unescape (escaped text ++ '"' :: rest) = some text := by
  induction text with
  | nil => simp [escaped, unescape]
  | cons c cs ih =>
    obtain ⟨unit, hstands, heq⟩ := escaped_cons c cs
    rw [heq, List.append_assoc, hstands.meaning, ih, Option.map_some]

/-- A literal stands for the text that it was written for. -/
theorem value?_ofText (text : String) : value? (ofText text) = some text := by
  have hmeaning := unescape_escaped text.toList []
  simp only [value?, ofText, String.toList_ofList, List.cons_append] at hmeaning ⊢
  rw [hmeaning]
  simp

end ServiceGen.Token.Quotation

namespace ServiceGen.Token

open Text Literal Quotation

/-- That a text is read as one literal wherever it is printed. -/
def IsLiteral (text : String) : Prop :=
  (∃ first others, text.toList = first :: others ∧ first ≠ '/') ∧ ∀ rest, Apart rest →
    Lexeme.first? (text.toList ++ rest) = some (.literal text.toList, text.toList.length)

theorem isLiteral_ofText (text : String) : IsLiteral (ofText text) := by
  refine ⟨⟨'"', _, String.toList_ofList, by decide⟩, fun rest hapart => ?_⟩
  have hquoted := quotedLength_escaped text.toList rest
  have hwhole : (ofText text).toList ++ rest = '"' :: (escaped text.toList ++ '"' :: rest) := by
    simp [ofText]
  have hsize : (ofText text).toList.length = (escaped text.toList).length + 2 := by
    simp [ofText]
  have hlength : Literal.length? ((ofText text).toList ++ rest) =
      some (ofText text).toList.length := by
    have hliteral : quotedLiteralLength ((ofText text).toList ++ rest) =
        some (ofText text).toList.length := by
      rw [hwhole, hsize, quotedLiteralLength, hquoted]
      rfl
    simp only [Literal.length?, hliteral, withSuffix, List.drop_left,
      identLength_of_apart hapart, Nat.add_zero]
  have hskipped : Lexeme.isSkipped '"' = false := by decide
  rw [hwhole, first?_eq (fun heq => absurd heq (by decide)) (by decide), hskipped, ← hwhole]
  simp [Lexeme.leaf?, hlength]

/-- The digits of a number without a point, perhaps with underscores among them. -/
def IsDecimal (digits : List Char) : Prop :=
  ∃ first others, digits = first :: others ∧ first.isDigit = true ∧
    ∀ c ∈ others, isDigitOrLine c = true

section decimal

variable {digits rest : List Char}

theorem digitsLength_of_apart {base : Nat} (hapart : Apart rest) :
    digitsLength base false rest = some 0 := by
  cases rest with
  | nil => rfl
  | cons c others => obtain rfl | rfl | rfl | rfl := apart_cons.mp hapart <;> rfl

theorem hexValue_lt_of_isDigit {c : Char} (hdigit : c.isDigit = true) : hexValue c < 10 := by
  have hall : ("0123456789".toList.all fun d => decide (hexValue d < 10)) = true := by decide
  exact of_decide_eq_true (List.all_eq_true.mp hall c (mem_digits hdigit))

theorem digitsLength_decimal (hapart : Apart rest)
    (hdigits : ∀ c ∈ digits, isDigitOrLine c = true) :
    digitsLength 10 false (digits ++ rest) = some digits.length := by
  induction digits with
  | nil => exact digitsLength_of_apart hapart
  | cons c digits ih =>
    have hrest := ih fun d hd => hdigits d (by simp [hd])
    rw [List.cons_append, digitsLength]
    split
    · simp [hrest]
    · next hline =>
      have hdigit : c.isDigit = true := by simpa [isDigitOrLine, hline] using hdigits c (by simp)
      rw [if_pos hdigit, if_pos (hexValue_lt_of_isDigit hdigit), hrest]
      rfl

theorem isDigitOrLine_of_apart {c : Char} (hapart : Apart rest) (hc : rest.head? = some c) :
    isDigitOrLine c = false := by
  obtain rfl | rfl | rfl | rfl := hapart c hc <;> decide

theorem decimalLength_decimal (hapart : Apart rest)
    (hdigits : ∀ c ∈ digits, isDigitOrLine c = true) : decimalLength (digits ++ rest) = none := by
  have htake : (digits ++ rest).takeWhile isDigitOrLine = digits := by
    rw [List.takeWhile_append_of_pos hdigits]
    cases rest with
    | nil => simp
    | cons c others => simp [isDigitOrLine_of_apart hapart rfl]
  rw [decimalLength, htake, List.drop_left]
  cases rest with
  | nil => rfl
  | cons c others => obtain rfl | rfl | rfl | rfl := apart_cons.mp hapart <;> rfl

theorem integerLength_decimal (hapart : Apart rest) (hdecimal : IsDecimal digits) :
    integerLength (digits ++ rest) = some digits.length := by
  obtain ⟨first, others, rfl, hfirst, hothers⟩ := hdecimal
  have hlength : digitsLength 10 true (first :: others ++ rest) = some (others.length + 1) := by
    have hline : (first == '_') = false := by
      cases heq : first == '_' with
      | false => rfl
      | true => simp_all
    rw [List.cons_append, digitsLength, hline, if_neg Bool.false_ne_true, if_pos hfirst,
      if_pos (hexValue_lt_of_isDigit hfirst), digitsLength_decimal hapart hothers]
    rfl
  -- the mark of another base is no digit, and the number goes on with digits alone
  have hsecond (c : Char) (hc : (others ++ rest).head? = some c) :
      isDigitOrLine c = true ∨ c = ' ' ∨ c = ')' ∨ c = ']' ∨ c = '\n' := by
    cases others with
    | nil => exact .inr (hapart c hc)
    | cons second others => exact .inl (Option.some.inj hc ▸ hothers second (by simp))
  rw [integerLength.eq_def]
  split
  case h_4 => exact hlength
  all_goals
    next heq =>
    have hmark := hsecond _ (congrArg List.head? (List.cons.inj heq).2)
    exact absurd hmark (by decide)

theorem numberLength_decimal (hapart : Apart rest) (hdecimal : IsDecimal digits) :
    numberLength (digits ++ rest) = some digits.length := by
  have hinteger := integerLength_decimal hapart hdecimal
  obtain ⟨first, others, rfl, hfirst, hothers⟩ := hdecimal
  have hdigits : ∀ c ∈ first :: others, isDigitOrLine c = true := by
    simp only [List.mem_cons, forall_eq_or_imp]
    exact ⟨by simp [isDigitOrLine, hfirst], hothers⟩
  have hends : endsAsWord (first :: others).length (first :: others ++ rest) =
      some (first :: others).length := by
    have hafter : rest.head?.any Identifier.isContinue = false := by
      cases rest with
      | nil => rfl
      | cons c others => exact hapart.not_continue rfl
    rw [endsAsWord, withSuffix, List.drop_left, identLength_of_apart hapart, Nat.add_zero,
      List.drop_left, hafter]
    rfl
  rw [numberLength, decimalLength_decimal hapart hdigits, hinteger]
  simpa [hfirst] using hends

end decimal

theorem isLiteral_decimal {text : String} (hdecimal : IsDecimal text.toList) : IsLiteral text := by
  have hnumber (rest : List Char) (hapart : Apart rest) := numberLength_decimal hapart hdecimal
  obtain ⟨first, others, heq, hfirst, hothers⟩ := hdecimal
  have hall : ("0123456789".toList.all fun d => !"\"rbc'".toList.contains d && d != '/' &&
      !"([{)]}".toList.contains d && !Lexeme.isSkipped d) = true := by decide
  obtain ⟨⟨⟨hopening, hslash⟩, hdelimiter⟩, hskipped⟩ : ((first ∉ "\"rbc'".toList ∧ first ≠ '/') ∧
      first ∉ "([{)]}".toList) ∧ Lexeme.isSkipped first = false := by
    simpa only [Bool.and_eq_true, Bool.not_eq_true', List.contains_eq_mem, decide_eq_false_iff_not,
      bne_iff_ne] using List.all_eq_true.mp hall first (mem_digits hfirst)
  refine ⟨⟨first, others, heq, hslash⟩, fun rest hapart => ?_⟩
  have hnumber := hnumber rest hapart
  rw [heq, List.cons_append] at hnumber ⊢
  have hlength : Literal.length? (first :: (others ++ rest)) = some (first :: others).length := by
    rw [Literal.length?, quotedLiteralLength_eq_none hopening, hnumber]
  rw [first?_eq (fun heq => absurd heq hslash) hdelimiter, hskipped]
  simp [Lexeme.leaf?, hlength]

end ServiceGen.Token
