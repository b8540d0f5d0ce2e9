import ServiceGen.Proofs.Token.Quotation
import ServiceGen.Token.Lexer
import ServiceGen.Token.Printer

/-!
Printed tokens are read back. Tokens are readable when each of them is a single lexeme, or a group
of readable tokens, and when every mark that is joined to what follows is part of an operator or
begins a lifetime. The text of readable tokens is read as these tokens, whatever place it stands at
and whatever groups are open there.
-/
namespace ServiceGen

namespace Located

theorem tokens_append (front back : List Located) :
    tokens (front ++ back) = tokens front ++ tokens back := by
  induction front with
  | nil => rfl
  | cons tree rest ih => rw [List.cons_append, tokens, tokens, ih, List.cons_append]

end Located

namespace Token

open Lexeme

/-- That what follows a mark lets it be read as it is. An apostrophe needs the name of a lifetime,
and a mark that is joined needs another one, with which it does not begin a comment. -/
def Fits : Token → List Token → Prop
  | .punct c true, .punct d _ :: _ =>
    c ∈ operators ∧ d ∈ operators ∧ (c = '/' → d ≠ '/' ∧ d ≠ '*')
  | .punct c true, .ident _ :: _ => c = '\''
  | .punct _ true, _ => False
  | .punct c false, _ => c ∈ operators
  | _, _ => True

mutual

def ReadableTree : Token → Prop
  | .ident name => IsWord name.toList
  | .punct .. => True
  | .literal text => IsLiteral text
  | .group _ inner => Readable inner

/-- That the text of tokens is read as these tokens. -/
def Readable : List Token → Prop
  | [] => True
  | token :: rest => ReadableTree token ∧ Fits token rest ∧ Readable rest

end

variable {front back : List Token}

/-- Readable tokens do not end with a mark that is joined to what follows. -/
theorem Readable.append (hfront : Readable front) (hback : Readable back) :
    Readable (front ++ back) := by
  induction front with
  | nil => exact hback
  | cons token front ih =>
    obtain ⟨htree, hfits, hfront⟩ := hfront
    refine ⟨htree, ?_, ih hfront⟩
    cases token with
    | ident _ | literal _ | group _ _ => trivial
    | punct c joint =>
      cases front with
      | cons second more => cases joint <;> cases second <;> exact hfits
      | nil =>
        cases joint with
        | true => exact hfits.elim
        | false => exact hfits

end Token

namespace Token.Lexer

open Lexeme

/-- That the lexer passes from one text to another by reading the tokens, whatever it has read and
whatever groups are open. The fuel stays at least what the rest of the text asks for. -/
def Reads (cs : List Char) (tokens : List Token) (rest : List Char) : Prop :=
  ∀ fuel position stack read, cs.length ≤ fuel →
    ∃ fuel' position' trees, rest.length ≤ fuel' ∧ Located.tokens trees = tokens ∧
      run fuel cs position stack read = run fuel' rest position' stack (trees.reverse ++ read)

variable {cs middle rest : List Char} {tokens behind : List Token}

theorem Reads.refl : Reads cs [] cs := fun fuel position _ _ hfuel =>
  ⟨fuel, position, [], hfuel, rfl, rfl⟩

theorem Reads.trans (hfirst : Reads cs tokens middle) (hsecond : Reads middle behind rest) :
    Reads cs (tokens ++ behind) rest := by
  intro fuel position stack read hfuel
  obtain ⟨fuel, position, front, hfuel, rfl, heq⟩ := hfirst fuel position stack read hfuel
  obtain ⟨fuel, position, back, hfuel, rfl, heq'⟩ :=
    hsecond fuel position stack (front.reverse ++ read) hfuel
  refine ⟨fuel, position, front ++ back, hfuel, Located.tokens_append _ _, ?_⟩
  rw [heq, heq', List.reverse_append, List.append_assoc]

/-- Characters that are read to their end are a text of their own, wherever it begins. -/
theorem Reads.exists_readFrom (hreads : Reads cs tokens []) (position : Position) :
    ∃ trees, readFrom position cs = .ok trees ∧ Located.tokens trees = tokens := by
  obtain ⟨fuel, position', trees, -, htokens, heq⟩ := hreads _ position [] [] (Nat.le_refl _)
  refine ⟨trees, ?_, htokens⟩
  rw [readFrom, heq]
  simp [run]

/-- Nothing can be read of characters if they go on with what is no lexeme. -/
theorem Reads.exists_error {c : Char} (hreads : Reads cs tokens (c :: rest))
    (hfirst : first? (c :: rest) = none) (position : Position) :
    ∃ place, readFrom position cs = .error place := by
  obtain ⟨fuel, place, trees, hfuel, -, heq⟩ := hreads _ position [] [] (Nat.le_refl _)
  obtain ⟨fuel, rfl⟩ := Nat.exists_eq_add_one_of_ne_zero (Nat.ne_zero_of_lt hfuel)
  exact ⟨place, by simp only [readFrom, heq, run, hfirst]⟩

/-- What a lexeme stands for, if it is a token by itself. -/
inductive Means : Lexeme → Token → Prop where
  | word (name : List Char) : Means (.word name) (.ident (String.ofList name))
  | mark (c : Char) (joint : Bool) : Means (.mark c joint) (.punct c joint)
  | literal (text : List Char) : Means (.literal text) (.literal (String.ofList text))

theorem reads_leaf {lexeme : Lexeme} {token : Token} {taken : List Char} (htaken : taken ≠ [])
    (hfirst : first? (taken ++ rest) = some (lexeme, taken.length))
    (hmeans : Means lexeme token) : Reads (taken ++ rest) [token] rest := by
  intro fuel position stack read hfuel
  obtain ⟨c, others, rfl⟩ := List.exists_cons_of_ne_nil htaken
  rw [List.length_append, List.length_cons] at hfuel
  obtain ⟨fuel, rfl⟩ := Nat.exists_eq_add_one_of_ne_zero (n := fuel) (by omega)
  refine ⟨fuel, position.advance (c :: others), leaf lexeme position, by omega, ?_, ?_⟩
  · cases hmeans <;> rfl
  · have hdrop : (c :: others ++ rest).drop (c :: others).length = rest := List.drop_left
    have htake : (c :: others ++ rest).take (c :: others).length = c :: others := List.take_left
    rw [List.cons_append] at hfirst hdrop htake ⊢
    cases hmeans <;> simp only [run, hfirst, hdrop, htake]

theorem reads_blank : Reads (' ' :: rest) [] rest := by
  intro fuel position stack read hfuel
  obtain ⟨fuel, rfl⟩ := Nat.exists_eq_add_one_of_ne_zero (Nat.ne_zero_of_lt hfuel)
  exact ⟨fuel, position.advance [' '], [], Nat.le_of_succ_le_succ hfuel, rfl, rfl⟩

/-- The characters of a pair of delimiters. -/
def ends : Delimiter → Char × Char
  | .parenthesis => ('(', ')')
  | .bracket => ('[', ']')
  | .brace => ('\x7b', '\x7d')

theorem reads_group {delimiter : Delimiter} (hplain : ∀ more, cs ≠ '/' :: '*' :: more)
    (hinner : Reads cs tokens ((ends delimiter).2 :: rest)) :
    Reads ((ends delimiter).1 :: cs) [.group delimiter tokens] rest := by
  have hopening : first? ((ends delimiter).1 :: cs) = some (.opening delimiter, 1) := by
    have hfront : placeholder.isPrefixOf ('(' :: cs) = false := by
      cases hfront : placeholder.isPrefixOf ('(' :: cs) with
      | false => rfl
      | true =>
        have htext : placeholder = ['(', '/', '*'] ++ "ERROR*/)".toList := by decide
        rw [List.isPrefixOf_iff_prefix, htext] at hfront
        obtain ⟨more, heq⟩ := (List.prefix_append _ _).trans hfront
        exact absurd (List.cons.inj heq).2.symm (hplain more)
    cases delimiter with
    | parenthesis =>
      change (if placeholder.isPrefixOf ('(' :: cs) then _ else _) = _
      rw [hfront]
      rfl
    | bracket | brace => rfl
  have hclosing : first? ((ends delimiter).2 :: rest) = some (.closing delimiter, 1) := by
    cases delimiter <;> rfl
  intro fuel position stack read hfuel
  obtain ⟨fuel, rfl⟩ := Nat.exists_eq_add_one_of_ne_zero (Nat.ne_zero_of_lt hfuel)
  obtain ⟨fuel', position', trees, hfuel', rfl, heq⟩ := hinner fuel
    (position.advance [(ends delimiter).1]) (⟨delimiter, position, read⟩ :: stack) []
    (Nat.le_of_succ_le_succ hfuel)
  obtain ⟨fuel', rfl⟩ := Nat.exists_eq_add_one_of_ne_zero (Nat.ne_zero_of_lt hfuel')
  refine ⟨fuel', position'.advance [(ends delimiter).2],
    [.group delimiter trees position position'], Nat.le_of_succ_le_succ hfuel',
    by simp [Located.tokens, Located.token], ?_⟩
  rw [run, hopening]
  change run fuel cs (position.advance [_]) _ [] = _
  rw [heq, run, hclosing]
  simp

end Token.Lexer

namespace Token

open Lexeme Lexer

/-- What is printed behind a token, in front of the rest of the text. -/
def followed (token : Token) (next : List Token) (rest : List Char) : List Char :=
  match next with
  | [] => rest
  | _ => (if isJoint token then [] else [' ']) ++ ((text next).toList ++ rest)

variable {token : Token} {next : List Token} {rest : List Char}

/-- What stands between the delimiters of a printed group. -/
def within : Delimiter → List Token → List Char
  | .brace, [] => [' ']
  | .brace, inner => ' ' :: ((text inner).toList ++ [' '])
  | _, inner => (text inner).toList

theorem toList_group {delimiter : Delimiter} {inner : List Token} :
    (print (.group delimiter inner)).toList =
      (ends delimiter).1 :: (within delimiter inner ++ [(ends delimiter).2]) := by
  cases delimiter with
  | parenthesis | bracket => simp [print, within, ends]
  | brace => cases inner <;> simp [print, within, ends]

theorem toList_mark {c : Char} {joint : Bool} : (print (.punct c joint)).toList = [c] := by
  simp [print]

theorem text_cons : (text (token :: next)).toList ++ rest =
    (print token).toList ++ followed token next rest := by
  cases next with
  | nil => simp [text, followed]
  | cons second more => cases hjoint : isJoint token <;> simp [text, followed, hjoint]

theorem apart_followed (hjoint : isJoint token = false) (hapart : Apart rest) :
    Apart (followed token next rest) := by
  cases next with
  | nil => exact hapart
  | cons second more => simp [followed, hjoint, apart_cons]

theorem reads_followed (token : Token) :
    Reads (followed token next rest) [] ((text next).toList ++ rest) := by
  cases next with
  | nil => simpa [followed, text] using Reads.refl
  | cons second more =>
    cases hjoint : isJoint token with
    | true => simpa [followed, hjoint] using Reads.refl
    | false => simpa [followed, hjoint] using reads_blank

theorem Apart.beginsWithMark (hapart : Apart rest) : beginsWithMark rest = false := by
  cases rest with
  | nil => rfl
  | cons c others => obtain rfl | rfl | rfl | rfl := apart_cons.mp hapart <;> rfl

theorem Apart.uncommented {c : Char} (hapart : Apart rest) : Uncommented c rest := by
  refine fun _ => ⟨fun hhead => ?_, fun hhead => ?_⟩ <;>
    exact absurd (hapart _ hhead) (by decide)

theorem followed_joint {c : Char} {second : Token} :
    followed (.punct c true) (second :: next) rest =
      (print second).toList ++ followed second next rest := by
  rw [← text_cons]
  rfl

theorem uncommented_followed {c : Char} {joint : Bool} (hfits : Fits (.punct c joint) next)
    (hapart : Apart rest) : Uncommented c (followed (.punct c joint) next rest) := by
  match joint, next, hfits with
  | false, _, _ => exact (apart_followed rfl hapart).uncommented
  | true, .punct d _ :: more, ⟨_, _, hcomment⟩ =>
    intro hslash
    rw [followed_joint, toList_mark]
    simpa using hcomment hslash
  | true, .ident _ :: more, hquote =>
    intro hslash
    exact absurd (hquote.symm.trans hslash) (by decide)

theorem reads_mark {c : Char} {joint : Bool} (hreadable : Readable (.punct c joint :: next))
    (hapart : Apart rest) :
    Reads (c :: followed (.punct c joint) next rest) [.punct c joint]
      (followed (.punct c joint) next rest) := by
  obtain ⟨-, hfits, hnext⟩ := hreadable
  have huncommented := uncommented_followed hfits hapart
  suffices hfirst : first? ([c] ++ followed (.punct c joint) next rest) =
      some (.mark c joint, [c].length) from
    reads_leaf (List.cons_ne_nil _ _) hfirst (.mark c joint)
  change first? (c :: followed (.punct c joint) next rest) = some (_, 1)
  match joint, next, hfits with
  | false, next, hc =>
    have hfollowed : Apart (followed (.punct c false) next rest) := apart_followed rfl hapart
    rw [first?_operator hc huncommented, hfollowed.beginsWithMark]
  | true, .punct d inner :: more, ⟨hc, hd, _⟩ =>
    have hjoint :
        beginsWithMark (followed (.punct c true) (.punct d inner :: more) rest) = true := by
      obtain ⟨-, hfits, -⟩ := hnext
      rw [followed_joint, toList_mark]
      exact (beginsWithMark_eq (uncommented_followed hfits hapart)).trans
        (isMark_of_mem_operators hd).1
    rw [first?_operator hc huncommented, hjoint]
  | true, .ident name :: more, hquote =>
    obtain ⟨hname, -, -⟩ := hnext
    rw [followed_joint, hquote]
    exact first?_lifetime hname (apart_followed rfl hapart)

/-- No comment begins inside a group. -/
theorem text_not_comment {tokens : List Token} {c : Char} (hreadable : Readable tokens)
    (hc : c = ' ' ∨ c = ')' ∨ c = ']' ∨ c = '\n') (more : List Char) :
    (text tokens).toList ++ c :: rest ≠ '/' :: '*' :: more := by
  have hapart : Apart (c :: rest) := apart_cons.mpr hc
  intro heq
  cases tokens with
  | nil =>
    obtain ⟨rfl, -⟩ := List.cons.inj heq
    exact absurd hc (by decide)
  | cons token next =>
    rw [text_cons] at heq
    obtain ⟨htree, hfits, -⟩ := hreadable
    cases token with
    | ident name =>
      obtain ⟨first, others, hname, hfirst⟩ := IsWord.exists_start htree
      rw [print, hname] at heq
      obtain ⟨rfl, -⟩ := List.cons.inj heq
      exact absurd hfirst (by decide)
    | punct d joint =>
      rw [toList_mark] at heq
      obtain ⟨rfl, hstar⟩ := List.cons.inj heq
      exact absurd (congrArg List.head? hstar) (uncommented_followed hfits hapart rfl).2
    | literal text =>
      obtain ⟨⟨first, others, htext, hslash⟩, -⟩ := htree
      rw [print, htext] at heq
      exact hslash (List.cons.inj heq).1
    | group delimiter inner =>
      rw [toList_group] at heq
      cases delimiter <;> exact absurd (List.cons.inj heq).1 (by decide)

theorem within_not_comment {delimiter : Delimiter} {inner : List Token} (hreadable : Readable inner)
    (rest more : List Char) :
    within delimiter inner ++ (ends delimiter).2 :: rest ≠ '/' :: '*' :: more := by
  cases delimiter with
  | parenthesis => exact text_not_comment hreadable (by simp [ends]) more
  | bracket => exact text_not_comment hreadable (by simp [ends]) more
  | brace => cases inner <;> exact fun heq => absurd (List.cons.inj heq).1 (by decide)

theorem reads_within (delimiter : Delimiter) (rest : List Char) {inner : List Token}
    (hinner : ∀ rest, Apart rest → Reads ((text inner).toList ++ rest) inner rest) :
    Reads (within delimiter inner ++ (ends delimiter).2 :: rest) inner
      ((ends delimiter).2 :: rest) := by
  cases delimiter with
  | parenthesis => exact hinner _ (by simp [ends, apart_cons])
  | bracket => exact hinner _ (by simp [ends, apart_cons])
  | brace =>
    cases inner with
    | nil => exact reads_blank
    | cons token next =>
      have hspaced := hinner (' ' :: (ends .brace).2 :: rest) (by simp [apart_cons])
      have hreads := reads_blank.trans (hspaced.trans reads_blank)
      rw [List.append_nil] at hreads
      simpa [within] using hreads

mutual

/-- A token that is no mark, behind which the text goes on apart from it. -/
theorem reads_tree (token : Token) (htree : ReadableTree token)
    (hmark : ∀ c joint, token ≠ .punct c joint) (rest : List Char) (hapart : Apart rest) :
    Reads ((print token).toList ++ rest) [token] rest := by
  match token with
  | .ident name =>
    obtain ⟨first, others, hname, -⟩ := IsWord.exists_start htree
    have hmeans : Means (.word name.toList) (.ident name) := by
      simpa using Means.word name.toList
    exact reads_leaf (by simp [print, hname]) (first?_word htree hapart) hmeans
  | .punct c joint => exact absurd rfl (hmark c joint)
  | .literal text =>
    obtain ⟨⟨first, others, htext, -⟩, hfirst⟩ := htree
    have hmeans : Means (.literal text.toList) (.literal text) := by
      simpa using Means.literal text.toList
    exact reads_leaf (by simp [print, htext]) (hfirst rest hapart) hmeans
  | .group delimiter inner =>
    have hinner := reads_within delimiter rest (reads_text inner htree)
    rw [toList_group]
    simpa using reads_group (within_not_comment htree rest) hinner

/-- The text of readable tokens is read as these tokens. -/
theorem reads_text (tokens : List Token) (hreadable : Readable tokens) (rest : List Char)
    (hapart : Apart rest) : Reads ((text tokens).toList ++ rest) tokens rest := by
  match tokens with
  | [] => simpa [text] using Reads.refl
  | token :: next =>
    have hnext := (reads_followed token).trans (reads_text next hreadable.2.2 rest hapart)
    rw [text_cons]
    by_cases hmark : ∃ c joint, token = .punct c joint
    · obtain ⟨c, joint, rfl⟩ := hmark
      rw [toList_mark]
      exact (reads_mark hreadable hapart).trans hnext
    · have hjoint : isJoint token = false := by
        cases token with
        | punct c joint => exact absurd ⟨c, joint, rfl⟩ hmark
        | ident _ | literal _ | group _ _ => rfl
      have htree := reads_tree token hreadable.1 (fun c joint heq => hmark ⟨c, joint, heq⟩)
        (followed token next rest) (apart_followed hjoint hapart)
      exact htree.trans hnext

end

/-- Printed tokens are read back, wherever their text begins. Blanks may follow. -/
theorem readFrom_text {tokens : List Token} (hreadable : Readable tokens) (position : Position) :
    ∃ trees, readFrom position (text tokens).toList = .ok trees ∧
      Located.tokens trees = tokens := by
  have hreads := reads_text tokens hreadable [] apart_nil
  rw [List.append_nil] at hreads
  exact hreads.exists_readFrom position

/-- A byte order mark is no lexeme. -/
theorem first?_orderMark (cs : List Char) : first? (Char.ofNat 0xfeff :: cs) = none := by
  have hstart : Text.Identifier.isStart (Char.ofNat 0xfeff) = false := by decide +kernel
  have hlength : Literal.length? (Char.ofNat 0xfeff :: cs) = none := by
    rw [Literal.length?, quotedLiteralLength_eq_none (by decide)]
    rfl
  have hword : word? (Char.ofNat 0xfeff :: cs) = none := by
    have hlength : wordLength (Char.ofNat 0xfeff :: cs) = none := by
      simp [wordLength, Literal.identLength, hstart]
    simp [word?, hlength]
  have hmark : mark? (Char.ofNat 0xfeff :: cs) = none := by
    have hplain : isMark (Char.ofNat 0xfeff) = false := by decide
    simp [mark?, beginsWithMark_of_not_isMark hplain]
  have hskipped : isSkipped (Char.ofNat 0xfeff) = false := by decide
  rw [first?_eq (fun heq => absurd heq (by decide)) (by decide), hskipped]
  simp [leaf?, hlength, hword, hmark]

/-- Printed tokens are read back as a text of their own. -/
theorem read_text {tokens : List Token} (hreadable : Readable tokens) :
    ∃ trees, read (text tokens).toList = .ok trees ∧ Located.tokens trees = tokens := by
  obtain ⟨trees, hread, htokens⟩ := readFrom_text hreadable .start
  refine ⟨trees, ?_, htokens⟩
  cases hcs : (text tokens).toList with
  | nil => rwa [hcs] at hread
  | cons c rest =>
    rw [hcs] at hread
    rw [Lexer.read]
    split
    · next hc =>
      obtain rfl : c = Char.ofNat 0xfeff := by
        rw [← Char.ofNat_toNat c, eq_of_beq hc]
      simp [readFrom, run, first?_orderMark] at hread
    · exact hread

end Token

end ServiceGen

/-!
Comments in front of printed tokens. A plain comment ends with its line, whatever it says, and is
passed over with the end of the line.
-/
namespace ServiceGen.Token.Lexer

open Lexeme

variable {taken line rest : List Char}

theorem reads_passed (htaken : taken ≠ [])
    (hfirst : first? (taken ++ rest) = some (.blank, taken.length)) :
    Reads (taken ++ rest) [] rest := by
  intro fuel position stack read hfuel
  obtain ⟨c, others, rfl⟩ := List.exists_cons_of_ne_nil htaken
  rw [List.length_append, List.length_cons] at hfuel
  obtain ⟨fuel, rfl⟩ := Nat.exists_eq_add_one_of_ne_zero (n := fuel) (by omega)
  have hdrop : (c :: others ++ rest).drop (c :: others).length = rest := List.drop_left
  refine ⟨fuel, position.advance (c :: others), [], by omega, rfl, ?_⟩
  rw [List.cons_append] at hfirst hdrop ⊢
  simp only [run, hfirst, hdrop]
  rw [← List.cons_append, List.take_left]
  rfl

theorem reads_lineEnd : Reads ('\n' :: rest) [] rest :=
  reads_passed (List.cons_ne_nil '\n' []) rfl

/-- What belongs to a line, up to a carriage return in front of its end. -/
theorem exists_restOfLine (rest : List Char) (hline : '\n' ∉ line) :
    ∃ kept ending, line = kept ++ ending ∧ restOfLine (line ++ '\n' :: rest) = kept ∧
      (ending = [] ∨ ending = ['\r']) := by
  induction line with
  | nil => exact ⟨[], [], rfl, rfl, .inl rfl⟩
  | cons c line ih =>
    obtain ⟨hc, htail⟩ := not_or.mp (mt List.mem_cons.mpr hline)
    by_cases hend : c = '\r' ∧ line = []
    · obtain ⟨rfl, rfl⟩ := hend
      exact ⟨[], ['\r'], rfl, rfl, .inr rfl⟩
    · obtain ⟨kept, ending, rfl, hrest, hending⟩ := ih htail
      refine ⟨c :: kept, ending, rfl, .trans ?_ (congrArg (c :: ·) hrest), hending⟩
      rw [List.cons_append, restOfLine.eq_def]
      split
      · next heq => exact absurd heq (List.cons_ne_nil _ _)
      · next heq => exact absurd (List.cons.inj heq).1.symm hc
      · next more heq =>
        -- the line goes on behind the carriage return
        obtain ⟨rfl, hmore⟩ := List.cons.inj heq
        cases hall : kept ++ ending with
        | nil => exact absurd ⟨rfl, hall⟩ hend
        | cons d others =>
          rw [hall] at hmore htail
          obtain ⟨rfl, -⟩ := List.cons.inj hmore
          exact absurd List.mem_cons_self htail
      · next heq =>
        obtain ⟨rfl, rfl⟩ := List.cons.inj heq
        rfl

/-- A line that is a comment. -/
theorem reads_comment (hline : '\n' ∉ line) :
    Reads ('/' :: '/' :: ' ' :: (line ++ '\n' :: rest)) [] rest := by
  have hspace : '\n' ∉ ' ' :: line := by simpa using hline
  obtain ⟨kept, ending, hsplit, hrest, hending⟩ := exists_restOfLine rest hspace
  have hfirst : first? ('/' :: '/' :: kept ++ (ending ++ '\n' :: rest)) =
      some (.blank, ('/' :: '/' :: kept).length) := by
    have hjoined : kept ++ (ending ++ '\n' :: rest) = ' ' :: (line ++ '\n' :: rest) := by
      rw [← List.append_assoc, ← hsplit]
      rfl
    have htext : '/' :: '/' :: kept ++ (ending ++ '\n' :: rest) =
        '/' :: '/' :: ' ' :: (line ++ '\n' :: rest) := congrArg ('/' :: '/' :: ·) hjoined
    have hplain : first? ('/' :: '/' :: ' ' :: (line ++ '\n' :: rest)) =
        some (.blank, (restOfLine (' ' :: line ++ '\n' :: rest)).length + 2) := rfl
    rw [htext, hplain, hrest]
    rfl
  have hcomment :
      Reads ('/' :: '/' :: ' ' :: (line ++ '\n' :: rest)) [] (ending ++ '\n' :: rest) := by
    rw [← List.cons_append, hsplit, List.append_assoc, ← List.cons_append, ← List.cons_append]
    exact reads_passed (List.cons_ne_nil _ _) hfirst
  have hending : Reads (ending ++ '\n' :: rest) [] ('\n' :: rest) := by
    obtain rfl | rfl := hending
    · exact .refl
    · exact reads_passed (List.cons_ne_nil _ _) rfl
  exact hcomment.trans (hending.trans reads_lineEnd)

end ServiceGen.Token.Lexer
