import ServiceGen.Grammar.Reader
import ServiceGen.Proofs.Token.Printing

/-!
What readers take. A reader takes some tokens in front of others when it reads exactly these,
whatever was printed before, and then prints what it is said to print. Readers that follow one
another take their tokens one after the other, and the looks ahead in between see what is left.
-/
namespace ServiceGen

namespace Located

variable {trees : List Located} {tokens front back : List Token}

theorem eq_nil_of_tokens (htrees : Located.tokens trees = []) : trees = [] := by
  cases trees with
  | nil => rfl
  | cons tree trees => exact absurd htrees (List.cons_ne_nil _ _)

theorem exists_of_tokens_cons {token : Token} (htrees : Located.tokens trees = token :: back) :
    ∃ tree more, trees = tree :: more ∧ tree.token = token ∧ Located.tokens more = back := by
  cases trees with
  | nil => exact absurd htrees (List.cons_ne_nil _ _).symm
  | cons tree more =>
    obtain ⟨htoken, hmore⟩ := List.cons.inj htrees
    exact ⟨tree, more, rfl, htoken, hmore⟩

theorem exists_of_tokens_append (htrees : Located.tokens trees = front ++ back) :
    ∃ first second, trees = first ++ second ∧ Located.tokens first = front ∧
      Located.tokens second = back := by
  induction front generalizing trees with
  | nil => exact ⟨[], trees, rfl, rfl, htrees⟩
  | cons token front ih =>
    obtain ⟨tree, more, rfl, rfl, hmore⟩ := exists_of_tokens_cons htrees
    obtain ⟨first, second, rfl, rfl, hsecond⟩ := ih hmore
    exact ⟨tree :: first, second, rfl, rfl, hsecond⟩

theorem exists_ident {name : String} (htrees : Located.tokens trees = .ident name :: back) :
    ∃ position more, trees = .ident name position :: more ∧ Located.tokens more = back := by
  obtain ⟨tree, more, rfl, htoken, hmore⟩ := exists_of_tokens_cons htrees
  cases tree <;> simp only [token, Token.ident.injEq, reduceCtorEq] at htoken
  exact ⟨_, more, by rw [htoken], hmore⟩

theorem exists_punct {c : Char} {joint : Bool}
    (htrees : Located.tokens trees = .punct c joint :: back) :
    ∃ position more, trees = .punct c joint position :: more ∧ Located.tokens more = back := by
  obtain ⟨tree, more, rfl, htoken, hmore⟩ := exists_of_tokens_cons htrees
  cases tree <;> simp only [token, Token.punct.injEq, reduceCtorEq] at htoken
  obtain ⟨rfl, rfl⟩ := htoken
  exact ⟨_, more, rfl, hmore⟩

theorem exists_literal {text : String} (htrees : Located.tokens trees = .literal text :: back) :
    ∃ position more, trees = .literal text position :: more ∧ Located.tokens more = back := by
  obtain ⟨tree, more, rfl, htoken, hmore⟩ := exists_of_tokens_cons htrees
  cases tree <;> simp only [token, Token.literal.injEq, reduceCtorEq] at htoken
  exact ⟨_, more, by rw [htoken], hmore⟩

theorem exists_group {delimiter : Delimiter} {inner : List Token}
    (htrees : Located.tokens trees = .group delimiter inner :: back) :
    ∃ inside opening closing more, trees = .group delimiter inside opening closing :: more ∧
      Located.tokens inside = inner ∧ Located.tokens more = back := by
  obtain ⟨tree, more, rfl, htoken, hmore⟩ := exists_of_tokens_cons htrees
  cases tree <;> simp only [token, Token.group.injEq, reduceCtorEq] at htoken
  obtain ⟨rfl, hinside⟩ := htoken
  exact ⟨_, _, _, more, rfl, hinside, hmore⟩

theorem sizes_append (front back : List Located) :
    sizes (front ++ back) = sizes front + sizes back := by
  induction front with
  | nil => rw [List.nil_append, sizes, Nat.zero_add]
  | cons tree rest ih => rw [List.cons_append, sizes, sizes, ih, Nat.add_assoc]

end Located

namespace Grammar

/-- That a reader takes the tokens in front of the others, with an answer and what it prints. -/
def Takes {α : Type} (reader : Reader α) (front rest : List Located) (a : α)
    (printed : List Token) : Prop :=
  ∀ limit stray before, reader ⟨front ++ rest, limit, stray, before⟩ =
    .ok (a, ⟨rest, limit, stray, printed.reverse ++ before⟩)

namespace Takes

variable {α β : Type} {a : α} {b : β} {reader : Reader α} {next : α → Reader β}
  {front back rest : List Located} {printed more : List Token}

theorem pure : Takes (Pure.pure a) [] rest a [] := fun _ _ _ => rfl

theorem bind (hreader : Takes reader front (back ++ rest) a printed)
    (hnext : Takes (next a) back rest b more) :
    Takes (reader >>= next) (front ++ back) rest b (printed ++ more) := by
  intro limit stray before
  have hfirst := hreader limit stray before
  have hsecond := hnext limit stray (printed.reverse ++ before)
  simp only [Bind.bind, StateT.bind, Except.bind]
  rw [List.append_assoc, hfirst]
  simpa using hsecond

theorem cons {tree : Located} (hreader : Takes reader [tree] (back ++ rest) a printed)
    (hnext : Takes (next a) back rest b more) :
    Takes (reader >>= next) (tree :: back) rest b (printed ++ more) := bind hreader hnext

/-- A reader that prints nothing, in front of another. -/
theorem quiet (hreader : Takes reader front (back ++ rest) a [])
    (hnext : Takes (next a) back rest b more) :
    Takes (reader >>= next) (front ++ back) rest b more := bind hreader hnext

/-- A reader that only prints, in front of another. -/
theorem silent (hreader : Takes reader [] (back ++ rest) a printed)
    (hnext : Takes (next a) back rest b more) :
    Takes (reader >>= next) back rest b (printed ++ more) := bind hreader hnext

/-- A reader behind which nothing more is taken. -/
theorem last (hreader : Takes reader front rest a printed) (hnext : Takes (next a) [] rest b []) :
    Takes (reader >>= next) front rest b printed := by
  simpa using bind hreader hnext

/-- A reader that takes nothing, in front of another. -/
theorem skip (hreader : Takes reader [] (front ++ rest) a [])
    (hnext : Takes (next a) front rest b more) : Takes (reader >>= next) front rest b more := by
  simpa using bind hreader hnext

theorem ahead {next : List Located → Reader β}
    (hnext : Takes (next (front ++ rest)) front rest b more) :
    Takes (Reader.ahead >>= next) front rest b more := hnext

theorem here {next : Position → Reader β}
    (hnext : ∀ position, Takes (next position) front rest b more) :
    Takes (Reader.here >>= next) front rest b more := fun limit stray before =>
  hnext (Input.place ⟨front ++ rest, limit, stray, before⟩) limit stray before

theorem atEnd {next : Bool → Reader β}
    (hnext : Takes (next (front ++ rest).isEmpty) front rest b more) :
    Takes (Reader.atEnd >>= next) front rest b more := hnext

theorem yes {other : Reader α} {condition : Bool} (hcondition : condition = true)
    (hreader : Takes reader front rest a printed) :
    Takes (if condition = true then reader else other) front rest a printed := by
  rwa [if_pos hcondition]

theorem no {other : Reader α} {condition : Bool} (hcondition : condition = false)
    (hreader : Takes reader front rest a printed) :
    Takes (if condition = true then other else reader) front rest a printed := by
  rwa [hcondition, if_neg Bool.false_ne_true]

theorem emit (tokens : List Token) : Takes (Reader.emit tokens) [] rest () tokens :=
  fun _ _ _ => rfl

theorem printing (hreader : Takes reader front rest a printed) :
    Takes (Reader.printing reader) front rest (a, printed) [] := by
  intro limit stray before
  have hinner := hreader limit stray []
  simp only [Reader.printing, hinner, List.append_nil, List.reverse_reverse]
  rfl

theorem copyingIf {asks : α → Bool} (hreader : Takes reader front rest a printed)
    (hasks : asks a = false) : Takes (Reader.copyingIf asks reader) front rest a printed := by
  intro limit stray before
  simp only [Reader.copyingIf, hreader limit stray before, hasks]
  rfl

/-- A group is taken by taking all that it holds. -/
theorem group {delimiter : Delimiter} {inside : List Located} {opening closing : Position}
    (hreader : Takes reader inside [] a printed) :
    Takes (Reader.group delimiter reader) [.group delimiter inside opening closing] rest a
      [.group delimiter printed] := by
  intro limit stray before
  have hinner := hreader closing stray []
  rw [List.append_nil, List.append_nil] at hinner
  simp [Reader.group, hinner]

end Takes

/-! Marks and words -/

section

variable {rest : List Located} {c d : Char} {joint : Bool} {position other : Position}
  {operator word name : String}

theorem takes_op (hoperator : operator.toList = [c]) :
    Takes (Reader.op operator) [.punct c joint position] rest () [.punct c false] := by
  intro limit stray before
  have hlength : operator.length = 1 := by
    rw [← String.length_toList, hoperator]
    rfl
  simp [Reader.op, Reader.ahead, Reader.advance, Reader.emit, Ahead.isOp, Ahead.beginsWith,
    Token.ofOperator, hoperator, hlength, Bind.bind, StateT.bind, Except.bind]

theorem takes_op_pair (hoperator : operator.toList = [c, d]) :
    Takes (Reader.op operator) [.punct c true position, .punct d joint other] rest ()
      [.punct c true, .punct d false] := by
  intro limit stray before
  have hlength : operator.length = 2 := by
    rw [← String.length_toList, hoperator]
    rfl
  simp [Reader.op, Reader.ahead, Reader.advance, Reader.emit, Ahead.isOp, Ahead.beginsWith,
    Token.ofOperator, hoperator, hlength, Bind.bind, StateT.bind, Except.bind]

theorem takes_anyIdent :
    Takes Reader.anyIdent [.ident name position] rest name [.ident name] := fun _ _ _ => rfl

theorem takes_ident (hname : Ahead.reserved.contains name = false) :
    Takes Reader.ident [.ident name position] rest name [.ident name] := by
  refine .ahead ?_
  simp only [Ahead.isIdent, List.cons_append, hname]
  exact takes_anyIdent

theorem takes_word : Takes (Reader.word word) [.ident word position] rest () [.ident word] := by
  refine .ahead ?_
  simp only [Ahead.isWord, List.cons_append, beq_self_eq_true, if_true]
  exact takes_anyIdent.last .pure

theorem takes_op? {front : List Located} {printed : List Token}
    (htakes : Takes (Reader.op operator) front rest () printed)
    (his : Ahead.isOp operator (front ++ rest) = true) :
    Takes (Reader.op? operator) front rest true printed := by
  refine .ahead ?_
  rw [his, if_pos rfl]
  exact htakes.last .pure

theorem skips_op? (his : Ahead.isOp operator rest = false) :
    Takes (Reader.op? operator) [] rest false [] := by
  refine .ahead ?_
  rw [List.nil_append, his]
  exact .pure

theorem takes_word? :
    Takes (Reader.word? word) [.ident word position] rest true [.ident word] := by
  refine .ahead ?_
  simp only [Ahead.isWord, List.cons_append, beq_self_eq_true, if_true]
  exact takes_word.last .pure

theorem skips_word? (his : Ahead.isWord word rest = false) :
    Takes (Reader.word? word) [] rest false [] := by
  refine .ahead ?_
  rw [List.nil_append, his]
  exact .pure

theorem takes_lifetime :
    Takes Reader.lifetime [.punct '\'' true position, .ident name other] rest ()
      [.punct '\'' true, .ident name] := fun _ _ _ => rfl

end

/-! Repetition -/

section

variable {σ : Type} {round : σ → Reader (Reader.Round σ)} {state state' state'' : σ}
  {front back rest : List Located} {printed more : List Token}

/-- That the rounds of a repetition take the tokens, if they are at least as many as the tokens. -/
def Repeats (round : σ → Reader (Reader.Round σ)) (state : σ) (front rest : List Located)
    (state' : σ) (printed : List Token) : Prop :=
  ∀ count, front.length < count → Takes (Reader.rounds round count state) front rest state' printed

theorem Repeats.done (hround : Takes (round state) front rest (.done state') printed) :
    Repeats round state front rest state' printed := by
  intro count hcount
  obtain ⟨count, rfl⟩ := Nat.exists_eq_add_one_of_ne_zero (Nat.ne_zero_of_lt hcount)
  exact hround.last .pure

theorem Repeats.again (hfront : front ≠ [])
    (hround : Takes (round state) front (back ++ rest) (.again state') printed)
    (hmore : Repeats round state' back rest state'' more) :
    Repeats round state (front ++ back) rest state'' (printed ++ more) := by
  intro count hcount
  obtain ⟨count, rfl⟩ := Nat.exists_eq_add_one_of_ne_zero (Nat.ne_zero_of_lt hcount)
  have hlength := List.length_pos_iff.mpr hfront
  rw [List.length_append] at hcount
  rw [Reader.rounds]
  exact .bind hround (hmore count (by omega))

theorem Repeats.quiet (hfront : front ≠ [])
    (hround : Takes (round state) front (back ++ rest) (.again state') [])
    (hmore : Repeats round state' back rest state'' more) :
    Repeats round state (front ++ back) rest state'' more := again hfront hround hmore

theorem Repeats.repeating (hrepeats : Repeats round state front rest state' printed) :
    Takes (Reader.repeating state round) front rest state' printed := by
  intro limit stray before
  have hcount : front.length < (front ++ rest).length + 1 := by
    rw [List.length_append]
    omega
  exact hrepeats _ hcount limit stray before

end

end Grammar

end ServiceGen
