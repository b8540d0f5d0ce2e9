import ServiceGen.Proofs.Grammar.Steady

/-!
Parts that are kept as written. A reader that shows a sign in what it prints need not be exact, and
one that copies what it took has to have taken a sign. For the latter it is followed through a
reader which of its answers come with a sign.
-/
namespace ServiceGen.Grammar

open Located Token

variable {α β γ δ σ : Type} {exact : Bool} {R : α → β → Prop} {S : γ → δ → Prop}
  {reader : Reader α} {reader' : Reader β}

/-- That a reader takes tokens from the front, and that all of its answers are of a kind. -/
def Answers (Q : α → Prop) (reader : Reader α) : Prop :=
  ∀ input a after, reader input = .ok (a, after) → Q a ∧ after.rest <:+ input.rest

/-- That a reader which answers what it is asked for has taken a sign. -/
def Signed (asks : α → Bool) (reader : Reader α) : Prop :=
  ∀ input a after, reader input = .ok (a, after) → asks a = true →
    ∃ taken, input.rest = taken ++ after.rest ∧ hasSign (Located.tokens taken) = true

theorem of_bind {next : α → Reader γ} {input after : Input} {c : γ}
    (hrun : (reader >>= next) input = .ok (c, after)) :
    ∃ a between, reader input = .ok (a, between) ∧ next a between = .ok (c, after) := by
  change Except.bind (reader input) (fun answer => next answer.1 answer.2) = _ at hrun
  cases hreader : reader input with
  | error position => simp [hreader, Except.bind] at hrun
  | ok answer => exact ⟨answer.1, answer.2, rfl, by rwa [hreader] at hrun⟩

theorem exists_of_isWord {word : String} {tokens : List Located}
    (hword : Ahead.isWord word tokens = true) :
    ∃ position rest, tokens = .ident word position :: rest := by
  rcases tokens with _ | ⟨⟨name, position⟩ | _ | _ | _, rest⟩
  case cons.ident =>
    obtain rfl : name = word := by simpa [Ahead.isWord] using hword
    exact ⟨position, rest, rfl⟩
  all_goals exact absurd hword (by simp [Ahead.isWord])

theorem exists_of_mark {c : Char} {tokens : List Located}
    (hmark : Ahead.beginsWith [c] tokens = true) :
    ∃ joint position rest, tokens = .punct c joint position :: rest := by
  rcases tokens with _ | ⟨_ | ⟨d, joint, position⟩ | _ | _, rest⟩
  case cons.punct =>
    obtain rfl : c = d := by simpa [Ahead.beginsWith] using hmark
    exact ⟨joint, position, rest, rfl⟩
  all_goals exact absurd hmark (by simp [Ahead.beginsWith])

section

variable {input after : Input} {a : α}

theorem of_op {operator : String} {a : Unit} (hrun : Reader.op operator input = .ok (a, after)) :
    Ahead.isOp operator input.rest = true ∧ after.rest = input.rest.drop operator.length ∧
      after.printed = (ofOperator operator.toList).reverse ++ input.printed := by
  obtain ⟨tokens, between, hahead, hrun⟩ := of_bind hrun
  obtain ⟨rfl, rfl⟩ := Prod.mk.inj (Except.ok.inj hahead)
  split at hrun
  · next his =>
    obtain ⟨_, rfl⟩ := Prod.mk.inj (Except.ok.inj hrun)
    exact ⟨his, rfl, rfl⟩
  · exact absurd hrun (by simp [Reader.fail])

theorem of_op? {operator : String} {answer : Bool}
    (hrun : Reader.op? operator input = .ok (answer, after)) :
    (answer = true ∧ Reader.op operator input = .ok ((), after)) ∨
      answer = false ∧ after = input := by
  obtain ⟨tokens, between, hahead, hrun⟩ := of_bind hrun
  obtain ⟨rfl, rfl⟩ := Prod.mk.inj (Except.ok.inj hahead)
  split at hrun
  · obtain ⟨_, _, hop, hanswer⟩ := of_bind hrun
    obtain ⟨rfl, rfl⟩ := Prod.mk.inj (Except.ok.inj hanswer)
    exact .inl ⟨rfl, hop⟩
  · obtain ⟨rfl, rfl⟩ := Prod.mk.inj (Except.ok.inj hrun)
    exact .inr ⟨rfl, rfl⟩

theorem of_anyIdent {name : String} (hrun : Reader.anyIdent input = .ok (name, after)) :
    ∃ position, input.rest = .ident name position :: after.rest ∧
      after.printed = .ident name :: input.printed := by
  unfold Reader.anyIdent at hrun
  split at hrun
  · next position rest hrest =>
    obtain ⟨rfl, rfl⟩ := Prod.mk.inj (Except.ok.inj hrun)
    exact ⟨position, hrest, rfl⟩
  · exact absurd hrun (by simp)

theorem of_word {text : String} {a : Unit} (hrun : Reader.word text input = .ok (a, after)) :
    ∃ position, input.rest = .ident text position :: after.rest ∧
      after.printed = .ident text :: input.printed := by
  obtain ⟨tokens, between, hahead, hrun⟩ := of_bind hrun
  obtain ⟨rfl, rfl⟩ := Prod.mk.inj (Except.ok.inj hahead)
  split at hrun
  · next his =>
    obtain ⟨name, between, hident, hrun⟩ := of_bind hrun
    obtain ⟨_, rfl⟩ := Prod.mk.inj (Except.ok.inj hrun)
    obtain ⟨position, hrest, hprinted⟩ := of_anyIdent hident
    have hname : name = text := by simpa [hrest, Ahead.isWord] using his
    exact ⟨position, hname ▸ hrest, hname ▸ hprinted⟩
  · exact absurd hrun (by simp [Reader.fail])

theorem of_group {delimiter : Delimiter}
    (hrun : Reader.group delimiter reader input = .ok (a, after)) :
    ∃ inner opening closing within,
      input.rest = .group delimiter inner opening closing :: after.rest ∧
      reader ⟨inner, closing, input.stray, []⟩ = .ok (a, within) ∧
      after.printed = .group delimiter within.printed.reverse :: input.printed := by
  unfold Reader.group at hrun
  split at hrun
  · next d inner opening closing rest hrest =>
    split at hrun
    · next hdelimiter =>
      obtain rfl : d = delimiter := by simpa using hdelimiter
      split at hrun
      · exact absurd hrun (by simp)
      · next answer within hinner =>
        obtain ⟨rfl, rfl⟩ := Prod.mk.inj (Except.ok.inj hrun)
        exact ⟨inner, opening, closing, within, hrest, hinner, rfl⟩
    · exact absurd hrun (by simp)
  · exact absurd hrun (by simp)

theorem of_rawGroup {delimiter : Delimiter}
    (hrun : Reader.rawGroup input = .ok (delimiter, after)) :
    ∃ inner opening closing, input.rest = .group delimiter inner opening closing :: after.rest ∧
      after.printed = .group delimiter (Located.tokens inner) :: input.printed := by
  unfold Reader.rawGroup at hrun
  split at hrun
  · next d inner opening closing rest hrest =>
    obtain ⟨rfl, rfl⟩ := Prod.mk.inj (Except.ok.inj hrun)
    exact ⟨inner, opening, closing, hrest, rfl⟩
  · exact absurd hrun (by simp)

end

/-- A steady reader has some answer or other. -/
theorem Steady.answers (hreader : Steady false R reader reader') :
    Answers (fun _ => True) reader :=
  fun _ _ _ hrun => ⟨trivial, (hreader.suffix hrun).1⟩

namespace Answers

variable {P Q : α → Prop} {T : γ → Prop}

theorem pure {a : α} (ha : Q a) : Answers Q (Pure.pure a) := by
  rintro input b after hrun
  obtain ⟨rfl, rfl⟩ := Prod.mk.inj (Except.ok.inj hrun)
  exact ⟨ha, List.suffix_refl _⟩

theorem any {a : α} : Answers (fun _ => True) (Pure.pure a) := pure trivial

theorem bind {next : α → Reader γ} (hreader : Answers P reader)
    (hnext : ∀ a, P a → Answers T (next a)) : Answers T (reader >>= next) := by
  intro input c after hrun
  obtain ⟨a, between, hfirst, hsecond⟩ := of_bind hrun
  obtain ⟨ha, hrest⟩ := hreader input a between hfirst
  obtain ⟨hc, hrest'⟩ := hnext a ha between c after hsecond
  exact ⟨hc, hrest'.trans hrest⟩

/-- Whatever comes first, the last reader answers. -/
theorem last {next : α → Reader γ} (hreader : Answers P reader)
    (hnext : ∀ a, Answers T (next a)) : Answers T (reader >>= next) :=
  hreader.bind fun a _ => hnext a

theorem ahead {next : List Located → Reader γ} (hnext : ∀ tokens, Answers T (next tokens)) :
    Answers T (Reader.ahead >>= next) := fun input => hnext _ input

theorem here {next : Position → Reader γ} (hnext : ∀ position, Answers T (next position)) :
    Answers T (Reader.here >>= next) := fun input => hnext _ input

theorem ite {condition : Prop} [Decidable condition] {other : Reader α}
    (hreader : Answers Q reader) (hother : Answers Q other) :
    Answers Q (if condition then reader else other) := by
  split
  · exact hreader
  · exact hother

theorem failAt (position : Position) : Answers Q (Reader.failAt position) :=
  fun _ _ _ hrun => absurd hrun (by simp [Reader.failAt])

theorem failFirst (position : Position) (next : α → Reader γ) :
    Answers T (Reader.failAt position >>= next) :=
  bind (P := fun _ => False) (failAt position) fun _ => False.elim

theorem fail : Answers Q Reader.fail := fun _ _ _ hrun => absurd hrun (by simp [Reader.fail])

theorem emit (tokens : List Token) : Answers (fun _ => True) (Reader.emit tokens) := by
  intro input _ after hrun
  obtain ⟨-, rfl⟩ := Prod.mk.inj (Except.ok.inj hrun)
  exact ⟨trivial, List.suffix_refl _⟩

/-- That the state behind a round is of a kind. -/
def Kept (I : σ → Prop) : Reader.Round σ → Prop
  | .again state => I state
  | .done state => I state

theorem rounds {I : σ → Prop} {round : σ → Reader (Reader.Round σ)} (count : Nat) {state : σ}
    (hround : ∀ state, I state → Answers (Kept I) (round state)) (hstate : I state) :
    Answers I (Reader.rounds round count state) := by
  induction count generalizing state with
  | zero => exact pure hstate
  | succ count ih =>
    refine bind (hround state hstate) fun next hnext => ?_
    cases next with
    | again next => exact ih hnext
    | done next => exact pure hnext

/-- What every round keeps is kept by a repetition. -/
theorem repeating {I : σ → Prop} {round : σ → Reader (Reader.Round σ)} {state : σ}
    (hround : ∀ state, I state → Answers (Kept I) (round state)) (hstate : I state) :
    Answers I (Reader.repeating state round) :=
  fun input => rounds _ hround hstate input

end Answers

namespace Signed

variable {asks : α → Bool} {asks' : γ → Bool}

theorem never (hreader : Answers (asks · = false) reader) : Signed asks reader :=
  fun input a after hrun hasks => absurd hasks (by simp [(hreader input a after hrun).1])

theorem ite {condition : Prop} [Decidable condition] {other : Reader α}
    (hreader : Signed asks reader) (hother : Signed asks other) :
    Signed asks (if condition then reader else other) := by
  split
  · exact hreader
  · exact hother

/-- A sign that is taken second. -/
theorem second {P : α → Prop} {next : α → Reader γ} (hreader : Answers P reader)
    (hnext : ∀ a, Signed asks' (next a)) : Signed asks' (reader >>= next) := by
  intro input c after hrun hasks
  obtain ⟨a, between, hfirst, hsecond⟩ := of_bind hrun
  obtain ⟨front, hfront⟩ := (hreader _ _ _ hfirst).2
  obtain ⟨taken, htaken, hsign⟩ := hnext a between c after hsecond hasks
  refine ⟨front ++ taken, by rw [List.append_assoc, ← htaken, hfront], ?_⟩
  rw [tokens_append]
  exact hasSign_append_right _ hsign

/-- A sign that is taken first, if what comes behind it does not answer by itself. -/
theorem first {next : α → Reader γ} (hreader : Signed asks reader)
    (hnext : ∀ a, Answers (fun c => asks' c = true → asks a = true) (next a)) :
    Signed asks' (reader >>= next) := by
  intro input c after hrun hasks'
  obtain ⟨a, between, hfirst, hsecond⟩ := of_bind hrun
  obtain ⟨hasks, back, hback⟩ := hnext a _ _ _ hsecond
  obtain ⟨taken, htaken, hsign⟩ := hreader input a between hfirst (hasks hasks')
  refine ⟨taken ++ back, by rw [List.append_assoc, hback, htaken], ?_⟩
  rw [tokens_append]
  exact hasSign_append_left hsign _

theorem ahead {next : List Located → Reader γ} (hnext : ∀ tokens, Signed asks' (next tokens)) :
    Signed asks' (Reader.ahead >>= next) := fun input => hnext _ input

theorem here {next : Position → Reader γ} (hnext : ∀ position, Signed asks' (next position)) :
    Signed asks' (Reader.here >>= next) := fun input => hnext _ input

/-- A sign that is taken in any case, in front of something else. -/
theorem front {P : γ → Prop} {next : α → Reader γ} (hreader : Signed (fun _ => true) reader)
    (hnext : ∀ a, Answers P (next a)) : Signed asks' (reader >>= next) :=
  first hreader fun a input c after hrun => ⟨fun _ => rfl, (hnext a input c after hrun).2⟩

theorem group (delimiter : Delimiter) (hreader : Signed asks reader) :
    Signed asks (Reader.group delimiter reader) := by
  intro input a after hrun hasks
  obtain ⟨inner, opening, closing, within, hrest, hinner, -⟩ := of_group hrun
  obtain ⟨taken, htaken, hsign⟩ := hreader _ _ _ hinner hasks
  have hinside : hasSign (Located.tokens inner) = true := by
    rw [show inner = taken ++ within.rest from htaken, tokens_append]
    exact hasSign_append_left hsign _
  refine ⟨[.group delimiter inner opening closing], hrest, ?_⟩
  cases delimiter <;> simp [Located.tokens, Located.token, hasSign, isSign, hinside]

/-- A word that is a sign. -/
theorem word {asks : Unit → Bool} {text : String} (htext : isSign (.ident text) = true) :
    Signed asks (Reader.word text) := by
  intro input a after hrun _
  obtain ⟨position, hrest, -⟩ := of_word hrun
  exact ⟨[.ident text position], hrest, by rw [Located.tokens, hasSign, Located.token, htext]; rfl⟩

theorem word? {text : String} (htext : isSign (.ident text) = true) :
    Signed id (Reader.word? text) :=
  .ahead fun _ =>
    .ite (.front (.word htext) fun _ => .any) (.never (.pure rfl))

/-- Two words side by side that are a sign. -/
theorem words {P : γ → Prop} {text text' : String} {next : Unit → Reader γ}
    (hopens : opensKept (.ident text) [.ident text'] = true) (hnext : ∀ a, Answers P (next a)) :
    Signed asks' (Reader.word text >>= fun _ => Reader.word text' >>= next) := by
  intro input c after hrun _
  obtain ⟨_, between, hfirst, hrun⟩ := of_bind hrun
  obtain ⟨u, between', hsecond, hrun⟩ := of_bind hrun
  obtain ⟨position, hrest, -⟩ := of_word hfirst
  obtain ⟨position', hrest', -⟩ := of_word hsecond
  obtain ⟨front, hfront⟩ := (hnext u _ _ _ hrun).2
  refine ⟨.ident text position :: .ident text' position' :: front, ?_, ?_⟩
  · rw [hrest, hrest', ← hfront]
    rfl
  · have hpair := opensKept_append hopens (Located.tokens front)
    rw [Located.tokens, Located.tokens, hasSign, Bool.or_eq_true, Bool.or_eq_true]
    exact .inl (.inr hpair)

/-- The mark in front of what a compiler provides is a sign. -/
theorem hash {asks : Unit → Bool} : Signed asks (Reader.op "#") := by
  intro input a after hrun _
  obtain ⟨his, hrest, -⟩ := of_op hrun
  obtain ⟨joint, position, rest, hinput⟩ :=
    exists_of_mark (c := '#') (by simpa [Ahead.isOp] using his)
  exact ⟨[.punct '#' joint position], by rw [hrest, hinput]; rfl, rfl⟩

/-- A word with an asterisk behind it that are a sign, where the asterisk is there. -/
theorem starred {text : String} {next : Bool → Reader γ}
    (hopens : opensKept (.ident text) [.punct '*' false] = true)
    (hnext : ∀ starred, Answers (fun c => asks' c = true → starred = true) (next starred)) :
    Signed asks' (Reader.word text >>= fun _ => Reader.op? "*" >>= next) := by
  intro input c after hrun hasks
  obtain ⟨_, between, hfirst, hrun⟩ := of_bind hrun
  obtain ⟨position, hinput, -⟩ := of_word hfirst
  obtain ⟨starred, between', hstar, hrun⟩ := of_bind hrun
  obtain ⟨hstarred, front, hfront⟩ := hnext starred _ _ _ hrun
  rcases of_op? hstar with ⟨-, hop⟩ | ⟨rfl, -⟩
  · obtain ⟨his, hrest, -⟩ := of_op hop
    obtain ⟨joint, position', rest, hstar⟩ :=
      exists_of_mark (c := '*') (by simpa [Ahead.isOp] using his)
    refine ⟨.ident text position :: .punct '*' joint position' :: front, ?_, ?_⟩
    · rw [hinput, List.cons_append, List.cons_append, hfront, hrest, hstar]
      rfl
    · have hpair :
          opensKept (.ident text) (.punct '*' joint :: Located.tokens front) = true := hopens
      rw [Located.tokens, Located.tokens, hasSign, Bool.or_eq_true, Bool.or_eq_true]
      exact .inl (.inr hpair)
  · exact absurd (hstarred hasks) (by decide)

/-- Copying what was taken takes nothing else. -/
theorem copying {asks : α → Bool} (hreader : Signed asks reader) :
    Signed asks (Reader.copying reader) := by
  intro input a after hrun hasks
  rw [Reader.copying, Reader.copyingIf] at hrun
  split at hrun
  · exact absurd hrun (by simp)
  · next answer between hok =>
    rw [if_pos rfl] at hrun
    obtain ⟨rfl, rfl⟩ := Prod.mk.inj (Except.ok.inj hrun)
    exact hreader input answer between hok hasks

end Signed

namespace Steady

/-- Where a sign is printed, nothing has to be exact. -/
theorem ofSign (hreader : Steady false R reader reader')
    (hsign : ∀ input a after, reader input = .ok (a, after) →
      hasSign after.printed.reverse = true) : Steady exact R reader reader' := by
  intro input input' halike
  obtain ⟨_, _, hrun, hrun'⟩
    | ⟨a, after, b, after', hrun, hrun', hanswer, hafter, hrest, hprinted⟩ :=
    hreader.run halike.inexact
  · rw [hrun, hrun']
    exact .error _ _
  · rw [hrun, hrun']
    refine .ok hanswer ⟨hafter.rest, hafter.stray, ?_⟩ hrest hprinted
    exact hafter.printed.of_sign (hsign input a after hrun)

/-- What follows a sign need not be exact. -/
theorem behindSign {next : α → Reader γ} {next' : β → Reader δ}
    (hreader : Steady false R reader reader')
    (hsign : ∀ input a after, reader input = .ok (a, after) →
      hasSign after.printed.reverse = true)
    (hnext : ∀ a b, R a b → Steady false S (next a) (next' b)) :
    Steady exact S (reader >>= next) (reader' >>= next') := by
  refine ofSign (.bind hreader hnext) fun input c after hrun => ?_
  obtain ⟨a, between, hfirst, hsecond⟩ := of_bind hrun
  obtain ⟨_, _, herror, -⟩ | ⟨_, _, b, _, hok, -, hanswer, -⟩ := hreader.run (.refl input)
  · exact absurd (herror.symm.trans hfirst) (by simp)
  · obtain ⟨rfl, rfl⟩ := Prod.mk.inj (Except.ok.inj (hok.symm.trans hfirst))
    obtain ⟨more, hmore⟩ := ((hnext _ b hanswer).suffix hsecond).2
    rw [← hmore, List.reverse_append]
    exact hasSign_append_left (hsign input _ _ hfirst) _

/-- What is copied is exact if a sign is copied with it. -/
theorem copyingIf {asks : α → Bool} {asks' : β → Bool} (hreader : Steady exact R reader reader')
    (hasks : ∀ a b, R a b → asks a = asks' b) (hsigned : exact = true → Signed asks reader) :
    Steady exact R (Reader.copyingIf asks reader) (Reader.copyingIf asks' reader') := by
  intro input input' halike
  obtain ⟨_, _, hrun, hrun'⟩
    | ⟨a, after, b, after', hrun, hrun', hanswer, hafter, hrest, hprinted⟩ :=
    hreader.run halike
  · simp only [Reader.copyingIf, hrun, hrun']
    exact .error _ _
  · simp only [Reader.copyingIf, hrun, hrun', ← hasks a b hanswer]
    split
    · next hask =>
      have hprints : Prints exact
          (Located.tokens (input.rest.take (input.rest.length - after.rest.length)))
          (Located.tokens (input'.rest.take (input'.rest.length - after'.rest.length))) := by
        rw [← halike.length_rest, ← hafter.length_rest]
        refine ⟨?_, fun hexact => .inr ?_⟩
        · rw [tokens_eq_map, tokens_eq_map, List.map_take, List.map_take, ← tokens_eq_map,
            ← tokens_eq_map]
          exact ((Prints.of_bareAll halike.rest).take _).loose
        · obtain ⟨taken, htaken, hsign⟩ := hsigned hexact input a after hrun hask
          rw [htaken, List.length_append, Nat.add_sub_cancel, List.take_left]
          exact hsign
      exact .ok hanswer ⟨hafter.rest, hafter.stray, (halike.emit hprints).printed⟩ hrest
        (List.suffix_append _ _)
    · exact .ok hanswer hafter hrest hprinted

theorem copying (hreader : Steady exact R reader reader')
    (hsigned : exact = true → Signed (fun _ => true) reader) :
    Steady exact R (Reader.copying reader) (Reader.copying reader') :=
  copyingIf hreader (fun _ _ _ => rfl) hsigned

/-- The mark in front of an attribute is a sign. -/
theorem hash {next : Unit → Reader γ} {next' : Unit → Reader δ}
    (hnext : Steady false S (next ()) (next' ())) :
    Steady exact S (Reader.op "#" >>= next) (Reader.op "#" >>= next') := by
  refine behindSign (.op (by decide)) (fun input _ after hrun => ?_) fun _ _ _ => hnext
  rw [(of_op hrun).2.2, List.reverse_append]
  exact hasSign_append_right _ (by decide)

/-- A call of a macro is a sign. -/
theorem call {next : Delimiter → Reader γ} {next' : Delimiter → Reader δ}
    (hnext : ∀ delimiter, Steady exact S (next delimiter) (next' delimiter)) :
    Steady exact S (Reader.op "!" >>= fun _ => Reader.rawGroup >>= next)
      (Reader.op "!" >>= fun _ => Reader.rawGroup >>= next') := by
  have hcall : Steady exact Eq (Reader.op "!" >>= fun _ => Reader.rawGroup)
      (Reader.op "!" >>= fun _ => Reader.rawGroup) := by
    refine ofSign (.andThen (.op (by decide)) fun _ => .rawGroup)
      fun input delimiter after hrun => ?_
    obtain ⟨_, between, hop, hgroup⟩ := of_bind hrun
    obtain ⟨inner, _, _, -, hprinted⟩ := of_rawGroup hgroup
    rw [hprinted, (of_op hop).2.2, List.reverse_cons, List.reverse_append, List.append_assoc]
    exact hasSign_append_right _ (by simp [ofOperator, hasSign, opensKept])
  simpa only [bind_assoc] using hcall.andThen hnext

end Steady

end ServiceGen.Grammar
