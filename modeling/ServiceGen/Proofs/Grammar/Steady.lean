import Mathlib.Data.List.Forall2
import ServiceGen.Grammar.Reader
import ServiceGen.Proofs.Token.Layout

/-!
Reading does not depend on layout. Two runs of a steady reader on inputs that differ in layout only
both fail, or both succeed with answers that belong together and inputs that again differ in layout
only. Whatever is put together of steady readers is steady.

What a run prints can depend on layout where a part is kept as written. A run that is to be exact
has to show a sign of that in what it prints.
-/
namespace ServiceGen.Grammar

open Located Token

/-- That two inputs differ in layout only, and in whether marks are joined that were printed. -/
structure Input.Alike (exact : Bool) (input input' : Input) : Prop where
  rest : bareAll input.rest = bareAll input'.rest
  stray : input.stray.isSome = input'.stray.isSome
  printed : Prints exact input.printed.reverse input'.printed.reverse

/-- That two runs, of which the first one began with the given input, both failed, or succeeded with
answers that belong together and with inputs that differ in layout only. -/
inductive Agree {α β : Type} (exact : Bool) (R : α → β → Prop) (input : Input) :
    Except Position (α × Input) → Except Position (β × Input) → Prop
  | error (position position' : Position) : Agree exact R input (.error position) (.error position')
  | ok {a : α} {b : β} {after after' : Input} (answer : R a b) (alike : after.Alike exact after')
    (rest : after.rest <:+ input.rest) (printed : input.printed <:+ after.printed) :
    Agree exact R input (.ok (a, after)) (.ok (b, after'))

/-- That two readers, mostly one and the same, do not depend on layout. -/
def Steady {α β : Type} (exact : Bool) (R : α → β → Prop) (reader : Reader α)
    (reader' : Reader β) : Prop :=
  ∀ input input', input.Alike exact input' → Agree exact R input (reader input) (reader' input')

namespace Input.Alike

variable {exact : Bool} {input input' : Input}

theorem refl (input : Input) : input.Alike exact input := ⟨rfl, rfl, .refl _⟩

theorem inexact (halike : input.Alike exact input') : input.Alike false input' :=
  ⟨halike.rest, halike.stray, halike.printed.inexact⟩

theorem length_rest (halike : input.Alike exact input') :
    input.rest.length = input'.rest.length := by
  rw [← length_bareAll, halike.rest, length_bareAll]

/-- What is left over in a group is left over in both. -/
theorem isSome_left (halike : input.Alike exact input') :
    (input.stray <|> input.rest.head?.map Located.position).isSome =
      (input'.stray <|> input'.rest.head?.map Located.position).isSome := by
  have hlength := halike.length_rest
  have hhead : input.rest.head?.isSome = input'.rest.head?.isSome := by
    cases hrest : input.rest <;> cases hrest' : input'.rest <;> simp_all
  simp [halike.stray, hhead]

/-- Printing more leaves inputs alike. -/
theorem emit {tokens tokens' : List Token} (halike : input.Alike exact input')
    (hprints : Prints exact tokens tokens') :
    Input.Alike exact { input with printed := tokens.reverse ++ input.printed }
      { input' with printed := tokens'.reverse ++ input'.printed } := by
  refine ⟨halike.rest, halike.stray, ?_⟩
  simpa using halike.printed.append hprints

theorem drop (halike : input.Alike exact input') (count : Nat) :
    Input.Alike exact { input with rest := input.rest.drop count }
      { input' with rest := input'.rest.drop count } := by
  refine ⟨?_, halike.stray, halike.printed⟩
  rw [← drop_bareAll, halike.rest, drop_bareAll]

end Input.Alike

namespace Steady

variable {α β γ δ σ τ : Type} {exact : Bool} {R : α → β → Prop} {S : γ → δ → Prop}
  {reader : Reader α} {reader' : Reader β}

/-- Either both runs fail, or both succeed. -/
theorem run (hreader : Steady exact R reader reader') {input input' : Input}
    (halike : input.Alike exact input') :
    (∃ position position', reader input = .error position ∧ reader' input' = .error position') ∨
      ∃ a after b after', reader input = .ok (a, after) ∧ reader' input' = .ok (b, after') ∧ R a b ∧
        after.Alike exact after' ∧ after.rest <:+ input.rest ∧ input.printed <:+ after.printed := by
  have hagree := hreader input input' halike
  generalize reader input = outcome at hagree
  generalize reader' input' = outcome' at hagree
  cases hagree with
  | error position position' => exact .inl ⟨position, position', rfl, rfl⟩
  | ok answer alike rest printed => exact .inr ⟨_, _, _, _, rfl, rfl, answer, alike, rest, printed⟩

theorem mono {Q : α → β → Prop} (hreader : Steady exact R reader reader')
    (himp : ∀ a b, R a b → Q a b) : Steady exact Q reader reader' := by
  intro input input' halike
  obtain ⟨_, _, hrun, hrun'⟩
    | ⟨a, after, b, after', hrun, hrun', hanswer, hafter, hrest, hprinted⟩ :=
    hreader.run halike
  · rw [hrun, hrun']
    exact .error _ _
  · rw [hrun, hrun']
    exact .ok (himp a b hanswer) hafter hrest hprinted

/-- A steady reader takes tokens from the front, and prints behind what was printed. -/
theorem suffix {a : α} {input after : Input} (hreader : Steady exact R reader reader')
    (hrun : reader input = .ok (a, after)) :
    after.rest <:+ input.rest ∧ input.printed <:+ after.printed := by
  obtain ⟨_, _, herror, -⟩ | ⟨_, _, _, _, hok, -, -, -, hrest, hprinted⟩ :=
    hreader.run (.refl input)
  · exact absurd (herror.symm.trans hrun) (by simp)
  · obtain ⟨-, rfl⟩ := Prod.mk.inj (Except.ok.inj (hok.symm.trans hrun))
    exact ⟨hrest, hprinted⟩

/-! Putting readers together -/

theorem pure {a : α} {b : β} (hanswer : R a b) : Steady exact R (Pure.pure a) (Pure.pure b) :=
  fun _ _ halike => .ok hanswer halike (List.suffix_refl _) (List.suffix_refl _)

theorem bind {next : α → Reader γ} {next' : β → Reader δ} (hreader : Steady exact R reader reader')
    (hnext : ∀ a b, R a b → Steady exact S (next a) (next' b)) :
    Steady exact S (reader >>= next) (reader' >>= next') := by
  intro input input' halike
  change Agree exact S input (Except.bind (reader input) fun answer => next answer.1 answer.2)
    (Except.bind (reader' input') fun answer => next' answer.1 answer.2)
  obtain ⟨_, _, hrun, hrun'⟩
    | ⟨a, after, b, after', hrun, hrun', hanswer, hafter, hrest, hprinted⟩ :=
    hreader.run halike
  · rw [hrun, hrun']
    exact .error _ _
  · rw [hrun, hrun', Except.bind, Except.bind]
    obtain ⟨_, _, hmore, hmore'⟩ | ⟨_, _, _, _, hmore, hmore', hlast, hend, hrest', hprinted'⟩ :=
      (hnext a b hanswer).run hafter
    · rw [hmore, hmore']
      exact .error _ _
    · rw [hmore, hmore']
      exact .ok hlast hend (hrest'.trans hrest) (hprinted.trans hprinted')

/-- A reader whose answer does not depend on layout, in front of another. -/
theorem andThen {reader reader' : Reader α} {next : α → Reader γ} {next' : α → Reader δ}
    (hreader : Steady exact Eq reader reader')
    (hnext : ∀ a, Steady exact S (next a) (next' a)) :
    Steady exact S (reader >>= next) (reader' >>= next') :=
  hreader.bind fun a _ heq => heq ▸ hnext a

theorem ite {condition : Prop} [Decidable condition] {other : Reader α} {other' : Reader β}
    (hreader : Steady exact R reader reader') (hother : Steady exact R other other') :
    Steady exact R (if condition then reader else other)
      (if condition then reader' else other') := by
  split
  · exact hreader
  · exact hother

theorem iteSame {condition condition' : Bool} (hcondition : condition = condition')
    {other : Reader α} {other' : Reader β} (hreader : Steady exact R reader reader')
    (hother : Steady exact R other other') :
    Steady exact R (if condition = true then reader else other)
      (if condition' = true then reader' else other') := hcondition ▸ .ite hreader hother

theorem map {Q : γ → δ → Prop} {f : α → γ} {f' : β → δ} (hreader : Steady exact R reader reader')
    (hanswer : ∀ a b, R a b → Q (f a) (f' b)) : Steady exact Q (f <$> reader) (f' <$> reader') := by
  rw [map_eq_pure_bind, map_eq_pure_bind]
  exact hreader.bind fun a b hab => .pure (hanswer a b hab)

theorem discard (hreader : Steady exact R reader reader') :
    Steady exact Eq (discard reader) (discard reader') :=
  hreader.bind fun _ _ _ => .pure rfl

/-! Looking ahead and failing -/

theorem failAt (position position' : Position) :
    Steady exact R (Reader.failAt position) (Reader.failAt position') :=
  fun _ _ _ => .error _ _

theorem fail : Steady exact R Reader.fail Reader.fail := fun _ _ _ => .error _ _

theorem failBefore (tokens tokens' : List Located) :
    Steady exact R (Reader.failBefore tokens) (Reader.failBefore tokens') :=
  fun _ _ _ => .error _ _

theorem look {next : List Located → Reader γ} {next' : List Located → Reader δ}
    (hnext : ∀ tokens tokens', bareAll tokens = bareAll tokens' →
      Steady exact S (next tokens) (next' tokens')) :
    Steady exact S (Reader.ahead >>= next) (Reader.ahead >>= next') :=
  fun input input' halike => hnext _ _ halike.rest input input' halike

/-- Looking ahead for nothing but what belongs to the sequence. -/
theorem ahead {next : List Located → Reader γ} {next' : List Located → Reader δ}
    (hseen : ∀ tokens, next' (bareAll tokens) = next' tokens)
    (hnext : ∀ tokens, Steady exact S (next tokens) (next' tokens)) :
    Steady exact S (Reader.ahead >>= next) (Reader.ahead >>= next') := by
  refine look fun tokens tokens' hsame => ?_
  rw [← hseen tokens', ← hsame, hseen]
  exact hnext tokens

theorem here {next : Position → Reader γ} {next' : Position → Reader δ}
    (hnext : ∀ position position', Steady exact S (next position) (next' position')) :
    Steady exact S (Reader.here >>= next) (Reader.here >>= next') :=
  fun input input' halike => hnext _ _ input input' halike

theorem atEnd : Steady exact Eq Reader.atEnd Reader.atEnd := by
  intro input input' halike
  refine .ok ?_ halike (List.suffix_refl _) (List.suffix_refl _)
  rw [← isEmpty_bareAll, halike.rest, isEmpty_bareAll]

theorem advance (count : Nat) : Steady exact Eq (Reader.advance count) (Reader.advance count) :=
  fun _ _ halike => .ok rfl (halike.drop count) (List.drop_suffix _ _) (List.suffix_refl _)

theorem emit {tokens tokens' : List Token} (hprints : Prints exact tokens tokens') :
    Steady exact Eq (Reader.emit tokens) (Reader.emit tokens') :=
  fun _ _ halike => .ok rfl (halike.emit hprints) (List.suffix_refl _) (List.suffix_append _ _)

/-- What is printed to the caller may be exact, whatever is printed else. -/
theorem printingApart {within : Bool} (hreader : Steady within R reader reader') :
    Steady exact (fun answer answer' => R answer.1 answer'.1 ∧ Prints within answer.2 answer'.2)
      (Reader.printing reader) (Reader.printing reader') := by
  intro input input' halike
  have hstart : Input.Alike within { input with printed := [] } { input' with printed := [] } :=
    ⟨halike.rest, halike.stray, .refl _⟩
  obtain ⟨_, _, hrun, hrun'⟩ | ⟨a, after, b, after', hrun, hrun', hanswer, hafter, hrest, -⟩ :=
    hreader.run hstart
  · simp only [Reader.printing, hrun, hrun']
    exact .error _ _
  · simp only [Reader.printing, hrun, hrun']
    exact .ok ⟨hanswer, hafter.printed⟩ ⟨hafter.rest, hafter.stray, halike.printed⟩ hrest
      (List.suffix_refl _)

theorem printing (hreader : Steady exact R reader reader') :
    Steady exact (fun answer answer' => R answer.1 answer'.1 ∧ Prints exact answer.2 answer'.2)
      (Reader.printing reader) (Reader.printing reader') := printingApart hreader

/-- A reader that prints to the caller, in front of another. -/
theorem andPrinting {next : α × List Token → Reader γ} {next' : β × List Token → Reader δ}
    (hreader : Steady exact R reader reader')
    (hnext : ∀ a b tokens tokens', R a b → Prints exact tokens tokens' →
      Steady exact S (next (a, tokens)) (next' (b, tokens'))) :
    Steady exact S (Reader.printing reader >>= next) (Reader.printing reader' >>= next') :=
  .bind (.printing hreader) fun _ _ ⟨hanswer, hprints⟩ => hnext _ _ _ _ hanswer hprints

theorem attempt (hreader : Steady exact R reader reader') :
    Steady exact (Option.Rel R) (Reader.attempt reader) (Reader.attempt reader') := by
  intro input input' halike
  obtain ⟨_, _, hrun, hrun'⟩
    | ⟨a, after, b, after', hrun, hrun', hanswer, hafter, hrest, hprinted⟩ :=
    hreader.run halike
  · simp only [Reader.attempt, hrun, hrun']
    exact .ok .none halike (List.suffix_refl _) (List.suffix_refl _)
  · simp only [Reader.attempt, hrun, hrun']
    exact .ok (.some hanswer) hafter hrest hprinted

theorem peeking (hreader : Steady exact R reader reader') :
    Steady exact (fun answer answer' => R answer.1 answer'.1 ∧
      bareAll answer.2 = bareAll answer'.2) (Reader.peeking reader) (Reader.peeking reader') := by
  intro input input' halike
  obtain ⟨_, _, hrun, hrun'⟩ | ⟨a, after, b, after', hrun, hrun', hanswer, hafter, -⟩ :=
    hreader.run halike
  · simp only [Reader.peeking, hrun, hrun']
    exact .error _ _
  · simp only [Reader.peeking, hrun, hrun']
    exact .ok ⟨hanswer, hafter.rest⟩ halike (List.suffix_refl _) (List.suffix_refl _)

/-! Tokens -/

theorem op {operator : String} (hoperator : Ahead.Adjoined operator.toList) :
    Steady exact Eq (Reader.op operator) (Reader.op operator) :=
  .ahead (fun tokens => by simp [hoperator]) fun _ =>
    .ite (.andThen (.advance _) fun _ => .emit (.refl _)) .fail

theorem op? {operator : String} (hoperator : Ahead.Adjoined operator.toList) :
    Steady exact Eq (Reader.op? operator) (Reader.op? operator) :=
  .ahead (fun tokens => by simp [hoperator]) fun _ =>
    .ite (.andThen (.op hoperator) fun _ => .pure rfl) (.pure rfl)

theorem anyIdent : Steady exact Eq Reader.anyIdent Reader.anyIdent := by
  rintro ⟨trees, limit, stray, before⟩ ⟨trees', limit', stray', before'⟩ halike
  have hemit (name : String) := halike.emit (.refl [.ident name])
  rcases trees with _ | ⟨tree, rest⟩
  · obtain rfl : trees' = [] := by simpa using (halike.length_rest).symm
    exact .error _ _
  · cases tree with
    | ident name position =>
      obtain ⟨position', rest', rfl, hrest⟩ := exists_of_bareAll_ident halike.rest
      exact .ok rfl ⟨hrest, halike.stray, (hemit name).printed⟩ (List.suffix_cons _ _)
        (List.suffix_cons _ _)
    | punct | literal | group =>
      obtain ⟨tree', rest', rfl, htree, -⟩ := exists_of_bareAll_cons halike.rest
      cases tree' <;> first | exact .error _ _ | exact absurd htree (by simp [bare])

theorem ident : Steady exact Eq Reader.ident Reader.ident :=
  .ahead (fun tokens => by simp) fun _ => .ite .anyIdent .fail

theorem word (text : String) : Steady exact Eq (Reader.word text) (Reader.word text) :=
  .ahead (fun tokens => by simp) fun _ => .ite (.andThen .anyIdent fun _ => .pure rfl) .fail

theorem word? (text : String) : Steady exact Eq (Reader.word? text) (Reader.word? text) :=
  .ahead (fun tokens => by simp) fun _ =>
    .ite (.andThen (.word text) fun _ => .pure rfl) (.pure rfl)

theorem lifetime : Steady exact Eq Reader.lifetime Reader.lifetime := by
  refine .ahead (fun tokens => ?_) fun tokens => ?_
  · rcases tokens with _ | ⟨_ | ⟨c, joint, position⟩ | _ | _, rest⟩
    · rfl
    · rfl
    · by_cases hc : c = '\''
      · subst hc
        rw [Ahead.bareAll_apostrophe]
        cases joint
        · rfl
        · rcases rest with _ | ⟨_ | _ | _ | _, rest⟩ <;> rfl
      · rw [bareAll, bare]
        simp [hc]
    · rfl
    · rfl
  · split
    · exact .andThen (.advance _) fun _ => .emit (.refl _)
    · exact .fail

theorem lifetime? : Steady exact Eq Reader.lifetime? Reader.lifetime? :=
  .ahead (fun tokens => by simp) fun _ => .ite .lifetime (.pure rfl)

theorem literal : Steady exact Eq Reader.literal Reader.literal := by
  refine .ahead (fun tokens => ?_) fun tokens => ?_
  · rcases tokens with _ | ⟨_ | ⟨c, joint, position⟩ | _ | _, rest⟩
    · rfl
    · rfl
    · by_cases hc : c = '-'
      · subst hc
        rcases rest with _ | ⟨_ | _ | _ | _, rest⟩ <;> rfl
      · rw [bareAll, bare]
        simp [hc]
    · rfl
    · rfl
  · split
    · exact .andThen (.advance _) fun _ => .emit (.refl _)
    · exact .ite (.andThen (.advance _) fun _ => .emit (.refl _)) .fail
    · exact .ite (.andThen (.advance _) fun _ => .emit (.refl _)) .fail
    · exact .fail

/-- A group is read inside, where something may be left over. -/
theorem within {inside : Bool} (delimiter : Delimiter) (hreader : Steady inside R reader reader')
    (hprints : ∀ tokens tokens', Prints inside tokens tokens' →
      Prints exact [.group delimiter tokens] [.group delimiter tokens']) :
    Steady exact R (Reader.group delimiter reader) (Reader.group delimiter reader') := by
  rintro ⟨trees, limit, stray, before⟩ ⟨trees', limit', stray', before'⟩ halike
  rcases trees with _ | ⟨tree, rest⟩
  · obtain rfl : trees' = [] := by simpa using (halike.length_rest).symm
    exact .error _ _
  · cases tree with
    | group d inner opening closing =>
      obtain ⟨inner', opening', closing', rest', rfl, hinner, hrest⟩ :=
        exists_of_bareAll_group halike.rest
      simp only [Reader.group]
      split
      · have hstart :
            Input.Alike inside ⟨inner, closing, stray, []⟩ ⟨inner', closing', stray', []⟩ :=
          ⟨hinner, halike.stray, .refl _⟩
        obtain ⟨_, _, hrun, hrun'⟩ | ⟨a, after, b, after', hrun, hrun', hanswer, hafter, -, -⟩ :=
          hreader.run hstart
        · rw [hrun, hrun']
          exact .error _ _
        · rw [hrun, hrun']
          have hemit := halike.emit (hprints _ _ hafter.printed)
          exact .ok hanswer ⟨hrest, hafter.isSome_left, hemit.printed⟩ (List.suffix_cons _ _)
            (List.suffix_cons _ _)
      · exact .error _ _
    | ident | punct | literal =>
      obtain ⟨tree', rest', rfl, htree, -⟩ := exists_of_bareAll_cons halike.rest
      cases tree' <;> first | exact .error _ _ | exact absurd htree (by simp [bare])

theorem group (delimiter : Delimiter) (hreader : Steady exact R reader reader') :
    Steady exact R (Reader.group delimiter reader) (Reader.group delimiter reader') :=
  within delimiter hreader fun _ _ hprints => hprints.group delimiter

/-- What stands in braces need not be exact. -/
theorem brace (hreader : Steady false R reader reader') :
    Steady exact R (Reader.group .brace reader) (Reader.group .brace reader') :=
  within .brace hreader fun _ _ hprints => hprints.brace

/-- What is taken as it is prints the same but for which marks are joined. -/
theorem rawGroup : Steady false Eq Reader.rawGroup Reader.rawGroup := by
  rintro ⟨trees, limit, stray, before⟩ ⟨trees', limit', stray', before'⟩ halike
  rcases trees with _ | ⟨tree, rest⟩
  · obtain rfl : trees' = [] := by simpa using (halike.length_rest).symm
    exact .error _ _
  · cases tree with
    | group d inner opening closing =>
      obtain ⟨inner', opening', closing', rest', rfl, hinner, hrest⟩ :=
        exists_of_bareAll_group halike.rest
      have hemit := halike.emit ((Prints.of_bareAll hinner).group d)
      exact .ok rfl ⟨hrest, halike.stray, hemit.printed⟩ (List.suffix_cons _ _)
        (List.suffix_cons _ _)
    | ident | punct | literal =>
      obtain ⟨tree', rest', rfl, htree, -⟩ := exists_of_bareAll_cons halike.rest
      cases tree' <;> first | exact .error _ _ | exact absurd htree (by simp [bare])

theorem remaining : Steady false Eq Reader.remaining Reader.remaining := by
  intro input input' halike
  have hemit := halike.emit (Prints.of_bareAll halike.rest)
  exact .ok rfl ⟨rfl, halike.stray, hemit.printed⟩ (List.nil_suffix) (List.suffix_append _ _)

/-! Repetition -/

/-- That two rounds of a repetition both want another one, or are both the last. -/
inductive SameRound (S : σ → τ → Prop) : Reader.Round σ → Reader.Round τ → Prop
  | again {state : σ} {state' : τ} (hstate : S state state') :
      SameRound S (.again state) (.again state')
  | done {state : σ} {state' : τ} (hstate : S state state') :
      SameRound S (.done state) (.done state')

section

variable {S : σ → τ → Prop} {round : σ → Reader (Reader.Round σ)}
  {round' : τ → Reader (Reader.Round τ)} {state : σ} {state' : τ}

theorem rounds (count : Nat)
    (hround : ∀ state state', S state state' →
      Steady exact (SameRound S) (round state) (round' state'))
    (hstate : S state state') :
    Steady exact S (Reader.rounds round count state) (Reader.rounds round' count state') := by
  induction count generalizing state state' with
  | zero => exact .pure hstate
  | succ count ih =>
    refine .bind (hround state state' hstate) fun next next' hnext => ?_
    cases hnext with
    | again hnext => exact ih hnext
    | done hnext => exact .pure hnext

theorem repeating (hstate : S state state')
    (hround : ∀ state state', S state state' →
      Steady exact (SameRound S) (round state) (round' state')) :
    Steady exact S (Reader.repeating state round) (Reader.repeating state' round') := by
  intro input input' halike
  rw [Reader.repeating, Reader.repeating, halike.length_rest]
  exact rounds _ hround hstate input input' halike

end

/-- A repetition whose state does not depend on layout. -/
theorem repeatingSame {state : σ} {round round' : σ → Reader (Reader.Round σ)}
    (hround : ∀ state, Steady exact (SameRound Eq) (round state) (round' state)) :
    Steady exact Eq (Reader.repeating state round) (Reader.repeating state round') :=
  .repeating rfl fun state _ heq => heq ▸ hround state

section

variable {item item' : Reader Unit} {separator : String} {stops : List Located → Bool}
  (hstops : ∀ tokens, stops (bareAll tokens) = stops tokens)
  (hseparator : Ahead.Adjoined separator.toList) (hitem : Steady exact Eq item item')

include hstops hseparator hitem

theorem separated :
    Steady exact Eq (Reader.separated stops separator item)
      (Reader.separated stops separator item') := by
  refine .repeatingSame fun _ => .ahead (fun tokens => by simp [hstops]) fun _ => ?_
  refine .ite (.pure (.done rfl)) (.andThen hitem fun _ => ?_)
  refine .ahead (fun tokens => by simp [hstops]) fun _ => .ite (.pure (.done rfl)) ?_
  exact .andThen (.op hseparator) fun _ => .pure (.again rfl)

theorem chained :
    Steady exact Eq (Reader.chained stops separator item)
      (Reader.chained stops separator item') := by
  refine .repeatingSame fun _ => .ahead (fun tokens => by simp [hstops]) fun _ => ?_
  refine .ite (.pure (.done rfl)) (.andThen hitem fun _ => .andThen (.op? hseparator) fun _ => ?_)
  exact .ite (.pure (.again rfl)) (.pure (.done rfl))

end

theorem commaSeparated {item item' : Reader Unit} (hitem : Steady exact Eq item item') :
    Steady exact Eq (Reader.commaSeparated item) (Reader.commaSeparated item') :=
  .separated isEmpty_bareAll (by decide) hitem

theorem announced {operator : String} (hoperator : Ahead.Adjoined operator.toList)
    {items items' : Reader Unit} (hitems : Steady exact Eq items items') :
    Steady exact Eq (Reader.announced operator items) (Reader.announced operator items') := by
  refine .ahead (fun tokens => by simp [hoperator]) fun _ => .ite (.pure rfl) ?_
  refine .andPrinting (.op hoperator) fun _ _ mark mark' _ hmark => ?_
  refine .andPrinting hitems fun _ _ tokens tokens' _ htokens => ?_
  refine .iteSame (by rw [htokens.isEmpty_eq]) ?_ (.pure rfl)
  exact .andThen (.emit (hmark.append htokens)) fun _ => .pure rfl

theorem untilEnd {R : α → β → Prop} (hreader : Steady exact R reader reader') :
    Steady exact (List.Forall₂ R) (Reader.untilEnd reader) (Reader.untilEnd reader') := by
  refine .bind (S := List.Forall₂ R) (R := List.Forall₂ R)
    (.repeating .nil fun items items' hitems => ?_) ?_
  · refine .andThen .atEnd fun _ => .ite (.pure (.done hitems)) ?_
    exact .bind hreader fun _ _ hanswer => .pure (.again (.cons hanswer hitems))
  · exact fun items items' hitems => .pure (List.rel_reverse hitems)

end Steady

end ServiceGen.Grammar
