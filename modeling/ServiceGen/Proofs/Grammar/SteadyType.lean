import ServiceGen.Grammar.Generics
import ServiceGen.Proofs.Grammar.SteadyPath

/-!
The readers of types, generic parameters and conditions are steady if the entrances are that they
lead to. Three forms of types are kept as written, and each of them begins with a sign.
-/
namespace ServiceGen.Grammar.Type

open Token Ahead

variable {exact : Bool} {g : Grammar}

theorem steady_binding? : Steady exact Eq binding? binding? := by
  refine .andThen (.word? _) fun _ => .ite ?_ (.pure rfl)
  exact .ahead (fun tokens => by simp) fun _ => .ite .literal (.pure rfl)

theorem steady_dots : Steady exact Eq dots dots := by
  have hdots (_ : Unit) : Steady exact Eq (do Reader.op "..."; let _ ← Reader.op? ",")
      (do Reader.op "..."; let _ ← Reader.op? ",") :=
    .andThen (.op (by decide)) fun _ => .andThen (.op? (by decide)) fun _ => .pure rfl
  refine .ahead (fun tokens => by simp) fun tokens => .ite ?_ (hdots ())
  exact .andThen .anyIdent fun _ => .andThen (.op (by decide)) hdots

@[simp] theorem beginsDots_bareAll (tokens : List Located) :
    beginsDots (Located.bareAll tokens) = beginsDots tokens := by
  simp +decide [beginsDots]

@[simp] theorem beginsChanging_bareAll (tokens : List Located) :
    beginsChanging (Located.bareAll tokens) = beginsChanging tokens := by
  simp [beginsChanging]

@[simp] theorem beginsProvided_bareAll (tokens : List Located) :
    beginsProvided (Located.bareAll tokens) = beginsProvided tokens := by
  simp +decide [beginsProvided]

@[simp] theorem mayBeBound_bareAll (tokens : List Located) :
    mayBeBound (Located.bareAll tokens) = mayBeBound tokens := by
  simp [mayBeBound]

@[simp] theorem beginsPath_bareAll (tokens : List Located) :
    beginsPath (Located.bareAll tokens) = beginsPath tokens := by
  simp +decide [beginsPath]

/-- The type of an argument, behind its name if it has one. -/
def argumentType (g : Grammar) (isFirst changing named isReceiver : Bool) : Reader Bool := do
  if isFirst && !(named && isReceiver) && beginsChanging (← Reader.ahead) then
    Reader.word "mut"
    Reader.word "self"
    return true
  if changing && !named then Reader.word "self" else g.anyType
  return changing

/-- An argument behind the word that lets the receiver change. -/
def namedArgument (g : Grammar) (isFirst changing : Bool) : Reader Bool := do
  let tokens ← Reader.ahead
  let isReceiver := isFirst && isWord "self" tokens
  let isName := isIdent tokens || isUnderscore tokens || isReceiver
  let named := isName && isOp ":" (skip tokens) && !isOp "::" (skip tokens)
  if named then
    let _ ← Reader.anyIdent
    Reader.op ":"
  argumentType g isFirst changing named isReceiver

theorem argument_eq (g : Grammar) (isFirst : Bool) :
    argument g isFirst = discard (Reader.copyingIf id do
      let changing := isFirst && beginsChanging (← Reader.ahead)
      if changing then Reader.word "mut"
      namedArgument g isFirst changing) := rfl

theorem looseAll_singly (tokens : List Token) :
    looseAll (singly tokens) = singly (looseAll tokens) := by
  rcases tokens with _ | ⟨_ | _ | _ | ⟨_ | _ | _ | _,
    _ | ⟨_ | _ | _ | ⟨_ | _ | _ | _, _⟩, _ | _⟩⟩, _ | _⟩ <;> rfl

theorem hasSign_singly (tokens : List Token) : hasSign (singly tokens) = hasSign tokens := by
  unfold singly
  split
  · simp [hasSign, isSign, opensKept]
  · rfl

theorem prints_singly {tokens tokens' : List Token} (hprints : Prints exact tokens tokens') :
    Prints exact (singly tokens) (singly tokens') := by
  refine ⟨by rw [looseAll_singly, hprints.loose, looseAll_singly], fun hexact => ?_⟩
  rw [hasSign_singly]
  exact (hprints.same hexact).imp_left (congrArg singly)

/-- What a compiler provides stands behind a sign. -/
theorem steady_provided : Steady exact Eq provided provided := by
  refine .andThen (.word _) fun _ => .hash (.andThen .ident fun _ => ?_)
  exact .group _ .remaining

theorem signed_provided : Signed (fun _ => true) provided := by
  refine .second (Steady.answers (.word _)) fun _ => .front (P := fun _ => True) .hash fun _ => ?_
  exact Steady.answers (.andThen .ident fun _ => .group _ .remaining)

variable (hg : Robust g)

include hg

theorem steady_result (plus : Bool) :
    Steady exact (Option.Rel (TypeForm.Alike exact)) (result g plus) (result g plus) := by
  refine .andThen (.op? (by decide)) fun _ => .ite ?_ (.pure .none)
  exact .bind (hg.type exact plus) fun _ _ hform => .pure (.some hform)

/-! Arguments of function types -/

theorem steady_argumentType (isFirst changing named isReceiver : Bool) :
    Steady exact Eq (argumentType g isFirst changing named isReceiver)
      (argumentType g isFirst changing named isReceiver) := by
  refine .ahead (fun tokens => by simp only [beginsChanging_bareAll]) fun _ => ?_
  refine .ite (.andThen (.word _) fun _ => .andThen (.word _) fun _ => .pure rfl) ?_
  exact .ite (.andThen (.word _) fun _ => .pure rfl) (.andThen hg.anyType fun _ => .pure rfl)

theorem steady_namedArgument (isFirst changing : Bool) :
    Steady exact Eq (namedArgument g isFirst changing) (namedArgument g isFirst changing) := by
  have hlast (named isReceiver : Bool) :
      Steady exact Eq (argumentType g isFirst changing named isReceiver) _ :=
    steady_argumentType hg isFirst changing named isReceiver
  refine .ahead (fun tokens => by simp +decide only [isWord_bareAll, isIdent_bareAll,
    isUnderscore_bareAll, skip_bareAll, isOp_bareAll]) fun _ => ?_
  exact .ite (.andThen .anyIdent fun _ => .andThen (.op (by decide)) fun _ => hlast _ _) (hlast _ _)

theorem signed_argumentType (isFirst named isReceiver : Bool) :
    Signed id (argumentType g isFirst false named isReceiver) := by
  refine .ahead fun _ => .ite (.words (by decide) fun _ => .any) (.never ?_)
  refine .ite (.last (Steady.answers (.word _)) fun _ => .pure rfl) ?_
  exact .last hg.anyType.answers fun _ => .pure rfl

theorem signed_namedArgument (isFirst : Bool) : Signed id (namedArgument g isFirst false) := by
  have hlast (named isReceiver : Bool) := signed_argumentType hg isFirst named isReceiver
  refine .ahead fun _ => .ite (.second (Steady.answers .anyIdent) fun _ => ?_) (hlast _ _)
  exact .second (Steady.answers (.op (by decide))) fun _ => hlast _ _

/-- Behind the word that lets it change, the receiver is taken in any case. -/
theorem suffix_of_changing {input after : Input} {answer isFirst : Bool} {position : Position}
    {more : List Located} (hinput : input.rest = .ident "self" position :: more)
    (hrun : namedArgument g isFirst true input = .ok (answer, after)) : after.rest <:+ more := by
  obtain ⟨tokens, between, hahead, hrun⟩ := of_bind hrun
  obtain ⟨rfl, rfl⟩ := Prod.mk.inj (Except.ok.inj hahead)
  dsimp only at hrun
  split at hrun
  · obtain ⟨_, between, hident, hrun⟩ := of_bind hrun
    obtain ⟨_, hrest, -⟩ := of_anyIdent hident
    have hrest : between.rest = more := (List.cons.inj (hrest.symm.trans hinput)).2
    have hsteady (named isReceiver : Bool) :
        Steady false Eq (argumentType g isFirst true named isReceiver) _ :=
      steady_argumentType hg isFirst true named isReceiver
    have hsuffix := (Steady.andThen (.op (by decide)) fun _ => hsteady _ _).suffix hrun
    exact hrest ▸ hsuffix.1
  · next hnamed =>
    -- The receiver by itself: no other word that lets it change comes next.
    obtain ⟨tokens, between, hahead, hrun⟩ := of_bind hrun
    obtain ⟨rfl, rfl⟩ := Prod.mk.inj (Except.ok.inj hahead)
    rw [Bool.not_eq_true] at hnamed
    have hchanging : beginsChanging input.rest = false := by simp [beginsChanging, isWord, hinput]
    rw [hnamed, hchanging] at hrun
    simp only [Bool.and_false, Bool.false_eq_true, if_false, Bool.not_false, Bool.and_self,
      if_true] at hrun
    obtain ⟨_, between, hword, hrun⟩ := of_bind hrun
    obtain ⟨_, hrest, -⟩ := of_word hword
    obtain ⟨-, rfl⟩ := Prod.mk.inj (Except.ok.inj hrun)
    rw [hinput] at hrest
    exact (List.cons.inj hrest).2 ▸ List.suffix_refl _

theorem signed_argument (isFirst : Bool) : Signed id (do
    let changing := isFirst && beginsChanging (← Reader.ahead)
    if changing then Reader.word "mut"
    namedArgument g isFirst changing) := by
  intro input answer after hrun hanswer
  obtain ⟨tokens, between, hahead, hrun⟩ := of_bind hrun
  obtain ⟨rfl, rfl⟩ := Prod.mk.inj (Except.ok.inj hahead)
  cases hchanging : isFirst && beginsChanging input.rest with
  | false =>
    simp only [hchanging, Bool.false_eq_true, if_false] at hrun
    exact signed_namedArgument hg isFirst input answer after hrun hanswer
  | true =>
    simp only [hchanging, if_true] at hrun
    obtain ⟨_, between, hword, hrun⟩ := of_bind hrun
    obtain ⟨position, hinput, -⟩ := of_word hword
    have hself := (Bool.and_eq_true_iff.mp hchanging).2
    rw [beginsChanging, hinput] at hself
    obtain ⟨position', more, hmore⟩ := exists_of_isWord (Bool.and_eq_true_iff.mp hself).2
    replace hmore : between.rest = .ident "self" position' :: more := hmore
    obtain ⟨front, hfront⟩ := suffix_of_changing hg hmore hrun
    refine ⟨.ident "mut" position :: .ident "self" position' :: front, ?_, ?_⟩
    · rw [hinput, hmore, ← hfront]
      rfl
    · rw [Located.tokens, Located.tokens, hasSign, Bool.or_eq_true, Bool.or_eq_true]
      exact .inl (.inr rfl)

theorem steady_argument (isFirst : Bool) :
    Steady exact Eq (argument g isFirst) (argument g isFirst) := by
  rw [argument_eq]
  refine .discard (.copyingIf (R := Eq) ?_ (fun _ _ heq => heq ▸ rfl) fun _ =>
    signed_argument hg isFirst)
  refine .ahead (fun tokens => by simp only [beginsChanging_bareAll]) fun tokens => ?_
  refine .ite (.andThen (.word _) ?rest) (?rest ())
  exact fun _ => steady_namedArgument hg _ _

theorem steady_arguments : Steady exact Eq (arguments g) (arguments g) := by
  refine .andThen (.repeatingSame fun isFirst => ?_) fun _ => .pure rfl
  refine .andThen .atEnd fun _ => .ite (.pure (.done rfl)) ?_
  refine .andThen (Attribute.steady_outer hg) fun _ => .ahead (fun tokens => by simp) fun _ => ?_
  refine .ite (.andThen steady_dots fun _ => .pure (.done rfl)) ?_
  refine .andThen (steady_argument hg isFirst) fun _ => .andThen .atEnd fun _ => ?_
  exact .ite (.pure (.done rfl)) (.andThen (.op (by decide)) fun _ => .pure (.again rfl))

theorem steady_function : Steady exact Eq (function g) (function g) := by
  refine .andThen (.word? _) fun _ => .andThen steady_binding? fun _ =>
    .andThen (.word _) fun _ => ?_
  refine .andThen (.group _ (steady_arguments hg)) fun _ => ?_
  exact .bind (steady_result hg false) fun _ _ _ => .pure rfl

/-! Kinds of types -/

theorem steady_wrapped : Steady exact Eq (wrapped g) (wrapped g) := by
  refine .andThen .atEnd fun _ => .ite (.pure rfl) ?_
  refine .ahead (fun tokens => by simp +decide) fun _ => .ite ?_ (.ite ?_ ?_)
  · refine .here fun _ _ => .andThen (Bound.steady_several hg _ _) fun _ => ?_
    exact .ite (.pure rfl) (.failAt _ _)
  · exact .andThen (Bound.steady_trait hg _) fun _ => .pure rfl
  · refine .bind (hg.type exact true) fun form form' hform => ?_
    refine .ahead (fun tokens => by cases hform <;> simp +decide) fun _ => .ite ?_ ?_
    · exact .andThen (.op (by decide)) fun _ => .andThen (.commaSeparated hg.anyType) fun _ =>
        .pure rfl
    · cases hform with
      | path hform => exact .pure (by rw [hform.qualified])
      | unit | bound | copied | other => exact .pure rfl

theorem steady_parentheses (plus : Bool) :
    Steady exact (TypeForm.Alike exact) (parentheses g plus) (parentheses g plus) := by
  refine .andPrinting (.group _ (steady_wrapped hg)) ?_
  rintro inside _ tokens tokens' rfl hprints
  refine .ahead (fun tokens => by cases inside <;> simp +decide) fun ahead => ?_
  cases inside with
  | unit => exact .andThen (.emit hprints) fun _ => .pure .unit
  | optional =>
    refine .andThen (.emit hprints) fun _ => .andThen (Bound.steady_others hg) fun others => ?_
    cases others
    · exact .pure .bound
    · exact .pure .other
  | bound =>
    refine .andThen (.emit ?_) fun _ => ?_
    · split
      · exact prints_singly hprints
      · exact hprints
    · exact .ite (.andThen (Bound.steady_others hg) fun _ => .pure .other) (.pure .other)
  | other => exact .andThen (.emit hprints) fun _ => .pure .other

theorem steady_moreBounds : Steady exact Eq (moreBounds g) (moreBounds g) := by
  refine .repeatingSame fun found => .andThen (.op? (by decide)) fun _ =>
    .ite ?_ (.pure (.done rfl))
  refine .ahead (fun tokens => by simp) fun _ => .ite ?_ (.pure (.done rfl))
  exact .andThen (Bound.steady_one hg _) fun _ => .pure (.again rfl)

theorem steady_named (plus : Bool) {binder binder' : List Token}
    (hbinder : Prints exact binder binder') :
    Steady exact (TypeForm.Alike exact) (named g plus binder) (named g plus binder') := by
  refine .bind (Path.steady_path hg false) fun form form' hform => ?_
  refine .ahead (fun tokens => ?_) fun tokens => .iteSame ?_ ?_ ?_
  · simp +decide
  · rw [hform.qualified, hform.bare]
  · exact .andThen (.emit hform.tokens) fun _ => .call fun _ => .pure .other
  · refine .andThen (.emit (hbinder.append hform.tokens)) fun _ =>
      .iteSame ?_ ?_ (.pure (.path hform))
    · rw [hform.qualified, hbinder.isEmpty_eq]
    · refine .ite (.andThen (steady_moreBounds hg) ?last) (.andThen (.pure rfl) ?last)
      intro found
      cases found
      · exact .pure .bound
      · exact .pure .other

theorem answers_named (plus : Bool) (binder : List Token) :
    Answers (·.isCopied = false) (named g plus binder) := by
  refine .last (Path.steady_path hg false).answers fun form => .ahead fun tokens => .ite ?_ ?_
  · refine .last (.emit _) fun _ => .last (Steady.answers (.op (by decide))) fun _ => ?_
    exact .last (Steady.answers .rawGroup) fun _ => .pure rfl
  · refine .last (.emit _) fun _ => .ite ?_ (.pure rfl)
    refine .ite (.last (steady_moreBounds hg).answers ?last) (.last .any ?last)
    exact fun found => .pure (by cases found <;> rfl)

theorem steady_sequence : Steady exact Eq (sequence g) (sequence g) := by
  refine .group _ (.andThen hg.anyType fun _ => .andThen (.op? (by decide)) fun _ => ?_)
  exact .ite hg.expression (.pure rfl)

theorem steady_pointer : Steady exact Eq (pointer g) (pointer g) := by
  refine .andThen (.op (by decide)) fun _ => .ahead (fun tokens => by simp) fun _ => .ite ?_ .fail
  exact .andThen .anyIdent fun _ => .bind (hg.type exact false) fun _ _ _ => .pure rfl

theorem steady_reference : Steady exact Eq (reference g) (reference g) := by
  refine .andThen (.op (by decide)) fun _ => .andThen .lifetime? fun _ => ?_
  exact .andThen (.word? _) fun _ => .bind (hg.type exact false) fun _ _ _ => .pure rfl

theorem steady_object (plus : Bool) : Steady exact Eq (object g plus) (object g plus) := by
  refine .here fun _ _ => .andThen (.word _) fun _ => .andThen (.op? (by decide)) fun _ => ?_
  exact .andThen (Bound.steady_several hg _ _) fun _ => .ite (.pure rfl) (.failAt _ _)

theorem signed_object (plus : Bool) : Signed id (object g plus) := by
  refine .here fun _ => .starred (by decide) fun starred => ?_
  exact .last (Bound.steady_several hg _ _).answers fun _ => .ite (.pure id) (.failAt _)

theorem steady_lifetimeFirst : Steady exact Eq (lifetimeFirst g) (lifetimeFirst g) := by
  refine .here fun _ _ => .andThen (Bound.steady_several hg _ _) fun _ => ?_
  exact .ite (.failAt _ _) (.pure rfl)

theorem steady_known (plus : Bool) : Steady exact Eq (known g plus) (known g plus) := by
  refine .here fun _ _ => .andThen (.word _) fun _ =>
    .andThen (Bound.steady_several hg _ _) fun _ => ?_
  exact .ite (.failAt _ _) (.pure rfl)

theorem steady_form (plus : Bool) :
    Steady exact (TypeForm.Alike exact) (form g plus) (form g plus) := by
  refine .andPrinting (Bound.steady_binder? hg) ?_
  rintro bound _ binder binder' rfl hbinder
  refine .ahead (fun tokens => by simp +decide only [mayBeBound_bareAll, isGroup_bareAll,
    isOneOf_bareAll, beginsProvided_bareAll, beginsPath_bareAll, isWord_bareAll, isOp_bareAll,
    isUnderscore_bareAll, isLifetime_bareAll]) fun tokens => ?_
  refine .ite (.andThen .fail ?kinds) (?kinds ())
  refine fun _ => .ite (steady_parentheses hg plus) <| .ite ?function <| .ite ?provided <|
    .ite (steady_named hg plus hbinder) <| .ite ?object <| .ite ?sequence <| .ite ?pointer <|
    .ite ?reference <| .ite ?never <| .ite ?known <| .ite ?underscore <| .ite ?lifetime .fail
  case function =>
    exact .andThen (.emit hbinder) fun _ => .andThen (steady_function hg) fun _ => .pure .other
  case provided => exact .andThen steady_provided fun _ => .pure .copied
  case object =>
    refine .andThen (steady_object hg plus) fun starred => ?_
    cases starred
    · exact .pure .other
    · exact .pure .copied
  case sequence => exact .andThen (steady_sequence hg) fun _ => .pure .other
  case pointer => exact .andThen (steady_pointer hg) fun _ => .pure .other
  case reference => exact .andThen (steady_reference hg) fun _ => .pure .other
  case never => exact .andThen (.op (by decide)) fun _ => .pure .other
  case known => exact .andThen (steady_known hg plus) fun _ => .pure .other
  case underscore => exact .andThen .anyIdent fun _ => .pure .other
  case lifetime => exact .andThen (steady_lifetimeFirst hg) fun _ => .pure .other

theorem answers_parentheses (plus : Bool) :
    Answers (·.isCopied = false) (parentheses g plus) := by
  refine .last (Steady.printing (.group _ (steady_wrapped hg))).answers fun (inside, tokens) => ?_
  refine .ahead fun ahead => ?_
  cases inside with
  | unit | other => exact .last (.emit _) fun _ => .pure rfl
  | optional =>
    refine .last (.emit _) fun _ => .last (Bound.steady_others hg).answers fun others => ?_
    exact .pure (by cases others <;> rfl)
  | bound =>
    refine .last (.emit _) fun _ => .ite ?_ (.pure rfl)
    exact .last (Bound.steady_others hg).answers fun _ => .pure rfl

theorem signed_form (plus : Bool) : Signed TypeForm.isCopied (form g plus) := by
  refine .second (Steady.printing (Bound.steady_binder? hg)).answers fun (bound, binder) => ?_
  refine .ahead fun tokens => .ite (.second (P := fun _ => True) .fail ?kinds) (?kinds ())
  have hother {reader : Reader Unit} (hreader : Steady false Eq reader reader) :
      Answers (·.isCopied = false) (reader >>= fun _ => pure TypeForm.other) :=
    .last hreader.answers fun _ => .pure rfl
  refine fun _ => .ite (.never (answers_parentheses hg plus)) <| .ite ?function <| .ite ?provided <|
    .ite (.never (answers_named hg plus binder)) <| .ite ?object <|
    .ite (.never (hother (steady_sequence hg))) <| .ite (.never (hother (steady_pointer hg))) <|
    .ite (.never (hother (steady_reference hg))) <| .ite (.never (hother (.op (by decide)))) <|
    .ite (.never (hother (steady_known hg plus))) <|
    .ite (.never (.last (Steady.answers .anyIdent) fun _ => .pure rfl)) <|
    .ite (.never (hother (steady_lifetimeFirst hg))) (.never .fail)
  case function => exact .never (.last (.emit _) fun _ => hother (steady_function hg))
  case provided => exact .front (P := fun _ => True) signed_provided fun _ => .any
  case object =>
    exact .first (signed_object hg plus) fun starred => by cases starred <;> exact .pure (by decide)

theorem steady_read (plus : Bool) :
    Steady exact (TypeForm.Alike exact) (read g plus) (read g plus) :=
  .copyingIf (steady_form hg plus) (fun _ _ hform => by cases hform <;> rfl) fun _ =>
    signed_form hg plus

end ServiceGen.Grammar.Type

namespace ServiceGen.Grammar.Generics

open Token Ahead

variable {exact : Bool} {g : Grammar}

@[simp] theorem endsConditions_bareAll (tokens : List Located) :
    endsConditions (Located.bareAll tokens) = endsConditions tokens := by
  simp +decide [endsConditions]

theorem steady_visibility : Steady false Eq visibility visibility := by
  refine .andThen (.word? _) fun _ => .ite (.pure rfl) (.look fun tokens tokens' hsame => ?_)
  rcases tokens with _ | ⟨tree, rest⟩
  · obtain rfl : tokens' = [] := by
      cases tokens' with
      | nil => rfl
      | cons => exact absurd hsame (by simp [Located.bareAll])
    exact .pure rfl
  · obtain ⟨tree', rest', rfl, htree, hrest⟩ := Located.exists_of_bareAll_cons hsame
    cases tree with
    | ident | punct | literal =>
      cases tree' <;> first | exact .pure rfl | exact absurd htree (by simp [Located.bare])
    | group delimiter inner opening closing =>
      obtain ⟨inner', opening', closing', rest', heq, hinner, -⟩ :=
        Located.exists_of_bareAll_group hsame
      obtain ⟨rfl, rfl⟩ := List.cons.inj heq
      cases delimiter with
      | parenthesis =>
        refine .iteSame ?names (.andThen .rawGroup fun _ => .pure rfl)
          (.iteSame ?within ?_ (.pure rfl))
        case names =>
          exact Located.seen_eq (f := fun inner =>
            isOneOf ["crate", "self", "super"] inner && (skip inner).isEmpty) (by simp) hinner
        case within => exact Located.seen_eq (isWord_bareAll · "in") hinner
        refine .andThen (.group _ ?_) fun _ => .pure rfl
        exact .andThen (.word _) fun _ => .andThen Path.steady_plain fun _ => .pure rfl
      | bracket | brace => exact .pure rfl

variable (hg : Robust g)

include hg

theorem steady_parameter : Steady exact Eq (parameter g) (parameter g) := by
  refine .andThen (Attribute.steady_outer hg) fun _ => .ahead (fun tokens => by simp) fun _ => ?_
  exact .ite (.andThen .anyIdent fun _ => .pure rfl) (Parameter.steady_read hg)

theorem steady_parameters : Steady exact Eq (parameters g) (parameters g) := by
  refine .ahead (fun tokens => by simp +decide) fun _ => .ite (.pure rfl) ?_
  refine .andPrinting (.op (by decide)) fun _ _ opening opening' _ hopening => ?_
  refine .bind (Path.steady_listed (steady_parameter hg))
    fun parameters parameters' hparameters => ?_
  refine .andPrinting (.op (by decide)) fun _ _ closing closing' _ hclosing => ?_
  have hempty : parameters.isEmpty = parameters'.isEmpty := by cases hparameters <;> rfl
  refine .iteSame hempty (.pure rfl) (.andThen (.emit ?_) fun _ => .pure rfl)
  exact (hopening.append (Path.prints_arrange hparameters)).append hclosing

theorem steady_condition : Steady exact Eq (condition g) (condition g) := by
  refine .ahead (fun tokens => by simp +decide) fun _ => .ite ?_ ?_
  · refine .andThen .lifetime fun _ => .andThen (.op (by decide)) fun _ => ?_
    exact .chained (fun tokens => by simp +decide) (by decide) .lifetime
  · refine .andThen (Bound.steady_binder? hg) fun _ => .andThen hg.anyType fun _ => ?_
    refine .andThen (.op (by decide)) fun _ => .chained endsConditions_bareAll (by decide) ?_
    exact .discard (Bound.steady_one hg _)

theorem steady_conditions? : Steady exact Eq (conditions? g) (conditions? g) := by
  refine .ahead (fun tokens => by simp) fun _ => .ite (.pure rfl) ?_
  have hcondition (_ : Unit) : Steady exact Eq
      (Reader.chained endsConditions "," (condition g)) _ :=
    .chained endsConditions_bareAll (by decide) (steady_condition hg)
  refine .andPrinting (R := Eq) (.andThen (.word _) fun _ => ?_)
    fun _ _ tokens tokens' _ hprints => ?_
  · exact .ahead (fun tokens => by simp) fun _ => .ite (.andThen .fail hcondition) (hcondition ())
  · simp only [← hprints.length_eq]
    exact .ite (.andThen (.emit hprints) fun _ => .pure rfl) (.pure rfl)

end ServiceGen.Grammar.Generics
