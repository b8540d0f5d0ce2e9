import Mathlib.Data.List.Find
import ServiceGen.Grammar.Expression
import ServiceGen.Proofs.Grammar.SteadyType

/-!
The readers of patterns and expressions are steady if the entrances are that they lead to. Three of
their forms are kept as written, and each of them begins with a sign.
-/
namespace ServiceGen.Grammar

open Token Ahead

variable {exact : Bool} {g : Grammar}

namespace Pattern

theorem steady_rangeOperator (old : Bool) :
    Steady exact Eq (rangeOperator old) (rangeOperator old) := by
  refine .ahead (fun tokens => by simp +decide) fun tokens => ?_
  refine .ite (.andThen (.op (by decide)) fun _ => .pure rfl) (.ite (.ite ?_ ?_) ?_)
  · exact .andPrinting (.op (by decide)) fun _ _ _ _ _ _ =>
      .andThen (.emit (.refl _)) fun _ => .pure rfl
  · exact .andThen .fail fun _ => .andThen (.op (by decide)) fun _ => .pure rfl
  · exact .andThen (.op (by decide)) fun _ => .pure rfl

@[simp] theorem endsRange_bareAll (tokens : List Located) :
    endsRange (Located.bareAll tokens) = endsRange tokens := by
  simp +decide [endsRange]

@[simp] theorem beginsPath_bareAll (tokens : List Located) :
    beginsPath (Located.bareAll tokens) = beginsPath tokens := by
  simp +decide [beginsPath]

theorem steady_member : Steady exact Eq member member := by
  refine .ahead (fun tokens => ?_) fun tokens => .ite (.andThen .ident fun _ => .pure rfl) ?_
  · rcases tokens with _ | ⟨_ | _ | _ | _, rest⟩ <;> rfl
  · split
    · split
      · refine .ite (.andThen (.advance _) fun _ => ?_) .fail
        exact .andThen (.emit (.refl _)) fun _ => .pure rfl
      · exact .fail
    · exact .fail

variable (hg : Robust g)

include hg

theorem steady_constantBlock : Steady exact Eq (constantBlock g) (constantBlock g) :=
  .andThen (.word _) fun _ => .andThen (Attribute.steady_block hg) fun _ => .pure rfl

theorem steady_rangeEnd? : Steady exact Eq (rangeEnd? g) (rangeEnd? g) := by
  refine .ahead (fun tokens => by simp +decide) fun tokens => .ite (.pure rfl) ?_
  refine .ite (.andThen .literal fun _ => .pure rfl) (.ite ?_ (.ite ?_ ?_))
  · exact .bind (Path.steady_path hg true) fun _ _ hform =>
      .andThen (.emit hform.tokens) fun _ => .pure rfl
  · exact .andThen (steady_constantBlock hg) fun _ => .pure rfl
  · exact .andThen .fail fun _ => .pure rfl

theorem steady_upperEnd : Steady exact PatternForm.Alike (upperEnd g) (upperEnd g) := by
  refine .here fun place place' => .andThen (steady_rangeOperator true) fun closed => ?_
  refine .andThen (steady_rangeEnd? hg) fun ended => .ite ?_ (.pure (.range _ _ _))
  exact .andThen .fail fun _ => .pure (.range _ _ _)

theorem steady_alternatives (leading : Bool) :
    Steady exact PatternForm.Alike (alternatives g leading) (alternatives g leading) := by
  refine .ite (.andThen (.op? (by decide)) ?rest) (.andThen (.pure rfl) ?rest)
  refine fun barred => .bind (hg.pattern exact) fun form form' hform => ?_
  refine .andThen (.repeatingSame fun found => ?_) fun more => ?_
  · refine .ahead (fun tokens => by simp +decide) fun _ => .ite ?_ (.pure (.done rfl))
    exact .andThen (.op (by decide)) fun _ => .bind (hg.pattern exact) fun _ _ _ =>
      .pure (.again rfl)
  · refine .pure ?_
    split
    · exact .other
    · exact hform

theorem steady_element : Steady exact Eq (element g) (element g) :=
  .bind (steady_alternatives hg true) fun _ _ _ => .pure rfl

theorem steady_field : Steady exact Eq (field g) (field g) := by
  refine .discard (.copyingIf (R := Eq) ?_ (fun _ _ heq => heq ▸ rfl) fun _ => ?_)
  · refine .andThen (.word? _) fun boxed => .andThen (.word? _) fun _ =>
      .andThen (.word? _) fun _ => ?_
    refine .ite (.andThen .ident fun _ => .pure rfl) ?_
    refine .andThen steady_member fun _ => .ahead (fun tokens => by simp +decide) fun _ => ?_
    refine .ite (.andThen (.op (by decide)) fun _ => ?_) (.pure rfl)
    exact .andThen (steady_element hg) fun _ => .pure rfl
  · refine .first (.word? (by decide) : Signed id _) fun boxed => ?_
    refine .last (Steady.answers (.word? _)) fun _ => .last (Steady.answers (.word? _)) fun _ => ?_
    refine .ite (.last (Steady.answers .ident) fun _ => .pure id) ?_
    refine .last (Steady.answers steady_member) fun _ => .ahead fun _ => .ite ?_ (.pure id)
    exact .last (Steady.answers (.op (by decide))) fun _ =>
      .last (steady_element hg).answers fun _ => .pure id

theorem steady_fields : Steady exact Eq (fields g) (fields g) := by
  refine .repeatingSame fun _ => .andThen .atEnd fun _ => .ite (.pure (.done rfl)) ?_
  refine .andThen (Attribute.steady_outer hg) fun _ => .andThen (.op? (by decide)) fun _ => ?_
  refine .ite (.pure (.done rfl)) (.andThen (steady_field hg) fun _ => .andThen .atEnd fun _ => ?_)
  exact .ite (.pure (.done rfl)) (.andThen (.op (by decide)) fun _ => .pure (.again rfl))

theorem steady_pathFirst : Steady exact PatternForm.Alike (pathFirst g) (pathFirst g) := by
  refine .bind (Path.steady_path hg true) fun form form' hform =>
    .andThen (.emit hform.tokens) fun _ => ?_
  refine .ahead (fun tokens => by simp +decide) fun tokens => .iteSame ?_ ?_ ?_
  · rw [hform.qualified, hform.bare]
  · exact .call fun _ => .pure .other
  · refine .ite (.andThen (.brace (steady_fields hg)) fun _ => .pure .other)
      (.ite ?_ (.ite ?_ (.pure .other)))
    · exact .andThen (.group _ (.commaSeparated (steady_element hg))) fun _ => .pure .other
    · exact steady_upperEnd hg

theorem steady_binding : Steady exact PatternForm.Alike (binding g) (binding g) := by
  refine .andThen (.word? _) fun _ => .andThen (.word? _) fun _ =>
    .ahead (fun tokens => by simp) fun _ => ?_
  refine .ite (.andThen .anyIdent ?rest) (.andThen .ident ?rest)
  refine fun name => .andThen (.op? (by decide)) fun _ => .ite ?_ (.pure (.binding name))
  exact .bind (hg.pattern exact) fun _ _ _ => .pure (.binding name)

theorem steady_literalOrRange :
    Steady exact PatternForm.Alike (literalOrRange g) (literalOrRange g) := by
  refine .andThen (steady_rangeEnd? hg) fun _ => .ahead (fun tokens => by simp +decide) fun _ => ?_
  exact .ite (steady_upperEnd hg) (.pure .other)

theorem steady_dotsFirst : Steady exact PatternForm.Alike (dotsFirst g) (dotsFirst g) := by
  refine .here fun place place' => .andThen (steady_rangeOperator false) fun closed => ?_
  refine .andThen (steady_rangeEnd? hg) fun ended =>
    .ite (.andThen .fail fun _ => .pure ?_) (.pure ?_)
  all_goals
    split
    · exact .range _ _ _
    · exact .other

theorem steady_sliceElement : Steady exact Eq (sliceElement g) (sliceElement g) := by
  refine .bind (steady_alternatives hg true) fun form form' hform => ?_
  cases hform with
  | range place place' isOpen => cases isOpen <;> first | exact .pure rfl | exact .failAt _ _
  | binding | copied | other => exact .pure rfl

theorem steady_read : Steady exact PatternForm.Alike (read g) (read g) := by
  refine .ahead (fun tokens => by simp +decide only [beginsPath_bareAll, isUnderscore_bareAll,
    isWord_bareAll, isOp_bareAll, isLiteral_bareAll, isOneOf_bareAll, isIdent_bareAll,
    isGroup_bareAll]) fun tokens => ?_
  refine .ite (steady_pathFirst hg) <| .ite ?underscore <| .ite ?box <|
    .ite (steady_literalOrRange hg) <|
    .ite (steady_binding hg) <| .ite ?reference <| .ite ?tuple <| .ite ?slice <|
    .ite (steady_dotsFirst hg) .fail
  case underscore => exact .andThen .anyIdent fun _ => .pure .other
  case box =>
    refine .andThen (.copying (R := Eq) ?_ fun _ => ?_) fun _ => .pure .copied
    · exact .andThen (.word _) fun _ => .bind (hg.pattern exact) fun _ _ _ => .pure rfl
    · exact .front (P := fun _ => True) (.word (by decide)) fun _ =>
        .last (hg.pattern false).answers fun _ => .any
  case reference =>
    refine .andThen (.op (by decide)) fun _ => .andThen (.word? _) fun _ => ?_
    exact .bind (hg.pattern exact) fun _ _ _ => .pure .other
  case tuple =>
    exact .andThen (.group _ (.commaSeparated (steady_element hg))) fun _ => .pure .other
  case slice =>
    exact .andThen (.group _ (.commaSeparated (steady_sliceElement hg))) fun _ => .pure .other

end Pattern

namespace Operation

theorem adjoined_of_mem : ∀ entry ∈ binaryOperators, Adjoined entry.1.toList := by
  decide

@[simp] theorem binary?_bareAll (tokens : List Located) :
    binary? (Located.bareAll tokens) = binary? tokens :=
  List.find?_congr fun entry hentry => isOp_bareAll tokens (adjoined_of_mem entry hentry)

@[simp] theorem nextPrecedence_bareAll (tokens : List Located) :
    nextPrecedence (Located.bareAll tokens) = nextPrecedence tokens := by
  simp +decide [nextPrecedence]

@[simp] theorem endsRange_bareAll (braces : Bool) (tokens : List Located) :
    endsRange braces (Located.bareAll tokens) = endsRange braces tokens := by
  simp +decide [endsRange]

@[simp] theorem beginsAngled_bareAll (tokens : List Located) :
    beginsAngled (Located.bareAll tokens) = beginsAngled tokens := by
  simp [beginsAngled]

/-- That the casts behind two operands differ in layout only. -/
structure Casts.Alike (exact : Bool) (casts casts' : Casts) : Prop where
  tokens : Prints exact casts.tokens casts'.tokens
  bracketed : casts.bracketed = casts'.bracketed

theorem Casts.Alike.behind {casts casts' : Casts} {operand operand' : List Token}
    (hcasts : casts.Alike exact casts') (hoperand : Prints exact operand operand') :
    Prints exact (casts.behind operand) (casts'.behind operand') := by
  rw [Casts.behind, Casts.behind, hcasts.bracketed]
  split
  · exact (hoperand.append hcasts.tokens).group _
  · exact hoperand.append hcasts.tokens

theorem endsBare_looseAll (type : List Token) : endsBare (looseAll type) = endsBare type := by
  rw [endsBare, endsBare, looseAll_eq_map, List.getLast?_map]
  rcases type.getLast? with _ | _ | _ | _ | _ <;> rfl

theorem steady_afterCast : Steady exact Eq afterCast afterCast :=
  .ahead (fun tokens => by simp +decide) fun _ => .ite .fail (.pure rfl)

/-- No comparison follows another without brackets. -/
theorem steady_guarded {precedence : Precedence} {form : ExprForm}
    {next : Unit → Reader (Reader.Round ExprForm)}
    (hnext : ∀ u, Steady exact (Steady.SameRound Eq) (next u) (next u)) :
    Steady exact (Steady.SameRound Eq)
      (match (precedence, form) with
      | (.comparison, .comparison) => Reader.fail >>= next
      | _ => next ())
      (match (precedence, form) with
      | (.comparison, .comparison) => Reader.fail >>= next
      | _ => next ()) := by
  split
  · exact .andThen .fail hnext
  · exact hnext ()

variable (hg : Robust g)

include hg

theorem steady_rightSide (braces : Bool) (precedence : Precedence) :
    Steady exact Eq (rightSide g braces precedence) (rightSide g braces precedence) := by
  refine .bind (.printing (hg.operand exact braces)) fun first first' hfirst => ?_
  refine .bind (R := fun answer answer' => answer.1 = answer'.1 ∧ Prints exact answer.2 answer'.2)
    (.repeating hfirst ?_) fun _ _ hlast => .emit hlast.2
  rintro ⟨form, tokens⟩ ⟨_, tokens'⟩ ⟨rfl, hprints⟩
  refine .look fun before before' hsame => ?_
  dsimp only
  rw [← Located.seen_eq nextPrecedence_bareAll hsame,
    ← Located.seen_eq Located.length_bareAll hsame]
  refine .ite (.pure (.done ⟨rfl, hprints⟩)) ?_
  refine .bind (.printing (hg.operators exact braces form _ _ _ hprints)) fun _ _ hafter => ?_
  refine .ahead (fun tokens => by simp) fun _ => ?_
  exact .ite (.pure (.done hafter)) (.pure (.again hafter))

theorem steady_upperRange (braces : Bool) :
    Steady exact Eq (upperRange g braces) (upperRange g braces) := by
  refine .andThen (Pattern.steady_rangeOperator false) fun closed =>
    .ahead (fun tokens => by simp) fun _ => ?_
  exact .ite (.pure rfl) (steady_rightSide hg braces _)

theorem steady_readCasts (form : ExprForm) :
    Steady exact (Casts.Alike exact) (readCasts g form) (readCasts g form) := by
  have hcasts : Steady exact (Casts.Alike exact) (readCasts g .other) (readCasts g .other) := by
    refine .repeating ⟨.refl _, rfl⟩ fun casts casts' hcasts => ?_
    refine .ahead (fun tokens => by simp) fun _ => .ite (.pure (.done hcasts)) ?_
    refine .andPrinting (R := Eq) ?_ fun bare _ tokens tokens' heq hprints => ?_
    · refine .andThen (.word _) fun _ =>
        .andPrinting (hg.type exact false) fun form form' type type' hform htype => ?_
      refine .andThen (.emit htype) fun _ => .andThen steady_afterCast fun _ => .pure ?_
      rw [← endsBare_looseAll, htype.loose, endsBare_looseAll]
      cases hform <;> rfl
    · obtain rfl := heq
      refine .ahead (fun tokens => by simp) fun _ => .pure (.again ?_)
      exact ⟨hcasts.tokens.append hprints, rfl⟩
  cases form with
  | range => exact .pure ⟨.refl _, rfl⟩
  | block | bracedCall | comparison | copied | other => exact hcasts

theorem steady_operators (braces : Bool) (form : ExprForm) (floor : Precedence)
    {operand operand' : List Token} (hoperand : Prints exact operand operand') :
    Steady exact Eq (operators g braces form operand floor)
      (operators g braces form operand' floor) := by
  refine .bind (steady_readCasts hg form) fun casts casts' hcasts => ?_
  refine .andThen (.emit (hcasts.behind hoperand)) fun _ => ?_
  rw [← hcasts.tokens.isEmpty_eq]
  refine .repeatingSame fun form => ?_
  split
  · exact .pure (.done rfl)
  · refine .ahead (fun tokens => by simp +decide) fun tokens => ?_
    cases hbinary : binary? tokens with
    | some entry =>
      obtain ⟨operator, precedence⟩ := entry
      have hoperator := adjoined_of_mem _ (List.mem_of_find?_eq_some hbinary)
      refine .ite (.pure (.done rfl)) (steady_guarded fun _ => ?_)
      exact .andThen (.op hoperator) fun _ => .andThen (steady_rightSide hg _ _) fun _ =>
        .pure (.again rfl)
    | none =>
      refine .ite ?_ (.ite ?_ (.ite ?_ (.pure (.done rfl))))
      · exact .andThen (.op (by decide)) fun _ => .andThen (steady_rightSide hg _ _) fun _ =>
          .pure (.again rfl)
      · exact .andThen (steady_upperRange hg _) fun _ => .pure (.again rfl)
      · exact .bind (steady_readCasts hg _) fun _ _ hcasts =>
          .andThen (.emit hcasts.tokens) fun _ =>
          .pure (.again rfl)

end Operation

namespace Expression

open Operation

theorem isTrailer_bareAll (tokens : List Located) :
    isTrailer (Located.bareAll tokens) = isTrailer tokens := by
  simp +decide [isTrailer]

@[simp] theorem bindsLifetimes_bareAll (tokens : List Located) :
    bindsLifetimes (Located.bareAll tokens) = bindsLifetimes tokens := by
  simp [bindsLifetimes]

@[simp] theorem beginsClosure_bareAll (tokens : List Located) :
    beginsClosure (Located.bareAll tokens) = beginsClosure tokens := by
  simp +decide [beginsClosure]

@[simp] theorem mayBegin_bareAll (tokens : List Located) :
    mayBegin (Located.bareAll tokens) = mayBegin tokens := by
  simp +decide [mayBegin]

@[simp] theorem rawAddress_bareAll (tokens : List Located) :
    rawAddress (Located.bareAll tokens) = rawAddress tokens := by
  simp [rawAddress]

@[simp] theorem beginsSigned_bareAll (tokens : List Located) :
    beginsSigned (Located.bareAll tokens) = beginsSigned tokens := by
  simp +decide [beginsSigned]

theorem steady_numberedFields : Steady exact Eq numberedFields numberedFields := by
  refine .ahead (fun tokens => ?_) fun tokens => ?_
  · rcases tokens with _ | ⟨_ | _ | _ | _, rest⟩ <;> rfl
  · split
    · refine .ite (.andThen (.advance _) fun _ => ?_) .fail
      refine .andThen (.emit (.refl _)) fun _ => .ite ?_ ?_
      · exact .andThen (.emit (.refl _)) fun _ => .pure rfl
      · exact .pure rfl
    · exact .fail

theorem steady_yielding {reader : Reader Unit} (form : ExprForm)
    (hreader : Steady exact Eq reader reader) :
    Steady exact Eq (yielding form reader) (yielding form reader) :=
  .andThen hreader fun _ => .pure rfl

theorem steady_worded {body : Reader Unit} (text : String) (hbody : Steady exact Eq body body) :
    Steady exact Eq (worded text body) (worded text body) :=
  .andThen (.word text) fun _ => hbody

/-- A pattern with its attributes does not depend on layout. -/
theorem prints_attributed {attributes attributes' pattern pattern' : List Token}
    {form form' : PatternForm} (hattributes : Prints exact attributes attributes')
    (hform : form.Alike form') (hpattern : Prints exact pattern pattern') :
    Prints exact (attributed attributes form pattern) (attributed attributes' form' pattern') := by
  cases hform with
  | copied => exact hpattern
  | range =>
    rw [attributed, attributed, hattributes.isEmpty_eq]
    split
    · exact hpattern
    · exact hattributes.append (hpattern.group _)
  | binding | other => exact hattributes.append hpattern

variable (hg : Robust g)

include hg

theorem steady_block : Steady exact Eq (block g) (block g) := .discard (Attribute.steady_block hg)

theorem steady_plainBlock : Steady exact Eq (plainBlock g) (plainBlock g) := .brace hg.statements

theorem steady_condition : Steady exact Eq (condition g) (condition g) :=
  .andThen (hg.expressionWith false) fun _ => .pure rfl

theorem steady_conditional : Steady exact Eq (conditional g) (conditional g) := by
  refine .repeatingSame fun _ => .andThen (.word _) fun _ =>
    .andThen (steady_condition hg) fun _ => ?_
  refine .andThen (steady_plainBlock hg) fun _ => .andThen (.word? _) fun _ =>
    .ite (.pure (.done rfl)) ?_
  refine .ahead (fun tokens => by simp) fun _ => .ite (.pure (.again rfl)) (.ite ?_ .fail)
  exact .andThen (steady_plainBlock hg) fun _ => .pure (.done rfl)

theorem steady_whileLoop : Steady exact Eq (whileLoop g) (whileLoop g) :=
  .andThen (.word _) fun _ => .andThen (steady_condition hg) fun _ => steady_block hg

theorem steady_forLoop : Steady exact Eq (forLoop g) (forLoop g) :=
  .andThen (.word _) fun _ => .andThen (Pattern.steady_element hg) fun _ =>
    .andThen (.word _) fun _ => .andThen (steady_condition hg) fun _ => steady_block hg

theorem steady_endlessLoop : Steady exact Eq (endlessLoop g) (endlessLoop g) :=
  .andThen (.word _) fun _ => steady_block hg

theorem steady_labelled : Steady exact Eq (labelled g) (labelled g) := by
  refine .andThen .lifetime fun _ => .andThen (.op (by decide)) fun _ => ?_
  refine .ahead (fun tokens => by simp) fun _ => .ite (steady_whileLoop hg) ?_
  exact .ite (steady_forLoop hg) (.ite (steady_endlessLoop hg) (.ite (steady_block hg) .fail))

theorem steady_call :
    Steady exact Eq (Reader.group .parenthesis (Reader.commaSeparated g.expression))
    (Reader.group .parenthesis (Reader.commaSeparated g.expression)) :=
  .group _ (.commaSeparated hg.expression)

theorem steady_member : Steady exact Eq (member g) (member g) := by
  refine .andThen (.word? _) fun _ => .ite (.pure rfl) (.andThen Pattern.steady_member fun _ => ?_)
  refine .ite (.ahead (fun tokens => by simp +decide) fun tokens => ?_) (.pure rfl)
  have hcall (arguments : Bool) : Steady exact Eq (do
      if arguments || isGroup .parenthesis (← Reader.ahead) then
        Reader.group .parenthesis (Reader.commaSeparated g.expression)) _ :=
    .ahead (fun tokens => by simp) fun _ => .ite (steady_call hg) (.pure rfl)
  exact .ite (.bind (Path.steady_angled hg) fun _ _ _ => hcall _) (hcall _)

theorem steady_trailers (form : ExprForm) :
    Steady exact Eq (trailers g form) (trailers g form) := by
  refine .repeatingSame fun form => .ahead (fun tokens => by simp +decide) fun tokens => ?_
  refine .ite (.andThen (steady_call hg) fun _ => .pure (.again rfl))
    (.ite ?_ (.ite ?_ (.ite ?_ ?_)))
  · refine .andThen (.op (by decide)) fun _ => .ahead (fun tokens => by simp) fun _ => .ite ?_ ?_
    · refine .andThen steady_numberedFields fun _ => .ite ?_ (.pure (.again rfl))
      exact .andThen (steady_member hg) fun _ => .pure (.again rfl)
    · exact .andThen (steady_member hg) fun _ => .pure (.again rfl)
  · exact .andThen (.group _ hg.expression) fun _ => .pure (.again rfl)
  · exact .andThen (.op (by decide)) fun _ => .pure (.again rfl)
  · exact .pure (.done rfl)

theorem steady_closureParameter : Steady exact Eq (closureParameter g) (closureParameter g) := by
  refine .andPrinting (Attribute.steady_outer hg) fun _ _ attributes attributes' _ hattributes => ?_
  refine .andPrinting (hg.pattern exact) fun form form' pattern pattern' hform hpattern => ?_
  refine .ahead (fun tokens => by simp +decide) fun _ => .ite ?_ ?_
  · exact .andThen (.emit (hattributes.append hpattern)) fun _ =>
      .andThen (.op (by decide)) fun _ =>
      hg.anyType
  · exact .emit (prints_attributed hattributes hform hpattern)

theorem steady_closure (braces : Bool) : Steady exact Eq (closure g braces) (closure g braces) := by
  refine .andThen (Bound.steady_binder? hg) fun _ => .andThen (.word? _) fun _ => ?_
  refine .andThen (.word? _) fun _ => .andThen (.word? _) fun _ => .andThen (.word? _) fun _ => ?_
  refine .andThen (.op (by decide)) fun _ =>
    .andThen (.separated (fun tokens => ?_) (by decide) ?_) ?_
  · simp +decide
  · exact steady_closureParameter hg
  refine fun _ => .andThen (.op (by decide)) fun _ =>
    .andThen (.op? (by decide)) fun _ => .ite ?_ ?_
  · exact .andThen hg.anyType fun _ => steady_plainBlock hg
  · exact .andThen (hg.expressionWith braces) fun _ => .pure rfl

theorem steady_fieldValue : Steady exact Eq (fieldValue g) (fieldValue g) := by
  refine .andThen (Attribute.steady_outer hg) fun _ => .andThen Pattern.steady_member fun _ => ?_
  refine .ahead (fun tokens => by simp +decide) fun _ => .ite ?_ (.pure rfl)
  exact .andThen (.op (by decide)) fun _ => hg.expression

theorem steady_fieldValues : Steady exact Eq (fieldValues g) (fieldValues g) := by
  refine .repeatingSame fun _ => .andThen .atEnd fun _ => .ite (.pure (.done rfl)) ?_
  refine .andThen (.op? (by decide)) fun _ => .ite (.andThen .atEnd fun _ => .ite ?_ ?_) ?_
  · exact .andThen hg.expression fun _ => .pure (.done rfl)
  · exact .pure (.done rfl)
  · refine .andThen (steady_fieldValue hg) fun _ => .andThen .atEnd fun _ =>
      .ite (.pure (.done rfl)) ?_
    exact .andThen (.op (by decide)) fun _ => .pure (.again rfl)

theorem steady_pathFirst (braces : Bool) :
    Steady exact Eq (pathFirst g braces) (pathFirst g braces) := by
  refine .bind (Path.steady_path hg true) fun form form' hform =>
    .andThen (.emit hform.tokens) fun _ => ?_
  refine .ahead (fun tokens => by simp +decide) fun tokens => .iteSame ?_ ?_ ?_
  · rw [hform.qualified, hform.bare]
  · refine .call fun delimiter => ?_
    cases delimiter <;> exact .pure rfl
  · exact .ite (.andThen (.brace (steady_fieldValues hg)) fun _ => .pure rfl) (.pure rfl)

theorem answers_pathFirst (braces : Bool) :
    Answers (·.isCopied = false) (pathFirst g braces) := by
  refine .last (Path.steady_path hg true).answers fun form => .last (.emit _) fun _ => ?_
  refine .ahead fun tokens =>
    .ite (.last (Steady.answers (.op (by decide))) fun _ => ?_) (.ite ?_ ?_)
  · refine .last (Steady.answers .rawGroup) fun delimiter => ?_
    cases delimiter <;> exact .pure rfl
  · exact .last (Steady.answers (.brace (steady_fieldValues hg))) fun _ => .pure rfl
  · exact .pure rfl

/-- A jump into another function begins with a sign. -/
theorem signed_become : Signed (fun _ => true) (worded "become" g.expression) :=
  .front (.word (by decide)) fun _ => hg.expression.answers

theorem steady_elements : Steady exact Eq (elements g) (elements g) := by
  refine .andThen .atEnd fun _ => .ite (.pure rfl) (.andThen hg.expression fun _ => ?_)
  refine .andThen .atEnd fun _ => .ahead (fun tokens => by simp +decide) fun _ => .ite ?_ ?_
  · exact .andThen (.op? (by decide)) fun _ => .ite (.commaSeparated hg.expression) (.pure rfl)
  · exact .andThen (.op (by decide)) fun _ => hg.expression

theorem steady_carried : Steady exact Eq (carried g) (carried g) :=
  .ahead (fun tokens => by simp) fun _ => .ite hg.expression (.pure rfl)

theorem steady_breaking (braces : Bool) :
    Steady exact Eq (breaking g braces) (breaking g braces) := by
  have hvalue (_ : Unit) : Steady exact Eq (do
      let tokens ← Reader.ahead
      if mayBegin tokens && (braces || !isGroup .brace tokens) then g.expression) _ :=
    .ahead (fun tokens => by simp) fun _ => .ite hg.expression (.pure rfl)
  refine .andThen (.word _) fun _ => .ahead (fun tokens => by simp +decide) fun tokens => ?_
  refine .ite (.ite ?_ (.andThen .lifetime hvalue)) (hvalue ())
  refine .here fun _ _ => .andThen hg.expression fun _ => .andThen (.failAt _ _) fun _ => ?_
  exact .andThen .lifetime hvalue

theorem steady_case : Steady false Eq (case g) (case g) := by
  refine .andThen (Attribute.steady_outer hg) fun _ =>
    .andThen (Pattern.steady_element hg) fun _ => ?_
  refine .andThen (.word? _) fun _ => .ite (.andThen hg.expression ?value) (?value ())
  refine fun _ => .andThen (.op (by decide)) fun _ => .andThen hg.caseValue fun form => ?_
  cases form
  case block => exact .andThen (.op? (by decide)) fun _ => .pure rfl
  all_goals exact .andThen .atEnd fun _ => .ite (.op (by decide)) (.pure rfl)

theorem steady_choice : Steady exact Eq (choice g) (choice g) := by
  refine .andThen (.word _) fun _ => .andThen (steady_condition hg) fun _ => .brace ?_
  refine .andThen (Attribute.steady_inner hg) fun _ => ?_
  exact .bind (.untilEnd (steady_case hg)) fun _ _ _ => .pure rfl

theorem steady_binding (braces : Bool) : Steady exact Eq (binding g braces) (binding g braces) := by
  refine .andThen (.word _) fun _ => .andThen (Pattern.steady_element hg) fun _ => ?_
  refine .andThen (.op (by decide)) fun _ => .andPrinting (hg.operand exact braces) ?_
  rintro form _ tokens tokens' rfl hprints
  exact .andThen (hg.operators exact braces form _ _ _ hprints) fun _ => .pure rfl

theorem steady_atom (braces : Bool) : Steady exact Eq (atom g braces) (atom g braces) := by
  refine .ahead (fun tokens => by simp +decide only [isLiteral_bareAll, isWord_bareAll,
    isGroup_bareAll, skip_bareAll, beginsClosure_bareAll, Type.beginsProvided_bareAll,
    Type.beginsPath_bareAll, isOp_bareAll, isUnderscore_bareAll, isLifetime_bareAll])
    fun tokens => ?_
  refine .ite (steady_yielding _ .literal) <| .ite (steady_yielding _ (steady_worded _ ?async)) <|
    .ite (steady_yielding _ (steady_worded _ (steady_plainBlock hg))) <|
    .ite (steady_yielding _ (steady_closure hg braces)) <|
    .ite (steady_yielding _ (.copying Type.steady_provided fun _ => Type.signed_provided)) <|
    .ite (steady_pathFirst hg braces) <| .ite (steady_yielding _ (steady_call hg)) <|
    .ite (steady_yielding _ (steady_breaking hg braces)) <|
    .ite (steady_yielding _ (steady_worded _ .lifetime?)) <|
    .ite (steady_yielding _ (steady_worded _ (steady_carried hg))) <|
    .ite (steady_yielding _ (.copying (steady_worded _ hg.expression) fun _ => signed_become hg)) <|
    .ite (steady_yielding _ (.group _ (steady_elements hg))) <|
    .ite (steady_yielding _ (steady_binding hg braces)) <|
    .ite (steady_yielding _ (steady_conditional hg)) <|
    .ite (steady_yielding _ (steady_whileLoop hg)) <|
    .ite (steady_yielding _ (steady_forLoop hg)) <|
    .ite (steady_yielding _ (steady_endlessLoop hg)) <|
    .ite (steady_yielding _ (steady_choice hg)) <|
    .ite (steady_yielding _ (steady_worded _ (steady_carried hg))) <|
    .ite (steady_yielding _ (steady_worded _ (steady_block hg))) <|
    .ite (steady_yielding _ (steady_worded _ (steady_block hg))) <|
    .ite (steady_yielding _ (steady_block hg)) <|
    .ite (steady_yielding _ (steady_upperRange hg braces)) <|
    .ite (.andThen .anyIdent fun _ => .pure rfl) <|
    .ite (steady_yielding _ (steady_labelled hg)) .fail
  exact .andThen (.word? _) fun _ => steady_plainBlock hg

theorem signed_atom (braces : Bool) : Signed ExprForm.isCopied (atom g braces) := by
  have hother {form : ExprForm} {reader : Reader Unit} (hform : form.isCopied = false)
      (hreader : Steady false Eq reader reader) : Signed ExprForm.isCopied (yielding form reader) :=
    .never (.last hreader.answers fun _ => .pure hform)
  refine .ahead fun tokens => ?_
  refine .ite (hother rfl .literal) <| .ite (hother rfl (steady_worded _ ?async)) <|
    .ite (hother rfl (steady_worded _ (steady_plainBlock hg))) <|
    .ite (hother rfl (steady_closure hg braces)) <|
    .ite (.front Type.signed_provided.copying fun _ => .any) <|
    .ite (.never (answers_pathFirst hg braces)) <| .ite (hother rfl (steady_call hg)) <|
    .ite (hother rfl (steady_breaking hg braces)) <|
    .ite (hother rfl (steady_worded _ .lifetime?)) <|
    .ite (hother rfl (steady_worded _ (steady_carried hg))) <|
    .ite (.front (signed_become hg).copying fun _ => .any) <|
    .ite (hother rfl (.group _ (steady_elements hg))) <|
    .ite (hother rfl (steady_binding hg braces)) <| .ite (hother rfl (steady_conditional hg)) <|
    .ite (hother rfl (steady_whileLoop hg)) <| .ite (hother rfl (steady_forLoop hg)) <|
    .ite (hother rfl (steady_endlessLoop hg)) <| .ite (hother rfl (steady_choice hg)) <|
    .ite (hother rfl (steady_worded _ (steady_carried hg))) <|
    .ite (hother rfl (steady_worded _ (steady_block hg))) <|
    .ite (hother rfl (steady_worded _ (steady_block hg))) <|
    .ite (hother rfl (steady_block hg)) <| .ite (hother rfl (steady_upperRange hg braces)) <|
    .ite (.never (.last (Steady.answers .anyIdent) fun _ => .pure rfl)) <|
    .ite (hother rfl (steady_labelled hg)) (.never .fail)
  exact .andThen (.word? _) fun _ => steady_plainBlock hg

theorem steady_signed (braces : Bool) : Steady exact Eq (signed g braces) (signed g braces) := by
  have hoperand (_ : Unit) : Steady exact Eq (discard (g.operand braces)) _ :=
    .discard (hg.operand exact braces)
  refine .andThen (.op? (by decide)) fun _ => .ite ?_ ?_
  · refine .ahead (fun tokens => by simp) fun _ => .ite ?_ ?_
    · exact .andThen (.word _) fun _ => .andThen .anyIdent fun _ => hoperand ()
    · exact .andThen (.word? _) fun _ => hoperand ()
  · refine .andThen (.op? (by decide)) fun _ => .andThen (.op? (by decide)) fun _ => ?_
    exact .ite (.andThen (.op (by decide)) hoperand) (hoperand ())

/-- What stands behind an atom does not make it a form that is copied. -/
theorem answers_trailers (form : ExprForm) :
    Answers (fun last => last.isCopied = true → form.isCopied = true) (trailers g form) := by
  refine .repeating (fun last hlast => .ahead fun tokens => ?_) id
  have hother {α : Type} {reader : Reader α} {R : α → α → Prop}
      (hreader : Steady false R reader reader) :
      Answers (Answers.Kept fun last => last.isCopied = true → form.isCopied = true)
        (reader >>= fun _ => pure (Reader.Round.again ExprForm.other)) :=
    .last hreader.answers fun _ => .pure fun hcopied => absurd hcopied (by decide)
  refine .ite (hother (steady_call hg)) (.ite ?_ (.ite ?_ (.ite ?_ (.pure hlast))))
  · refine .last (Steady.answers (.op (by decide))) fun _ => .ahead fun _ => .ite ?_ ?_
    · refine .last (Steady.answers steady_numberedFields) fun _ =>
        .ite (hother (steady_member hg)) ?_
      exact .pure fun hcopied => absurd hcopied (by decide)
    · exact hother (steady_member hg)
  · exact hother (.group _ hg.expression)
  · exact hother (.op (by decide))

theorem steady_operand (braces : Bool) : Steady exact Eq (operand g braces) (operand g braces) := by
  refine .copyingIf (R := Eq) ?_ (fun _ _ heq => heq ▸ rfl) fun _ => ?_
  · refine .andPrinting (Attribute.steady_outer hg)
      fun _ _ attributes attributes' _ hattributes => ?_
    refine .andThen (.emit hattributes) fun _ => .ahead (fun tokens => by simp) fun _ => ?_
    refine .ite (steady_yielding _ (steady_signed hg braces)) (.here fun place place' => ?_)
    refine .andThen (steady_atom hg braces) fun form =>
      .andThen (steady_trailers hg form) fun form => ?_
    rw [hattributes.isEmpty_eq]
    cases form with
    | range => exact .ite (.pure rfl) (.failAt _ _)
    | block | bracedCall | comparison | copied | other => exact .pure rfl
  · refine .second (Steady.printing (Attribute.steady_outer hg)).answers fun (_, attributes) => ?_
    refine .second (.emit _) fun _ => .ahead fun _ => .ite ?_ (.here fun place => ?_)
    · exact .never (.last (steady_signed hg braces).answers fun _ => .pure rfl)
    · refine .first (signed_atom hg braces) fun form =>
        .bind (answers_trailers hg form) fun last hlast => ?_
      cases last with
      | range => exact .ite (.pure hlast) (.failAt _)
      | block | bracedCall | comparison | copied | other => exact .pure hlast

end Expression

end ServiceGen.Grammar
