import ServiceGen.Grammar.Bound
import ServiceGen.Proofs.Grammar.Kept

/-!
The readers of attributes, paths, parameters and bounds are steady if the entrances are that they
lead to. The tokens that a path is answered with differ no more than printed ones.
-/
namespace ServiceGen.Grammar

open Located Token Ahead

/-- That the arguments of two segments differ in layout only. -/
inductive Arguments.Alike (exact : Bool) : Arguments → Arguments → Prop
  | absent : Alike exact .absent .absent
  | angled {types types' : List (List Token)} (htypes : types.Forall₂ (Prints exact) types')
    (empty : Bool) : Alike exact (.angled types empty) (.angled types' empty)

theorem Arguments.Alike.isEmpty_eq {exact : Bool} {arguments arguments' : Arguments}
    (halike : arguments.Alike exact arguments') : arguments.isEmpty = arguments'.isEmpty := by
  cases halike <;> rfl

/-- That two paths differ in layout only. -/
structure PathForm.Alike (exact : Bool) (form form' : PathForm) : Prop where
  qualified : form.qualified = form'.qualified
  before : Prints exact form.before form'.before
  lead : Prints exact form.lead form'.lead
  name : form.name = form'.name
  arguments : form.arguments.Alike exact form'.arguments
  last : Prints exact form.last form'.last
  bare : form.bare = form'.bare

theorem PathForm.Alike.tokens {exact : Bool} {form form' : PathForm}
    (hform : form.Alike exact form') : Prints exact form.tokens form'.tokens :=
  hform.before.append hform.last

/-- That two types differ in layout only, so far as others have to tell them apart. -/
inductive TypeForm.Alike (exact : Bool) : TypeForm → TypeForm → Prop
  | unit : Alike exact .unit .unit
  | path {form form' : PathForm} (hform : form.Alike exact form') :
    Alike exact (.path form) (.path form')
  | bound : Alike exact .bound .bound
  | copied : Alike exact .copied .copied
  | other : Alike exact .other .other

/-- That two patterns differ in layout only, so far as others have to tell them apart. -/
inductive PatternForm.Alike : PatternForm → PatternForm → Prop
  | binding (name : String) : Alike (.binding name) (.binding name)
  | range (place place' : Position) (isOpen : Bool) :
      Alike (.range place isOpen) (.range place' isOpen)
  | copied : Alike .copied .copied
  | other : Alike .other .other

/-- That the entrances of a grammar do not depend on layout. Those that lead into braces need not be
exact. -/
structure Robust (g : Grammar) : Prop where
  type : ∀ exact plus, Steady exact (TypeForm.Alike exact) (g.type plus) (g.type plus)
  bound : ∀ exact, Steady exact Eq g.bound g.bound
  operand : ∀ exact braces, Steady exact Eq (g.operand braces) (g.operand braces)
  operators : ∀ exact braces form floor tokens tokens', Prints exact tokens tokens' →
    Steady exact Eq (g.operators braces form tokens floor) (g.operators braces form tokens' floor)
  caseValue : Steady false Eq g.caseValue g.caseValue
  pattern : ∀ exact, Steady exact PatternForm.Alike g.pattern g.pattern
  statements : Steady false Eq g.statements g.statements
  selection : ∀ rooted, Steady false Eq (g.selection rooted) (g.selection rooted)
  fields : Steady false Eq g.fields g.fields
  item : Steady false Eq g.item g.item

variable {exact : Bool} {g : Grammar}

namespace Robust

theorem expressionWith (hg : Robust g) (braces : Bool) :
    Steady exact Eq (g.expressionWith braces) (g.expressionWith braces) :=
  .andPrinting (hg.operand exact braces) fun form _ _ _ heq hprints =>
    heq ▸ hg.operators exact braces form .lowest _ _ hprints

theorem expression (hg : Robust g) : Steady exact Eq g.expression g.expression :=
  .andThen (hg.expressionWith true) fun _ => .pure rfl

theorem anyType (hg : Robust g) : Steady exact Eq g.anyType g.anyType :=
  .bind (hg.type exact true) fun _ _ _ => .pure rfl

end Robust

namespace Path

@[simp] theorem beginsPlain_bareAll (tokens : List Located) :
    beginsPlain (bareAll tokens) = beginsPlain tokens := by
  simp [beginsPlain]

theorem steady_plain : Steady exact Eq plain plain := by
  refine .andThen (.op? (by decide)) fun rooted =>
    .andThen (.repeatingSame fun names => ?_) fun _ => .pure rfl
  refine .ahead (fun tokens => by simp) fun _ => .ite (.andThen .anyIdent fun name => ?_) .fail
  refine .andThen (.op? (by decide)) fun _ => .ite ?_ (.pure (.done rfl))
  exact .ahead (fun tokens => by simp) fun _ => .ite (.pure (.again rfl)) .fail

end Path

namespace Attribute

variable (hg : Robust g)

include hg

/-- What an attribute holds stands behind a sign. -/
theorem steady_body : Steady false Eq (body g) (body g) := by
  refine .ahead (fun tokens => by simp) fun tokens => ?_
  refine .ite (.andThen .anyIdent fun name => .andThen (.pure rfl) ?rest)
    (.andThen Path.steady_plain ?rest)
  refine fun path => .ahead (fun tokens => by simp +decide) fun tokens => ?_
  refine .ite (.andThen .rawGroup fun _ => .pure rfl) ?_
  refine .ite (.andThen (.op (by decide)) fun _ => ?_) (.pure rfl)
  refine .ahead (fun tokens => ?_) fun tokens => ?_
  · have hother (tokens : List Located) :
        (isOp "#" (bareAll tokens) && isGroup .bracket (skip (bareAll tokens))) =
          (isOp "#" tokens && isGroup .bracket (skip tokens)) := by simp +decide
    rcases tokens with _ | ⟨_ | _ | _ | _, _ | ⟨next, rest⟩⟩ <;>
      first
      | rfl
      | exact ite_congr (congrArg (· = true) (hother (_ :: _))) (fun _ => rfl) fun _ => rfl
  · split
    · exact .andThen .literal fun _ => .pure rfl
    · exact .ite .fail (.andThen hg.expression fun _ => .pure rfl)

theorem steady_outerOne : Steady exact Eq (outerOne g) (outerOne g) :=
  .hash (.group .bracket (steady_body hg))

theorem steady_innerOne : Steady exact Eq (innerOne g) (innerOne g) :=
  .hash (.andThen (.op (by decide)) fun _ => .group .bracket (steady_body hg))

theorem steady_outer : Steady exact Eq (outer g) (outer g) := by
  refine .repeatingSame fun lines => .ahead (fun tokens => by simp +decide) fun tokens => ?_
  exact .ite (.andThen (steady_outerOne hg) fun _ => .pure (.again rfl)) (.pure (.done rfl))

theorem steady_inner : Steady exact Eq (inner g) (inner g) := by
  refine .repeatingSame fun lines => .ahead (fun tokens => by simp +decide) fun tokens => ?_
  exact .ite (.andThen (steady_innerOne hg) fun _ => .pure (.again rfl)) (.pure (.done rfl))

theorem steady_block : Steady exact Eq (block g) (block g) := by
  refine .brace (.andThen (steady_inner hg) fun lines => ?_)
  exact .andThen hg.statements fun _ => .pure rfl

end Attribute

namespace Path

/-- That two listed items differ in layout only. -/
structure SameEntry {α β : Type} (exact : Bool) (R : α → β → Prop) (item : α × List Token × Bool)
    (item' : β × List Token × Bool) : Prop where
  answer : R item.1 item'.1
  printed : Prints exact item.2.1 item'.2.1
  followed : item.2.2 = item'.2.2

/-- To put lifetimes in front does not depend on layout. -/
theorem prints_arrange {arguments arguments' : List (Bool × List Token × Bool)}
    (harguments : arguments.Forall₂ (SameEntry exact Eq) arguments') :
    Prints exact (arrange arguments) (arrange arguments') := by
  have hordered := List.rel_append
    (List.rel_filter (p := (·.1)) (q := (·.1)) (fun _ _ hitem => by simp [hitem.answer]) harguments)
    (List.rel_filter (p := (!·.1)) (q := (!·.1)) (fun _ _ hitem => by simp [hitem.answer])
      harguments)
  refine (List.rel_foldl (P := fun (state state' : List Token × Bool) =>
    Prints exact state.1 state'.1 ∧ state.2 = state'.2) ?_ ⟨.refl [], rfl⟩ hordered).1
  rintro ⟨printed, closed⟩ ⟨printed', _⟩ ⟨hprinted, rfl⟩ ⟨isLifetime, tokens, followed⟩
    ⟨_, tokens', _⟩ ⟨rfl, htokens, rfl⟩
  exact ⟨((hprinted.append (.refl _)).append htokens).append (.refl _), rfl⟩

theorem steady_listed {α β : Type} {R : α → β → Prop} {item : Reader α} {item' : Reader β}
    (hitem : Steady exact R item item') :
    Steady exact (List.Forall₂ (SameEntry exact R)) (listed item) (listed item') := by
  refine .bind (R := List.Forall₂ (SameEntry exact R))
    (.repeating .nil fun items items' hitems => ?_)
    fun _ _ hitems => .pure (List.rel_reverse hitems)
  refine .ahead (fun tokens => by simp +decide) fun _ => .ite (.pure (.done hitems)) ?_
  refine .andPrinting hitem fun _ _ _ _ hanswer hprints => ?_
  refine .ahead (fun tokens => by simp +decide) fun _ => .ite ?_ ?_
  · exact .pure (.done (.cons ⟨hanswer, hprints, rfl⟩ hitems))
  · refine .andPrinting (.op (by decide)) fun _ _ _ _ _ _ => ?_
    exact .pure (.again (.cons ⟨hanswer, hprints, rfl⟩ hitems))

@[simp] theorem endsArgument_bareAll (tokens : List Located) :
    endsArgument (bareAll tokens) = endsArgument tokens := by
  simp +decide [endsArgument]

@[simp] theorem beginsParentheses_bareAll (tokens : List Located) :
    beginsParentheses (bareAll tokens) = beginsParentheses tokens := by
  simp +decide [beginsParentheses]

theorem alike_first {arguments arguments' : Arguments}
    {before before' lead lead' last last' : List Token}
    (qualified : Bool) (hbefore : Prints exact before before') (hlead : Prints exact lead lead')
    (name : String) (harguments : arguments.Alike exact arguments')
    (hlast : Prints exact last last') :
    (first qualified before lead name arguments last).Alike exact
      (first qualified before' lead' name arguments' last') := by
  refine ⟨rfl, hbefore, hlead, rfl, harguments, hlast, ?_⟩
  cases harguments <;> rfl

theorem alike_append {form form' : PathForm} {arguments arguments' : Arguments}
    {last last' : List Token} (hform : form.Alike exact form') (name : String)
    (harguments : arguments.Alike exact arguments') (hlast : Prints exact last last') :
    (append form name arguments last).Alike exact (append form' name arguments' last') := by
  refine ⟨hform.qualified, hform.tokens.append (.refl _),
    (hform.lead.append hform.last).append (.refl _), rfl, harguments, hlast, ?_⟩
  cases harguments <;> simp only [append, hform.bare]

variable (hg : Robust g)

include hg

theorem steady_constant : Steady exact Eq (constant g) (constant g) := by
  refine .ahead (fun tokens => by simp) fun _ => .ite .literal (.ite ?_ (.ite ?_ .fail))
  · exact .andThen .ident fun _ => .pure rfl
  · exact .discard (Attribute.steady_block hg)

theorem steady_argument : Steady exact Eq (argument g) (argument g) := by
  refine .ahead (fun tokens => by simp +decide) fun _ => ?_
  refine .ite (.andThen .lifetime fun _ => .pure rfl) ?_
  refine .ite (.andThen (steady_constant hg) fun _ => .pure rfl) ?_
  refine .bind (hg.type exact true) fun form form' hform => ?_
  cases hform with
  | @path form form' hform =>
    have hsingle : form.isSingle = form'.isSingle := by
      rw [PathForm.isSingle, PathForm.isSingle, hform.qualified, hform.lead.isEmpty_eq]
    refine .iteSame hsingle ?_ (.pure rfl)
    refine .andThen (.op? (by decide)) fun _ => .ite ?_ ?_
    · refine .ahead (fun tokens => by simp +decide) fun _ => .ite ?_ ?_
      · exact .andThen (steady_constant hg) fun _ => .pure rfl
      · exact .andThen hg.anyType fun _ => .pure rfl
    · refine .andThen (.op? (by decide)) fun _ => .ite ?_ (.pure rfl)
      exact .andThen (.chained endsArgument_bareAll (by decide) (hg.bound exact))
        fun _ => .pure rfl
  | unit | bound | copied | other => exact .pure rfl

theorem steady_angled : Steady exact (Arguments.Alike exact) (angled g) (angled g) := by
  refine .andThen (.op? (by decide)) fun _ => .andThen (.op (by decide)) fun _ => ?_
  refine .bind (steady_listed (steady_argument hg)) fun arguments arguments' harguments => ?_
  refine .andThen (.emit (prints_arrange (List.rel_map (fun _ _ hitem => ?_) harguments)))
    fun _ => .andThen (.op (by decide)) fun _ => ?_
  · exact ⟨by simp [hitem.answer], hitem.printed, hitem.followed⟩
  · have hempty : arguments.isEmpty = arguments'.isEmpty := by cases harguments <;> rfl
    rw [hempty]
    refine .pure (.angled (List.rel_filterMap (fun item item' hitem => ?_) harguments) _)
    simp only [hitem.answer]
    split
    · exact .some hitem.printed
    · exact .none

theorem steady_segment (inExpression : Bool) :
    Steady exact (fun answer answer' => answer.1 = answer'.1 ∧ answer.2.Alike exact answer'.2)
      (segment g inExpression) (segment g inExpression) := by
  refine .ahead (fun tokens => by simp) fun _ => ?_
  refine .ite (.andThen .anyIdent fun _ => .pure ⟨rfl, .absent⟩) ?_
  refine .ahead (fun tokens => by simp) fun _ => ?_
  refine .ite (.andThen .anyIdent ?rest) (.andThen .ident ?rest)
  refine fun name => .ahead (fun tokens => by simp +decide) fun _ => .ite ?_ (.pure ⟨rfl, .absent⟩)
  exact .bind (steady_angled hg) fun _ _ harguments => .pure ⟨rfl, harguments⟩

theorem steady_rest (inExpression : Bool) {form form' : PathForm}
    (hform : form.Alike exact form') :
    Steady exact (PathForm.Alike exact) (rest g inExpression form) (rest g inExpression form') := by
  refine .repeating hform fun form form' hform => ?_
  refine .ahead (fun tokens => by simp +decide) fun _ => .ite ?_ (.pure (.done hform))
  refine .andPrinting (.op (by decide)) fun _ _ _ _ _ _ => ?_
  refine .andPrinting (steady_segment hg inExpression) ?_
  rintro ⟨name, arguments⟩ ⟨_, arguments'⟩ last last' ⟨rfl, harguments⟩ hlast
  exact .pure (.again (alike_append hform name harguments hlast))

theorem steady_unqualified (inExpression : Bool) :
    Steady exact (PathForm.Alike exact) (unqualified g inExpression)
      (unqualified g inExpression) := by
  refine .andPrinting (.op? (by decide)) fun _ _ lead lead' _ hlead => ?_
  refine .andPrinting (steady_segment hg inExpression) ?_
  rintro ⟨name, arguments⟩ ⟨_, arguments'⟩ last last' ⟨rfl, harguments⟩ hlast
  exact steady_rest hg inExpression (alike_first false hlead hlead name harguments hlast)

theorem steady_segments (inExpression : Bool) {form form' : PathForm}
    (hform : form.Alike exact form') :
    Steady exact (PathForm.Alike exact) (segments g inExpression form)
      (segments g inExpression form') := by
  refine .repeating hform fun form form' hform => ?_
  refine .ahead (fun tokens => by simp +decide) fun _ => .ite ?_ (.pure (.done hform))
  refine .andPrinting (.op (by decide)) fun _ _ _ _ _ _ => ?_
  refine .andPrinting (steady_segment hg inExpression) ?_
  rintro ⟨name, arguments⟩ ⟨_, arguments'⟩ last last' ⟨rfl, harguments⟩ hlast
  exact .pure (.again (alike_append hform name harguments hlast))

theorem steady_path (inExpression : Bool) :
    Steady exact (PathForm.Alike exact) (path g inExpression) (path g inExpression) := by
  refine .ahead (fun tokens => by simp +decide) fun _ =>
    .ite ?_ (steady_unqualified hg inExpression)
  refine .andPrinting (.andThen (.op (by decide)) fun _ => hg.anyType)
    fun _ _ opening opening' _ hopening => ?_
  refine .andPrinting (.word? "as") fun qualified _ keyword keyword' heq hkeyword => ?_
  obtain rfl := heq
  refine .ite (.bind (R := Option.Rel (PathForm.Alike exact))
    (.map (steady_unqualified hg false) fun _ _ => .some) ?rest) (.bind (.pure .none) ?rest)
  intro trait trait' htrait
  have hinner : Prints exact ((trait.map PathForm.tokens).getD [])
      ((trait'.map PathForm.tokens).getD []) := by
    cases htrait with
    | none => exact .refl []
    | some hform => exact hform.tokens
  have hbare : trait.all PathForm.bare = trait'.all PathForm.bare := by
    cases htrait with
    | none => rfl
    | some hform => exact hform.bare
  refine .andPrinting (.op (by decide)) fun _ _ closing closing' _ hclosing => ?_
  refine .andPrinting (.op (by decide)) fun _ _ separator separator' _ hseparator => ?_
  refine .andPrinting (steady_segment hg inExpression) ?_
  rintro ⟨name, arguments⟩ ⟨_, arguments'⟩ last last' ⟨rfl, harguments⟩ hlast
  have hbefore := (((hopening.append hkeyword).append hinner).append hclosing).append hseparator
  have hform := alike_first true hbefore (hinner.append hseparator) name harguments hlast
  exact steady_segments hg inExpression ⟨hform.qualified, hform.before, hform.lead, hform.name,
    hform.arguments, hform.last, by simp only [hform.bare, hbare]⟩

theorem steady_parenthesized : Steady exact Eq (parenthesized g) (parenthesized g) := by
  refine .andPrinting (.op? (by decide)) fun _ _ _ _ _ _ => ?_
  refine .andThen (.group _ (.commaSeparated hg.anyType)) fun _ => ?_
  refine .andThen (.op? (by decide)) fun _ => .ite ?_ (.pure rfl)
  exact .bind (hg.type exact false) fun _ _ _ => .pure rfl

end Path

namespace Parameter

@[simp] theorem ends_bareAll (tokens : List Located) : ends (bareAll tokens) = ends tokens := by
  simp +decide [ends]

theorem steady_ofLifetime : Steady exact Eq ofLifetime ofLifetime := by
  refine .andThen .lifetime fun _ => .andThen (.announced (by decide) ?_) fun _ => .pure rfl
  exact .chained ends_bareAll (by decide) .lifetime

variable (hg : Robust g)

include hg

theorem steady_ofType : Steady exact Eq (ofType g) (ofType g) := by
  refine .andThen .ident fun _ => .andThen (.announced (by decide) ?_) fun _ => ?_
  · exact .chained (fun tokens => by simp +decide) (by decide) (hg.bound exact)
  · exact .andThen (.op? (by decide)) fun _ => .ite hg.anyType (.pure rfl)

theorem steady_ofConstant : Steady exact Eq (ofConstant g) (ofConstant g) := by
  refine .andThen (.word _) fun _ => .andThen .ident fun _ => .andThen (.op (by decide)) fun _ => ?_
  refine .andThen hg.anyType fun _ => .andThen (.op? (by decide)) fun _ => ?_
  exact .ite (Path.steady_constant hg) (.pure rfl)

theorem steady_read : Steady exact Eq (read g) (read g) := by
  refine .andThen (Attribute.steady_outer hg) fun _ => .ahead (fun tokens => by simp) fun _ => ?_
  refine .ite (.andThen steady_ofLifetime fun _ => .pure rfl) ?_
  refine .ite (.andThen (steady_ofType hg) fun _ => .pure rfl) (.ite ?_ ?_)
  · exact .andThen (steady_ofConstant hg) fun _ => .pure rfl
  · exact .andThen .fail fun _ => .pure rfl

end Parameter

namespace Bound

@[simp] theorem begins_bareAll (place : Place) (tokens : List Located) :
    begins place (bareAll tokens) = begins place tokens := by
  simp +decide [begins]

theorem steady_capture : Steady exact Eq capture capture := by
  refine .ahead (fun tokens => by simp) fun _ => .ite (.andThen .lifetime fun _ => .pure rfl) ?_
  exact .ite (.andThen .anyIdent fun _ => .pure rfl) .fail

theorem steady_captures : Steady exact Eq captures captures := by
  refine .andThen (.word _) fun _ => .andThen (.op (by decide)) fun _ => ?_
  refine .bind (Path.steady_listed steady_capture) fun _ _ hlisted => ?_
  exact .andThen (.emit (Path.prints_arrange hlisted)) fun _ => .op (by decide)

theorem steady_constant? (place : Place) :
    Steady exact Eq (constant? place) (constant? place) := by
  refine .here fun start start' => .ahead (fun tokens => by simp) fun tokens => ?_
  refine .ite (.andThen (.group _ (.word _)) ?rest) (?rest ())
  refine fun _ => .ite (.andThen (.pure rfl) ?last) (.andThen (.word? _) ?last)
  exact fun plain => .ite (.andThen (.failAt _ _) fun _ => .pure rfl) (.pure rfl)

/-- A bound that speaks of constants has the word for it. -/
theorem signed_constant? (place : Place) : Signed id (constant? place) := by
  refine .here fun start => .ahead fun tokens => ?_
  have hlast (answer asked : Bool) (hasked : answer = true → asked = true) :
      Answers (fun c => id c = true → asked = true)
        (if (answer && !place.constants) = true then
          Reader.failAt start >>= fun _ : Unit => pure answer else pure answer) :=
    .ite (.failFirst _ _) (.pure hasked)
  cases isGroup .bracket tokens with
  | true =>
    exact .front (.group _ (.word (by decide))) fun _ =>
      .last .any fun _ => hlast _ true fun _ => rfl
  | false => exact .first (.word? (by decide) : Signed id _) fun plain => hlast _ _ id

variable (hg : Robust g)

include hg

theorem steady_binder : Steady exact Eq (binder g) (binder g) := by
  refine .andThen (.word _) fun _ => .andThen (.op (by decide)) fun _ => ?_
  refine .andThen (.separated (fun tokens => ?_) (by decide) ?_) fun _ => .op (by decide)
  · simp +decide
  · exact .discard (Parameter.steady_read hg)

theorem steady_binder? : Steady exact Eq (binder? g) (binder? g) :=
  .ahead (fun tokens => by simp) fun _ =>
    .ite (.andThen (steady_binder hg) fun _ => .pure rfl) (.pure rfl)

theorem steady_trait (place : Place) : Steady exact Eq (trait g place) (trait g place) := by
  refine .andThen (steady_binder? hg) fun bound =>
    .andThen (steady_constant? place) fun constant => ?_
  refine .here fun mark mark' => .andThen (.op? (by decide)) fun optional => ?_
  refine .ite (.andThen (steady_binder? hg) ?rest) (.andThen (.pure rfl) ?rest)
  refine fun late => .bind (Path.steady_unqualified hg false) fun form form' hform => ?_
  refine .ahead (fun tokens => by simp) fun tokens =>
    .iteSame (by rw [hform.arguments.isEmpty_eq])
      (.andThen (.emit ?front) fun _ => .andThen (Path.steady_parenthesized hg) ?last)
      (.andThen (.emit hform.tokens) ?last)
  · rw [hform.name]
    exact hform.before.append (.refl _)
  · exact fun _ => .ite (.andThen (.failAt _ _) fun _ => .pure rfl) (.pure rfl)

theorem signed_trait (place : Place) : Signed id (trait g place) := by
  refine .second (steady_binder? hg).answers fun bound => ?_
  refine .first (signed_constant? place) fun constant => .here fun mark => ?_
  refine .last (Steady.answers (.op? (by decide))) fun optional => ?_
  refine .ite (.last (steady_binder? hg).answers ?rest) (.last .any ?rest)
  refine fun late => .last (Path.steady_unqualified hg false).answers fun form => .ahead fun _ => ?_
  refine .ite (.last (.emit _) fun _ => .last (Path.steady_parenthesized hg).answers ?last)
    (.last (.emit _) ?last)
  exact fun _ => .ite (.failFirst _ _) (.pure id)

theorem steady_one (place : Place) : Steady exact Eq (one g place) (one g place) := by
  refine .ahead (fun tokens => by simp) fun tokens => ?_
  refine .ite (.andThen .lifetime fun _ => .pure rfl) (.ite ?_ ?_)
  · refine .here fun _ _ => .andThen steady_captures fun _ => .ite (.pure rfl) (.failAt _ _)
  · refine .andThen (.copyingIf ?_ (fun _ _ heq => heq ▸ rfl) fun _ => ?_) fun _ => .pure rfl
    · exact .ite (.group _ (steady_trait hg place)) (steady_trait hg place)
    · exact .ite (.group _ (signed_trait hg place)) (signed_trait hg place)

theorem steady_several (place : Place) (plus : Bool) :
    Steady exact Eq (several g place plus) (several g place plus) := by
  refine .repeatingSame fun found => .andThen (steady_one hg place) fun form => ?_
  refine .ahead (fun tokens => by simp +decide) fun _ => .ite ?_ (.pure (.done rfl))
  refine .andThen (.op (by decide)) fun _ => .ahead (fun tokens => by simp) fun _ => ?_
  exact .ite (.pure (.again rfl)) (.pure (.done rfl))

theorem steady_others : Steady exact Eq (others g) (others g) := by
  refine .repeatingSame fun found => .andThen (.op? (by decide)) fun _ =>
    .ite ?_ (.pure (.done rfl))
  exact .andThen (steady_one hg .object) fun _ => .pure (.again rfl)

end Bound

end ServiceGen.Grammar
