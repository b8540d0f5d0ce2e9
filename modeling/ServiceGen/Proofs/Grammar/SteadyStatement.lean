import ServiceGen.Grammar.Data
import ServiceGen.Grammar.Import
import ServiceGen.Proofs.Grammar.SteadyExpression

/-!
The readers of statements, of the declarations of data and of imports are steady if the entrances
are that they lead to. Nothing here has to be exact, since it all stands in braces or is not kept.
-/
namespace ServiceGen.Grammar

open Token Ahead

variable {g : Grammar}

/-- What is copied need not be exact. -/
theorem Steady.copyingAny {α β : Type} {R : α → β → Prop} {reader : Reader α} {reader' : Reader β}
    {asks : α → Bool} {asks' : β → Bool} (hreader : Steady false R reader reader')
    (hasks : ∀ a b, R a b → asks a = asks' b) :
    Steady false R (Reader.copyingIf asks reader) (Reader.copyingIf asks' reader') :=
  .copyingIf hreader hasks fun hexact => absurd hexact (by decide)

namespace Standalone

open Operation Expression

@[simp] theorem beginsStatement_bareAll (tokens : List Located) :
    beginsStatement (Located.bareAll tokens) = beginsStatement tokens := by
  simp [beginsStatement]

/-- That two beginnings of a statement differ in layout only. -/
structure Lead.Alike (lead lead' : Lead) : Prop where
  form : lead.form = lead'.form
  tokens : Prints false lead.tokens lead'.tokens
  ended : lead.ended = lead'.ended

variable (hg : Robust g)

include hg

theorem steady_lead (isStatement : Bool) :
    Steady false Lead.Alike (lead g isStatement) (lead g isStatement) := by
  refine .look fun ahead ahead' hsame => .iteSame ?_ ?_ ?_
  · exact Located.seen_eq beginsSigned_bareAll hsame
  · refine .andPrinting (hg.operand false true) fun form form' tokens tokens' hform hprints => ?_
    exact .pure ⟨hform, hprints, rfl⟩
  · refine .andPrinting (steady_atom hg true) ?_
    rintro form _ head head' rfl hhead
    rw [← Located.seen_eq beginsStatement_bareAll hsame]
    refine .ahead (fun next => by simp only [isTrailer_bareAll, isGroup_bareAll]) fun next => ?_
    refine .ite (.pure ⟨rfl, hhead, rfl⟩) ?_
    refine .andPrinting (steady_trailers hg form) fun last last' behind behind' hlast hbehind => ?_
    refine .pure ⟨hlast, .append ?_ hbehind, rfl⟩
    cases form with
    | bracedCall =>
      dsimp only
      split
      · exact hhead.group _
      · exact hhead
    | block | range | comparison | copied | other => exact hhead

theorem steady_statement {attributes attributes' : List Token}
    (hattributes : Prints false attributes attributes') :
    Steady false Eq (statement g attributes) (statement g attributes') := by
  refine .bind (steady_lead hg true) fun lead lead' hlead => .iteSame (by rw [hlead.ended]) ?_ ?_
  · exact .andThen (.emit (hattributes.append hlead.tokens)) fun _ => .pure hlead.form
  · rw [← hlead.form]
    have hheld : Prints false (if lead.form.isCopied then [] else attributes)
        (if lead.form.isCopied then [] else attributes') := by
      split
      · exact .refl []
      · exact hattributes
    refine .bind (steady_readCasts hg lead.form) fun casts casts' hcasts => ?_
    rw [← hcasts.tokens.isEmpty_eq]
    refine .andPrinting (hg.operators false true _ .lowest _ _ (.refl _)) ?_
    rintro last _ rest rest' rfl hrest
    have hoperand := hheld.append hlead.tokens
    dsimp only
    rw [← hrest.isEmpty_eq, ← hcasts.bracketed, ← hheld.isEmpty_eq]
    split
    · refine .andThen (.emit ?_) fun _ => .pure rfl
      exact hheld.append (((hcasts.behind hlead.tokens).append hrest).group _)
    · refine .andThen (.emit (.append (hcasts.behind ?_) hrest)) fun _ => .pure rfl
      split
      · split
        · exact hoperand.group _
        · exact hoperand
      · exact hoperand

theorem steady_caseValue : Steady false Eq (caseValue g) (caseValue g) := by
  refine .andPrinting (Attribute.steady_outer hg) fun _ _ attributes attributes' _ hattributes => ?_
  refine .bind (steady_lead hg false) fun lead lead' hlead => .iteSame (by rw [hlead.ended]) ?_ ?_
  · exact .andThen (.emit (hattributes.append hlead.tokens)) fun _ => .pure hlead.form
  · rw [← hlead.form]
    refine hg.operators false true lead.form .lowest _ _ ?_
    rw [← hattributes.isEmpty_eq]
    split
    · exact hlead.tokens
    · exact hattributes.append (hlead.tokens.group _)
    · exact hattributes.append hlead.tokens

end Standalone

namespace Statement

open Expression

@[simp] theorem beginsItem_bareAll (tokens : List Located) :
    beginsItem (Located.bareAll tokens) = beginsItem tokens := by
  simp +decide [beginsItem]

/-- Whether braces were printed last does not depend on layout. -/
theorem steady_endsInBrace : Steady false Eq endsInBrace endsInBrace := by
  intro input input' halike
  refine .ok ?_ halike (List.suffix_refl _) (List.suffix_refl _)
  have hlast : input.printed.map loose = input'.printed.map loose := by
    have hloose := halike.printed.loose
    rwa [looseAll_eq_map, looseAll_eq_map, List.map_reverse, List.map_reverse,
      List.reverse_inj] at hloose
  cases hprinted : input.printed <;> cases hprinted' : input'.printed <;>
    rw [hprinted, hprinted'] at hlast
  case nil.cons | cons.nil => exact absurd hlast (by simp)
  case cons.cons last _ last' _ =>
    have hlast : loose last = loose last' := (List.cons.inj hlast).1
    cases last <;> cases last' <;> simp only [loose, reduceCtorEq] at hlast
    case group.group delimiter _ delimiter' _ _ =>
      obtain rfl : delimiter = delimiter' := (Token.group.inj hlast).1
      cases delimiter <;> rfl
    all_goals rfl

theorem steady_callAhead : Steady false Eq callAhead callAhead := by
  intro input input' halike
  refine .ok ?_ halike (List.suffix_refl _) (List.suffix_refl _)
  obtain ⟨_, _, hrun, hrun'⟩ | ⟨_, after, _, after', hrun, hrun', -, hafter, -⟩ :=
    Path.steady_plain.run halike
  · rw [hrun, hrun']
  · rw [hrun, hrun']
    refine Located.seen_eq (f := fun tokens =>
      if !isOp "!" tokens then Call.absent
      else if isIdent (skip tokens) || isWord "try" (skip tokens) then .declaring
      else if isGroup .brace (skip tokens) &&
          !((isOp "." (skip (skip tokens)) && !isOp ".." (skip (skip tokens))) ||
            isOp "?" (skip (skip tokens))) then .whole
      else .absent) (fun tokens => ?_) hafter.rest
    simp +decide only [isOp_bareAll, skip_bareAll, isIdent_bareAll, isWord_bareAll,
      isGroup_bareAll]

theorem steady_wholeCall : Steady false Eq wholeCall wholeCall :=
  .andThen Path.steady_plain fun _ => .call fun _ => .andThen (.op? (by decide)) fun _ => .pure rfl

variable (hg : Robust g)

include hg

theorem steady_binding : Steady false Eq (binding g) (binding g) := by
  have hend (_ : Unit) : Steady false Eq (Reader.op ";") (Reader.op ";") := .op (by decide)
  have hvalue (_ : Unit) : Steady false Eq (do
      if ← Reader.op? "=" then
        g.expression
        if !(← endsInBrace) && isWord "else" (← Reader.ahead) then
          Reader.word "else"
          Expression.plainBlock g
      Reader.op ";") (do
      if ← Reader.op? "=" then
        g.expression
        if !(← endsInBrace) && isWord "else" (← Reader.ahead) then
          Reader.word "else"
          Expression.plainBlock g
      Reader.op ";") := by
    refine .andThen (.op? (by decide)) fun _ => .ite ?_ (hend ())
    refine .andThen hg.expression fun _ => .andThen steady_endsInBrace fun _ => ?_
    refine .ahead (fun tokens => by simp) fun _ => .ite ?_ (hend ())
    exact .andThen (.word _) fun _ => .andThen (steady_plainBlock hg) hend
  refine .andThen (.word _) fun _ => .bind (hg.pattern false) fun _ _ _ => ?_
  exact .andThen (.op? (by decide)) fun _ => .ite (.andThen hg.anyType hvalue) (hvalue ())

theorem steady_declaration {attributes attributes' : List Token}
    (hattributes : Prints false attributes attributes') :
    Steady false Eq (declaration g attributes) (declaration g attributes') :=
  .andThen (.emit hattributes) fun _ => .andThen hg.item fun _ => .pure rfl

theorem steady_one : Steady false Eq (one g) (one g) := by
  refine .copyingAny ?_ fun _ _ heq => heq ▸ rfl
  refine .andPrinting (Attribute.steady_outer hg) fun _ _ attributes attributes' _ hattributes => ?_
  refine .andThen steady_callAhead fun call => ?_
  cases call with
  | whole =>
    exact .andThen (.emit hattributes) fun _ => .andThen steady_wholeCall fun _ => .pure rfl
  | declaring => exact steady_declaration hg hattributes
  | absent =>
    refine .ahead (fun tokens => by simp) fun tokens =>
      .ite ?_ (.ite (steady_declaration hg hattributes) ?_)
    · exact .andThen (.emit hattributes) fun _ => .andThen (steady_binding hg) fun _ => .pure rfl
    · refine .andThen (Standalone.steady_statement hg hattributes) fun form => ?_
      refine .andThen (.op? (by decide)) fun _ => .ite (.pure rfl) ?_
      cases form <;> exact .pure rfl

theorem steady_all : Steady false Eq (all g) (all g) := by
  refine .repeatingSame fun _ => .andThen .atEnd fun _ => .ite (.pure (.done rfl)) ?_
  refine .andThen (.op? (by decide)) fun _ => .ite (.pure (.again rfl)) ?_
  refine .andThen (steady_one hg) fun form => .andThen .atEnd fun _ => .ite (.pure (.done rfl)) ?_
  exact .ite .fail (.pure (.again rfl))

end Statement

namespace Import

@[simp] theorem beginsSegment_bareAll (tokens : List Located) :
    beginsSegment (Located.bareAll tokens) = beginsSegment tokens := by
  simp [beginsSegment]

theorem steady_otherName : Steady false Eq otherName otherName :=
  .ahead (fun tokens => by simp) fun _ => .ite (.andThen .anyIdent fun _ => .pure rfl) .fail

variable (hg : Robust g)

include hg

theorem steady_several (rooted : Bool) : Steady false Eq (several g rooted) (several g rooted) := by
  refine .group _ (.repeatingSame fun found => .andThen .atEnd fun _ => .ite (.pure (.done rfl)) ?_)
  refine .ite (.andThen (.op? (by decide)) ?rest) (.andThen (.pure rfl) ?rest)
  refine fun isRooted => .andThen (hg.selection _) fun within => .andThen .atEnd fun _ => ?_
  exact .ite (.pure (.done rfl)) (.andThen (.op (by decide)) fun _ => .pure (.again rfl))

theorem steady_selection (rooted : Bool) :
    Steady false Eq (selection g rooted) (selection g rooted) := by
  refine .ahead (fun tokens => by simp +decide) fun _ =>
    .ite ?_ (.ite ?_ (.ite (steady_several hg rooted) .fail))
  · refine .andThen .anyIdent fun _ => .andThen (.op? (by decide)) fun _ => .ite (hg.selection _) ?_
    refine .andThen (.word? _) fun _ => .ite ?_ (.pure rfl)
    exact .andThen steady_otherName fun _ => .pure rfl
  · exact .andThen (.op (by decide)) fun _ => .pure rfl

theorem steady_read : Steady false Eq (read g) (read g) := by
  refine .andThen (.word _) fun _ => .andThen (.op? (by decide)) fun _ => ?_
  exact .andThen (hg.selection _) fun _ => .andThen (.op (by decide)) fun _ => .pure rfl

end Import

namespace Data

variable (hg : Robust g)

include hg

theorem steady_namedField : Steady false Eq (namedField g) (namedField g) := by
  refine .andThen (Attribute.steady_outer hg) fun _ =>
    .andThen Generics.steady_visibility fun _ => ?_
  refine .ahead (fun tokens => by simp) fun _ =>
    .ite (.andThen .anyIdent ?rest) (.andThen .ident ?rest)
  refine fun _ => .andThen (.op (by decide)) fun _ => .ahead (fun tokens => by simp) fun _ => ?_
  refine .ite (.copyingAny (R := Eq) ?_ fun _ _ _ => rfl) hg.anyType
  exact .andThen .anyIdent fun _ => hg.fields

theorem steady_namedFields : Steady false Eq (namedFields g) (namedFields g) :=
  .group _ (.commaSeparated (steady_namedField hg))

theorem steady_positionalFields : Steady false Eq (positionalFields g) (positionalFields g) := by
  refine .group _ (.commaSeparated ?_)
  exact .andThen (Attribute.steady_outer hg) fun _ => .andThen Generics.steady_visibility fun _ =>
    hg.anyType

theorem steady_fields : Steady false Eq (fields g) (fields g) := by
  refine .andThen (Generics.steady_conditions? hg) fun _ =>
    .ahead (fun tokens => by simp) fun _ => ?_
  refine .ite (.andThen (steady_positionalFields hg) fun _ => ?_) (.ite (steady_namedFields hg) ?_)
  · exact .andThen (Generics.steady_conditions? hg) fun _ => .op (by decide)
  · exact .op (by decide)

theorem steady_variant : Steady false Eq (variant g) (variant g) := by
  refine .andThen (Attribute.steady_outer hg) fun _ => ?_
  refine .andPrinting Generics.steady_visibility fun _ _ _ _ _ _ => .andThen .ident fun _ => ?_
  refine .ahead (fun tokens => by simp) fun _ => .ite (.andThen (steady_namedFields hg) ?value)
    (.ite (.andThen (steady_positionalFields hg) ?value) (?value ()))
  exact fun _ => .andThen (.op? (by decide)) fun _ => .ite hg.expression (.pure rfl)

theorem steady_enumeration : Steady false Eq (enumeration g) (enumeration g) :=
  .andThen (Generics.steady_conditions? hg) fun _ => .group _ (.commaSeparated (steady_variant hg))

theorem steady_union : Steady false Eq (union g) (union g) :=
  .andThen (Generics.steady_conditions? hg) fun _ => steady_namedFields hg

end Data

end ServiceGen.Grammar
