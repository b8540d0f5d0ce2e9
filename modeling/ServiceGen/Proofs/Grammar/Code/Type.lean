import ServiceGen.Proofs.Grammar.Placed
import ServiceGen.Proofs.Grammar.Plain

/-!
The types of generated code. They are plain types, paths with an argument whose closing bracket may
be joined to that of another, and objects, of which some are functions. Such tokens are lexemes one
by one, and they are taken as a type in front of whatever ends one.
-/
namespace ServiceGen.Grammar

open Located Token Reader Ahead

/-! Bare paths -/

/-- A segment of a path without arguments. -/
inductive BareSegment where
  | keyword (keyword : Keyword)
  | name (name : Name)

def BareSegment.text : BareSegment → String
  | .keyword word => word.text
  | .name free => free.text

/-- A path of segments without arguments, perhaps with `::` in front. -/
structure BarePath where
  rooted : Bool
  first : BareSegment
  others : List BareSegment

/-- Segments behind a first one. -/
def chain : List BareSegment → List Token
  | [] => []
  | segment :: rest => separator ++ .ident segment.text :: chain rest

namespace BarePath

def tokens (path : BarePath) : List Token :=
  (if path.rooted then separator else []) ++ .ident path.first.text :: chain path.others

/-- A name alone. -/
def single (name : Name) : BarePath := ⟨false, .name name, []⟩

/-- A path with more names behind it. -/
def join (path : BarePath) (names : List Name) : BarePath :=
  { path with others := path.others ++ names.map .name }

theorem chain_append (front back : List BareSegment) :
    chain (front ++ back) = chain front ++ chain back := by
  induction front with
  | nil => rfl
  | cons segment front ih => simp [chain, ih]

theorem tokens_join (path : BarePath) (names : List Name) :
    (path.join names).tokens = path.tokens ++ chain (names.map .name) := by
  rw [tokens, tokens, join, chain_append, List.append_assoc, List.cons_append]

end BarePath

theorem BareSegment.readable (segment : BareSegment) : Readable [.ident segment.text] := by
  cases segment with
  | keyword keyword => exact keyword.readable
  | name name => exact readable_word name.word trivial

theorem readable_chain (segments : List BareSegment) : Readable (chain segments) := by
  induction segments with
  | nil => trivial
  | cons segment segments ih => exact readable_separator.append (segment.readable.append ih)

theorem BarePath.readable (path : BarePath) : Readable path.tokens := by
  refine .append ?_ (path.first.readable.append (readable_chain path.others))
  cases path.rooted with
  | true => exact readable_separator
  | false => trivial

variable {g : Grammar} {inExpression plus : Bool} {tokens front rest : List Token}

theorem BareSegment.takes (segment : BareSegment) (hends : Path.EndsSegment (placedAll rest)) :
    Takes (Path.segment g inExpression) (placedAll [.ident segment.text]) (placedAll rest)
      (segment.text, .absent) [.ident segment.text] := by
  cases segment with
  | keyword keyword => exact Path.takes_keyword keyword hends
  | name name => exact Path.takes_plain name hends

/-- A segment ends in front of other segments as it does in front of what is behind these. -/
theorem endsSegment_chain {segments : List BareSegment}
    (hends : Path.EndsSegment (placedAll rest)) :
    Path.EndsSegment (placedAll (chain segments ++ rest)) := by
  cases segments with
  | nil => exact hends
  | cons segment segments => exact ⟨rfl, rfl⟩

theorem exists_chained (segments : List BareSegment) {printed : List Token}
    (hfront : Path.Chained g inExpression (placedAll rest) (placedAll front) printed)
    (hends : Path.EndsSegment (placedAll (front ++ rest))) :
    ∃ printed, Path.Chained g inExpression (placedAll rest) (placedAll (chain segments ++ front))
      printed := by
  induction segments with
  | nil => exact ⟨printed, hfront⟩
  | cons segment segments ih =>
    obtain ⟨others, hmore⟩ := ih
    have hsegment : Takes (Path.segment g inExpression) (placedAll [.ident segment.text])
        (placedAll (chain segments ++ front) ++ placedAll rest) (segment.text, .absent)
        [.ident segment.text] := by
      rw [← placedAll_append, List.append_assoc]
      exact segment.takes (endsSegment_chain hends)
    have hchained : Path.Chained g inExpression (placedAll rest)
        (placedAll separator ++ placedAll [.ident segment.text] ++
          placedAll (chain segments ++ front)) _ := .cons rfl hsegment hmore
    exact ⟨_, hchained⟩

/-- A path is read with the segments behind it. -/
theorem BarePath.exists_takes (path : BarePath) {printed : List Token}
    (hfront : Path.Chained g inExpression (placedAll rest) (placedAll front) printed)
    (hends : Path.EndsSegment (placedAll (front ++ rest)))
    (hcolons : isOp "::" (placedAll rest) = false) :
    ∃ form, Takes (Path.unqualified g inExpression) (placedAll (path.tokens ++ front))
      (placedAll rest) form [] := by
  obtain ⟨others, hchained⟩ := exists_chained path.others hfront hends
  have hsegment : Takes (Path.segment g inExpression) (placedAll [.ident path.first.text])
      (placedAll (chain path.others ++ front) ++ placedAll rest) (path.first.text, .absent)
      [.ident path.first.text] := by
    rw [← placedAll_append, List.append_assoc]
    exact path.first.takes (endsSegment_chain hends)
  rw [tokens]
  cases path.rooted with
  | true =>
    have hlead : Takes (op? "::") (placedAll separator) (placedAll [.ident path.first.text] ++
        placedAll (chain path.others ++ front) ++ placedAll rest) true separator :=
      takes_op? Path.takes_separator rfl
    obtain ⟨form, htakes, -⟩ := Path.takes_unqualified hlead hsegment hchained hcolons
    exact ⟨form, htakes⟩
  | false =>
    obtain ⟨form, htakes, -⟩ := Path.takes_unqualified (skips_op? rfl) hsegment hchained hcolons
    exact ⟨form, htakes⟩

/-! Types -/

/-- That tokens are taken as a path, whose last segment may have an argument. -/
structure AcceptsPath (tokens : List Token) : Prop where
  begins : ∀ rest, BeginsPath (placedAll (tokens ++ rest))
  hash : ∀ rest, isOp "#" (placedAll rest) = false →
    isOp "#" (skip (placedAll (tokens ++ rest))) = false
  accepted : ∀ depth rest, extent tokens ≤ depth → Path.Ends (placedAll rest) →
    ∃ form, Takes (Path.unqualified (ofDepth depth) false) (placedAll tokens) (placedAll rest)
      form []

/-- That tokens are taken as a type. -/
def AcceptsType (plus : Bool) (tokens : List Token) : Prop :=
  ∀ depth rest, extent tokens < depth → Type.Ends (placedAll rest) →
    Type.Begins (placedAll (tokens ++ rest)) ∧ Accepts ((ofDepth depth).type plus) tokens rest

/-- Tokens that are lexemes one by one and are taken as a type. -/
structure IsType (plus : Bool) (tokens : List Token) : Prop where
  readable : Readable tokens
  accepted : AcceptsType plus tokens

theorem PlainType.isType (type : PlainType plus) : IsType plus type.tokens where
  readable := type.readable
  accepted depth rest hdepth hends := by
    obtain ⟨hbegins, form, htakes⟩ := type.readAsType depth (placedAll type.tokens) (placedAll rest)
      (tokens_placedAll _) hdepth hends
    exact ⟨placedAll_append .. ▸ hbegins, form, htakes.parses⟩

theorem AcceptsType.ofForm
    (hform : ∀ depth rest, extent tokens ≤ depth → Type.Ends (placedAll rest) →
      Type.Begins (placedAll (tokens ++ rest)) ∧
        Accepts (Type.form (ofDepth depth) plus) tokens rest) : AcceptsType plus tokens := by
  intro depth rest hdepth hends
  obtain ⟨depth, rfl⟩ := Nat.exists_eq_add_one_of_ne_zero (Nat.ne_zero_of_lt hdepth)
  obtain ⟨hbegins, hform⟩ := hform depth rest (Nat.le_of_lt_succ hdepth) hends
  exact ⟨hbegins, hform.copyingIf⟩

theorem AcceptsType.nonempty (htype : AcceptsType plus tokens) : tokens ≠ [] := by
  rintro rfl
  obtain ⟨hbegins, -⟩ := htype 1 [] (Nat.lt_add_one 0) .nil
  exact absurd hbegins.nonempty (by decide)

theorem AcceptsPath.type (hpath : AcceptsPath tokens) : AcceptsType plus tokens := by
  refine .ofForm fun depth rest hdepth hends => ?_
  obtain ⟨form, htakes⟩ := hpath.accepted depth rest hdepth hends.toEnds
  have hbegins := hpath.begins rest
  have hhash := hpath.hash rest hends.hash
  refine ⟨.ofPath hbegins, .path form, ?_⟩
  rw [placedAll_append] at hbegins hhash
  exact (Type.takes_named hbegins hends.bang hends.unadded hhash htakes).parses

theorem beginsPath_text (segment : BareSegment) (position : Position) (rest : List Located) :
    BeginsPath (.ident segment.text position :: rest) := by
  cases segment with
  | keyword keyword => exact .keyword keyword position rest
  | name name => exact .name name position rest

theorem BarePath.begins (path : BarePath) (rest : List Token) :
    BeginsPath (placedAll (path.tokens ++ rest)) := by
  rw [tokens]
  cases path.rooted with
  | true => exact .rooted .start .start _
  | false => exact beginsPath_text path.first .start _

theorem BarePath.hash (path : BarePath) (hrest : isOp "#" (placedAll rest) = false) :
    isOp "#" (skip (placedAll (path.tokens ++ rest))) = false := by
  rw [tokens]
  cases path.rooted with
  | true => rfl
  | false =>
    cases path.others with
    | nil => exact hrest
    | cons segment others => rfl

theorem BarePath.acceptsPath (path : BarePath) : AcceptsPath path.tokens where
  begins := path.begins
  hash _ := path.hash
  accepted depth rest _ hends := by
    have hnothing : Path.Chained (ofDepth depth) false (placedAll rest) (placedAll []) [] := .nil
    rw [← List.append_nil path.tokens]
    exact path.exists_takes hnothing hends.segment hends.colons

theorem BarePath.isType (path : BarePath) : IsType plus path.tokens :=
  ⟨path.readable, path.acceptsPath.type⟩

def BareSegment.plain : BareSegment → PlainSegment
  | .keyword word => .keyword word
  | .name free => .plain free

def BarePath.plain (path : BarePath) : PlainPath :=
  .mk path.rooted path.first.plain (path.others.map BareSegment.plain)

theorem BareSegment.tokens_plain (segment : BareSegment) :
    segment.plain.tokens = [.ident segment.text] := by
  cases segment <;> rfl

theorem BarePath.tokens_plain (path : BarePath) : path.plain.tokens = path.tokens := by
  have hothers : segmentsTokens (path.others.map BareSegment.plain) = chain path.others := by
    induction path.others with
    | nil => rfl
    | cons segment others ih => simp [segmentsTokens, chain, segment.tokens_plain, ih]
  simp [plain, PlainPath.tokens, tokens, path.first.tokens_plain, hothers]

/-- A reference to a type. -/
theorem IsType.referenced (htype : IsType false tokens) (changing : Bool) :
    IsType plus (.punct '&' false :: ((if changing then [.ident "mut"] else []) ++ tokens)) where
  readable := by
    refine readable_mark (by decide) (.append ?_ htype.readable)
    cases changing with
    | true => exact readable_word rfl trivial
    | false => trivial
  accepted := by
    refine .ofForm fun depth rest hdepth hends => ?_
    simp only [extent_punct, extent_append] at hdepth
    obtain ⟨hbegins, form, printed, htakes⟩ := htype.accepted depth rest (by omega) hends
    rw [placedAll_append] at hbegins
    have hlifetime : isLifetime (placedAll (if changing then [.ident "mut"] else []) ++
        (placedAll tokens ++ placedAll rest)) = false := by
      cases changing with
      | true => rfl
      | false => exact hbegins.lifetime
    have hfirst : Located.tokens [] = (none : Option Lifetime).elim [] Lifetime.tokens := rfl
    have hform : Takes (Type.form (ofDepth depth) plus) (.punct '&' false .start :: ([] ++
        (placedAll (if changing then [.ident "mut"] else []) ++ placedAll tokens)))
        (placedAll rest) .other _ :=
      Type.takes_reference hfirst (tokens_placedAll _) hlifetime hbegins.changing htakes
    rw [List.nil_append, ← placedAll_append] at hform
    exact ⟨by constructor <;> rfl, .other, _, hform⟩

/-- An object of a trait. -/
theorem BarePath.isType_object (path : BarePath) : IsType plus (.ident "dyn" :: path.tokens) := by
  have htype := (PlainType.bounded false path.plain : PlainType plus).isType
  rwa [PlainType.tokens, path.tokens_plain] at htype

/-- Traits without arguments, with a plus sign in front of each. -/
def markers (names : List Name) : List Token :=
  names.flatMap fun name => [.punct '+' false, .ident name.text]

/-- An object of several traits. -/
theorem BarePath.isType_objects (path : BarePath) (marker : Name) (more : List Name) :
    IsType true (.ident "dyn" :: (path.tokens ++ markers (marker :: more))) := by
  have hmore : boundsTokens (more.map fun name => .trait (BarePath.single name).plain) =
      markers more := by
    induction more with
    | nil => rfl
    | cons name more ih =>
      rw [List.map_cons, boundsTokens, PlainBound.tokens, BarePath.tokens_plain, ih]
      rfl
  have htype := (PlainType.several false path.plain (.trait (BarePath.single marker).plain)
    (more.map fun name => .trait (BarePath.single name).plain)).isType
  rwa [PlainType.tokens, PlainBound.tokens, path.tokens_plain, BarePath.tokens_plain,
    hmore] at htype

/-! Arguments -/

/-- The front of a path up to the name that an argument stands behind. -/
structure Opening where
  lead : Option BarePath
  name : Name

def Opening.code (opening : Opening) : List Token :=
  opening.lead.elim [] (fun path => path.tokens ++ separator) ++ [.ident opening.name.text]

/-- An argument in angle brackets, perhaps with a comma behind it. The closing bracket may be joined
to what follows. -/
def angled (argument : List Token) (trailing joint : Bool) : List Token :=
  .punct '<' false :: (argument ++ ((if trailing then [comma] else []) ++ [.punct '>' joint]))

theorem Opening.readable (opening : Opening) : Readable opening.code := by
  refine .append ?_ (readable_word opening.name.word trivial)
  cases opening.lead with
  | none => trivial
  | some path => exact path.readable.append readable_separator

theorem accepts_argument {depth : Nat} (htype : AcceptsType true tokens)
    (hdepth : extent tokens < depth) (hends : Type.Ends (placedAll rest))
    (hplain : isOp "=" (placedAll rest) = false ∧ isOp ":" (placedAll rest) = false) :
    isOp ">" (placedAll (tokens ++ rest)) = false ∧
      Accepts (Path.argument (ofDepth depth)) tokens rest := by
  obtain ⟨hbegins, form, printed, htakes⟩ := htype depth rest hdepth hends
  refine ⟨hbegins.greater, .type, printed, ?_⟩
  rw [placedAll_append] at hbegins
  exact Path.takes_type_argument hbegins.lifetime hbegins.literal hbegins.brace hplain.1 hplain.2
    htakes

theorem ends_closing (joint : Bool) (rest : List Token) :
    Type.Ends (placedAll (.punct '>' joint :: rest)) :=
  ⟨⟨by cases joint <;> rfl, rfl, rfl⟩, rfl, rfl, rfl⟩

theorem ends_comma (rest : List Token) : Type.Ends (placedAll (comma :: rest)) :=
  ⟨⟨rfl, rfl, rfl⟩, rfl, rfl, rfl⟩

theorem FollowsPiece.endsType (hfollows : FollowsPiece [] rest) : Type.Ends (placedAll rest) := by
  obtain rfl | ⟨more, rfl⟩ := hfollows
  · exact .nil
  · exact ends_comma more

theorem accepts_angled {depth : Nat} {trailing joint : Bool} (htype : AcceptsType true tokens)
    (hdepth : extent tokens < depth) :
    Accepts (Path.angled (ofDepth depth)) (angled tokens trailing joint) rest := by
  have hlisted : Accepts (Path.listed (Path.argument (ofDepth depth)))
      (tokens ++ if trailing then [comma] else []) (.punct '>' joint :: rest) := by
    unfold Path.listed
    refine .last ((?_ : ∃ items, Loops _ _ _ _ items).imp fun _ => Loops.repeating) fun _ => .pure
    cases trailing with
    | false =>
      obtain ⟨hgreater, form, printed, hargument⟩ :=
        accepts_argument htype hdepth (ends_closing joint rest) ⟨rfl, rfl⟩
      rw [if_neg Bool.false_ne_true, List.append_nil]
      exact ⟨_, .done (.ahead (.no hgreater (.last hargument.printing.parses
        (.ahead (.yes rfl .pure)))))⟩
    | true =>
      obtain ⟨hgreater, form, printed, hargument⟩ :=
        accepts_argument htype hdepth (ends_comma (.punct '>' joint :: rest)) ⟨rfl, rfl⟩
      rw [if_pos rfl, ← List.append_nil (tokens ++ [comma])]
      refine ⟨[(form, printed, true)], .again (by simp) (.ahead (.no ?_ ?_))
        (.done (.ahead (.yes rfl .pure)))⟩
      · rw [List.append_assoc]
        exact hgreater
      · refine .bind hargument.printing.parses (.ahead (.no rfl ?_))
        exact (takes_op rfl).printing.parses.last .pure
  have hangled : angled tokens trailing joint = .punct '<' false ::
      ((tokens ++ if trailing then [comma] else []) ++ [.punct '>' joint]) := by
    simp [angled]
  rw [hangled]
  refine .skip (passes_op? rfl) (.cons (parses_op rfl) ?_)
  exact .bind hlisted fun arguments => ⟨_, .skip (.emit _) ((parses_op rfl).last .pure)⟩

/-- A name with an argument is a segment. -/
theorem exists_takes_generic {depth : Nat} {trailing joint : Bool} (name : Name)
    (htype : AcceptsType true tokens) (hdepth : extent tokens < depth) :
    ∃ arguments printed, Takes (Path.segment (ofDepth depth) false)
      (placedAll (.ident name.text :: angled tokens trailing joint)) (placedAll rest)
      (name.text, arguments) printed := by
  obtain ⟨arguments, printed, hangled⟩ : Accepts (Path.angled (ofDepth depth))
      (angled tokens trailing joint) rest := accepts_angled htype hdepth
  exact ⟨arguments, _, Path.takes_generic name rfl ⟨rfl, rfl⟩ hangled⟩

/-- A path with an argument. -/
theorem Opening.acceptsPath (opening : Opening) {trailing joint : Bool}
    (htype : AcceptsType true tokens) :
    AcceptsPath (opening.code ++ angled tokens trailing joint) where
  begins rest := by
    cases hlead : opening.lead with
    | none =>
      rw [code, hlead]
      exact .name opening.name .start _
    | some path =>
      rw [code, hlead, List.append_assoc, List.append_assoc, Option.elim, List.append_assoc]
      exact path.begins _
  hash rest hrest := by
    cases hlead : opening.lead with
    | none =>
      rw [code, hlead]
      rfl
    | some path =>
      rw [code, hlead, List.append_assoc, List.append_assoc, Option.elim, List.append_assoc]
      exact path.hash rfl
  accepted depth rest hdepth hends := by
    simp only [angled, extent_append, extent_punct] at hdepth
    have hless : extent tokens < depth := by omega
    obtain ⟨arguments, printed, hsegment⟩ : ∃ arguments printed,
        Takes (Path.segment (ofDepth depth) false)
          (placedAll (.ident opening.name.text :: angled tokens trailing joint)) (placedAll rest)
          (opening.name.text, arguments) printed := exists_takes_generic opening.name htype hless
    cases hlead : opening.lead with
    | none =>
      have hnothing : Path.Chained (ofDepth depth) false (placedAll rest) [] [] := .nil
      have hunrooted : Takes (op? "::") [] (placedAll (.ident opening.name.text ::
          angled tokens trailing joint) ++ [] ++ placedAll rest) false [] := skips_op? rfl
      obtain ⟨form, htakes, -⟩ :=
        Path.takes_unqualified hunrooted hsegment hnothing hends.colons
      rw [code, hlead]
      exact ⟨form, by simpa using htakes⟩
    | some path =>
      have hchained : Path.Chained (ofDepth depth) false (placedAll rest)
          (placedAll (separator ++ (.ident opening.name.text :: angled tokens trailing joint)))
          (separator ++ printed ++ []) := by
        rw [placedAll_append, ← List.append_nil (placedAll separator ++ _)]
        exact .cons rfl (by simpa using hsegment) .nil
      obtain ⟨form, htakes⟩ := path.exists_takes hchained ⟨rfl, rfl⟩ hends.colons
      rw [code, hlead]
      exact ⟨form, by simpa using htakes⟩

theorem readable_angled {trailing : Bool} (hreadable : Readable tokens) :
    Readable (angled tokens trailing false) := by
  refine readable_mark (by decide)
    (hreadable.append (.append ?_ (readable_mark (by decide) trivial)))
  cases trailing with
  | true => exact readable_mark (by decide) trivial
  | false => trivial

/-- A path with an argument is a type. -/
theorem Opening.isType (opening : Opening) (trailing : Bool) (htype : IsType true tokens) :
    IsType plus (opening.code ++ angled tokens trailing false) :=
  ⟨opening.readable.append (readable_angled htype.readable),
    (opening.acceptsPath htype.accepted).type⟩

/-- The closing brackets of two arguments may be one operator. -/
def nested (inner : Opening) (tokens : List Token) : List Token :=
  angled (inner.code ++ angled tokens false true) false false

theorem readable_nested (inner : Opening) (hreadable : Readable tokens) :
    Readable (nested inner tokens) := by
  have hclosing : Readable [.punct '>' true, .punct '>' false] :=
    ⟨trivial, ⟨by decide, by decide, by decide⟩, readable_mark (by decide) trivial⟩
  have hinner := readable_mark (c := '<') (by decide) (hreadable.append hclosing)
  simpa [nested, angled] using readable_mark (c := '<') (by decide) (inner.readable.append hinner)

theorem Opening.acceptsPath_nested (outer inner : Opening) (htype : AcceptsType true tokens) :
    AcceptsPath (outer.code ++ nested inner tokens) :=
  outer.acceptsPath (inner.acceptsPath htype).type

theorem Opening.isType_nested (outer inner : Opening) (htype : IsType true tokens) :
    IsType plus (outer.code ++ nested inner tokens) :=
  ⟨outer.readable.append (readable_nested inner htype.readable),
    (outer.acceptsPath_nested inner htype.accepted).type⟩

/-! Objects that are functions -/

theorem readable_markers (names : List Name) : Readable (markers names) := by
  induction names with
  | nil => trivial
  | cons name names ih => exact readable_mark (by decide) (readable_word name.word ih)

theorem ends_markers {names : List Name} (hends : Path.Ends (placedAll rest)) :
    Path.Ends (placedAll (markers names ++ rest)) := by
  cases names with
  | nil => exact hends
  | cons name names => exact ⟨rfl, rfl, rfl⟩

/-- A trait without arguments is a bound. -/
theorem Name.parses_bound (name : Name) {place : Bound.Place} (hends : Path.Ends (placedAll rest)) :
    Parses (Bound.one g place) [.ident name.text] rest .trait :=
  (Bound.takes_one_trait (.name name .start _) hends
    (Path.takes_single name hends.segment hends.colons)).parses

/-- Markers behind a bound. -/
theorem accepts_markers {depth : Nat} {names : List Name}
    (hfirst : Parses (Bound.one (ofDepth depth) .object) tokens (markers names ++ rest) .trait)
    (hnonempty : tokens ≠ []) (hends : Type.Ends (placedAll rest)) :
    Parses (Bound.several (ofDepth depth) .object true) (tokens ++ markers names) rest true := by
  refine Loops.repeating ?_
  generalize false = found
  induction names generalizing tokens found with
  | nil =>
    rw [markers, List.flatMap_nil, List.append_nil]
    exact .done (hfirst.last (.ahead (.no hends.plus .pure)))
  | cons name names ih =>
    have hname : Parses (Bound.one (ofDepth depth) .object) [.ident name.text]
        (markers names ++ rest) .trait := name.parses_bound (ends_markers hends.toEnds)
    have hall : tokens ++ markers (name :: names) =
        (tokens ++ [.punct '+' false]) ++ ([.ident name.text] ++ markers names) := by
      simp [markers]
    rw [hall]
    refine .again (by simp) ?_ (ih hname (List.cons_ne_nil _ _) true)
    refine .bind hfirst (.ahead (.yes rfl ((parses_op rfl).last (.ahead (.yes rfl .pure)))))

def arrow : List Token := [.punct '-' true, .punct '>' false]

theorem readable_arrow (hresult : Readable tokens) : Readable (arrow ++ tokens) :=
  ⟨trivial, ⟨by decide, by decide, by decide⟩, readable_mark (by decide) hresult⟩

/-- The trait of functions with an argument, and perhaps with a result. -/
def functionTrait (name : Name) (argument : List Token) (result : Option (List Token)) :
    List Token :=
  .ident name.text :: .group .parenthesis argument :: result.elim [] (arrow ++ ·)

theorem accepts_result {depth : Nat} (hpath : AcceptsPath tokens) (hdepth : extent tokens < depth)
    (hends : Path.Ends (placedAll rest)) (hplain : isOp "!" (placedAll rest) = false ∧
      isOp "#" (placedAll rest) = false) : Accepts ((ofDepth depth).type false) tokens rest := by
  obtain ⟨depth, rfl⟩ := Nat.exists_eq_add_one_of_ne_zero (Nat.ne_zero_of_lt hdepth)
  obtain ⟨form, htakes⟩ := hpath.accepted depth rest (Nat.le_of_lt_succ hdepth) hends
  have hbegins := hpath.begins rest
  have hhash := hpath.hash rest hplain.2
  rw [placedAll_append] at hbegins hhash
  exact .copyingIf ⟨_, (Type.takes_named hbegins hplain.1 (Bool.false_and _) hhash htakes).parses⟩

theorem parses_functionTrait (name : Name) {depth : Nat} {argument : List Token}
    {result : Option (List Token)} (hargument : AcceptsType true argument)
    (hresult : ∀ path ∈ result, AcceptsPath path)
    (hdepth : extent (functionTrait name argument result) < depth) :
    Parses (Bound.one (ofDepth depth) .object) (functionTrait name argument result)
      (.punct '+' false :: rest) .trait := by
  simp only [functionTrait, extent_ident, extent_group] at hdepth
  have hargument : Accepts (commaSeparated (ofDepth depth).anyType) argument [] := by
    have hpieces : Commas (· = argument) argument := .last rfl
    refine (hpieces.commaSeparated ?_).accepts
    rintro piece rfl -
    refine ⟨hargument.nonempty, fun rest hfollows => ?_⟩
    exact (hargument depth rest (by omega) hfollows.endsType).2.last fun _ => .pure
  have hresult : Accepts (do if ← op? "->" then let _ ← (ofDepth depth).type false)
      (result.elim [] (arrow ++ ·)) (.punct '+' false :: rest) := by
    cases result with
    | none => exact .skip (passes_op? rfl) (.no rfl .pure)
    | some path =>
      simp only [Option.elim, arrow, extent_append, extent_punct] at hdepth
      refine .after (parses_op? (parses_op_pair rfl) rfl) (.yes rfl ?_)
      exact .last (accepts_result (hresult path rfl) (by omega) ⟨rfl, rfl, rfl⟩ ⟨rfl, rfl⟩)
        fun _ => .pure
  have hparenthesized : Accepts (Path.parenthesized (ofDepth depth))
      (.group .parenthesis argument :: result.elim [] (arrow ++ ·)) (.punct '+' false :: rest) :=
    .skip (skips_op? rfl).printing.parses
      (.bindOne hargument.group fun _ => hresult)
  have htrait : Accepts (Bound.trait (ofDepth depth) .object) (functionTrait name argument result)
      (.punct '+' false :: rest) := by
    have hbegins : BeginsPath (placedAll (functionTrait name argument result ++
      .punct '+' false :: rest)) := .name name .start _
    refine .skip (Bound.skips_binder? (hbegins.isWord (by decide))).parses ?_
    refine .skip (Bound.skips_constant? hbegins).parses (.here (.skip (passes_op? rfl) ?_))
    refine .no rfl (.skip .pure (.cons (Path.takes_single name ⟨rfl, rfl⟩ rfl).parses ?_))
    refine .ahead (.yes rfl (.skip (.emit _) ?_))
    exact hparenthesized.last fun _ => .no rfl .pure
  refine .ahead (.no rfl (.no (name.isWord (by decide)) ?_))
  exact (Accepts.copyingIf (.no rfl htrait)).elim fun _ hbound => hbound.last .pure

/-- An object that is a function, with at least one marker behind it. -/
theorem AcceptsType.function (name marker : Name) (more : List Name) {argument : List Token}
    {result : Option (List Token)} (hargument : AcceptsType true argument)
    (hresult : ∀ path ∈ result, AcceptsPath path) :
    AcceptsType true (.ident "dyn" ::
      (functionTrait name argument result ++ markers (marker :: more))) := by
  refine .ofForm fun depth rest hdepth hends => ⟨by constructor <;> rfl, ?_⟩
  simp only [extent_ident, extent_append] at hdepth
  have hfirst : Parses (Bound.one (ofDepth depth) .object) (functionTrait name argument result)
      (markers (marker :: more) ++ rest) .trait :=
    parses_functionTrait name hargument hresult (by omega)
  obtain ⟨printed, hseveral⟩ := accepts_markers hfirst (List.cons_ne_nil _ _) hends
  exact ⟨.other, _, Type.takes_object rfl hseveral⟩

theorem IsType.function (name marker : Name) (more : List Name) {argument : List Token}
    {result : Option (List Token)} (hargument : IsType true argument)
    (hresult : ∀ path ∈ result, AcceptsPath path ∧ Readable path) :
    IsType true (.ident "dyn" ::
      (functionTrait name argument result ++ markers (marker :: more))) where
  readable := by
    refine readable_word rfl (.append (readable_word name.word
      ((readable_group hargument.readable).append ?_)) (readable_markers _))
    cases result with
    | none => trivial
    | some path => exact readable_arrow (hresult path rfl).2
  accepted := .function name marker more hargument.accepted fun path hpath => (hresult path hpath).1

end ServiceGen.Grammar
