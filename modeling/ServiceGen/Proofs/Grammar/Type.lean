import ServiceGen.Grammar.Bound
import ServiceGen.Grammar.Closed
import ServiceGen.Proofs.Grammar.Path

/-!
Bounds of plain types are read as they are printed, one after the other.
-/
namespace ServiceGen.Grammar

open Reader Ahead

variable {g : Grammar} {front rest : List Located}

/-- How a path without a qualifying type begins. -/
inductive BeginsPath : List Located → Prop where
  | rooted (first second : Position) (more : List Located) :
    BeginsPath (.punct ':' true first :: .punct ':' false second :: more)
  | keyword (keyword : Keyword) (position : Position) (more : List Located) :
    BeginsPath (.ident keyword.text position :: more)
  | name (name : Name) (position : Position) (more : List Located) :
    BeginsPath (.ident name.text position :: more)

namespace BeginsPath

variable {tokens : List Located}

theorem append (hbegins : BeginsPath front) (rest : List Located) : BeginsPath (front ++ rest) := by
  cases hbegins with
  | rooted first second more => exact .rooted first second (more ++ rest)
  | keyword keyword position more => exact .keyword keyword position (more ++ rest)
  | name name position more => exact .name name position (more ++ rest)

/-- The reserved words that begin no path. -/
def closedWords : List String :=
  reserved.filter fun word => !(["super", "self", "crate", "Self"].contains word)

theorem isWord {word : String} (hbegins : BeginsPath tokens) (hword : word ∈ closedWords) :
    Ahead.isWord word tokens = false := by
  cases hbegins with
  | rooted first second more => rfl
  | keyword keyword position more =>
    have hall : ∀ other ∈ closedWords, keyword.text ≠ other := by cases keyword <;> decide
    exact beq_eq_false_iff_ne.mpr (hall word hword)
  | name name position more => exact name.isWord (List.mem_filter.mp hword).1

theorem isOneOf {words : List String} (hbegins : BeginsPath tokens)
    (hwords : ∀ word ∈ words, word ∈ closedWords) : Ahead.isOneOf words tokens = false := by
  rw [Ahead.isOneOf, List.any_eq_false]
  exact fun word hword => by simp [hbegins.isWord (hwords word hword)]

theorem isGroup {delimiter : Delimiter} (hbegins : BeginsPath tokens) :
    Ahead.isGroup delimiter tokens = false := by
  cases hbegins <;> rfl

theorem isLifetime (hbegins : BeginsPath tokens) : Ahead.isLifetime tokens = false := by
  cases hbegins <;> rfl

theorem isOp {c : Char} {operator : String} (hbegins : BeginsPath tokens)
    (hoperator : operator.toList = [c]) (hc : c ≠ ':') : Ahead.isOp operator tokens = false := by
  rw [Ahead.isOp, hoperator]
  cases hbegins with
  | rooted first second more => exact beq_eq_false_iff_ne.mpr hc
  | keyword _ _ _ | name _ _ _ => rfl

end BeginsPath

namespace Bound

theorem begins_of_path {place : Place} {tokens : List Located} (hbegins : BeginsPath tokens) :
    begins place tokens = true := by
  cases hbegins <;> rfl

theorem skips_binder? (hfor : isWord "for" rest = false) :
    Takes (binder? g) [] rest false [] := .ahead (.no hfor .pure)

theorem skips_constant? {place : Place} (hbegins : BeginsPath rest) :
    Takes (constant? place) [] rest false [] := by
  refine .here fun _ => .ahead (.no hbegins.isGroup (.no hbegins.isGroup ?_))
  refine .skip (skips_word? (hbegins.isWord (by decide))) (.no ?_ ?_)
  · simp [hbegins.isGroup]
  · simpa [hbegins.isGroup] using Takes.pure

/-- A bound that is a path. -/
theorem takes_trait {place : Place} {form : PathForm} (hbegins : BeginsPath (front ++ rest))
    (hends : Path.Ends rest) (hpath : Takes (Path.unqualified g false) front rest form []) :
    Takes (trait g place) front rest false form.tokens := by
  refine .skip (skips_binder? (hbegins.isWord (by decide))) (.skip (skips_constant? hbegins) ?_)
  refine .here fun _ => .skip (skips_op? (hbegins.isOp rfl (by decide))) (.no rfl (.skip .pure ?_))
  rw [← List.append_nil front]
  refine .quiet hpath (.ahead (.no ?_ ((Takes.emit _).last (.no rfl .pure))))
  simp [Path.beginsParentheses, hends.colons, hends.parenthesis]

theorem takes_one_lifetime {place : Place} {name : String} {first second : Position} :
    Takes (one g place) [.punct '\'' true first, .ident name second] rest .lifetime
      [.punct '\'' true, .ident name] :=
  .ahead (.yes rfl (takes_lifetime.last .pure))

theorem takes_one_trait {place : Place} {form : PathForm} (hbegins : BeginsPath (front ++ rest))
    (hends : Path.Ends rest) (hpath : Takes (Path.unqualified g false) front rest form []) :
    Takes (one g place) front rest .trait form.tokens := by
  have htrait : Takes (trait g place) front rest false form.tokens :=
    takes_trait hbegins hends hpath
  refine .ahead (.no hbegins.isLifetime (.no (hbegins.isWord (by decide)) ?_))
  exact (Takes.copyingIf (.no hbegins.isGroup htrait) rfl).last .pure

/-- Bounds behind a first one, with a plus sign in front of each. Every bound prints its tokens as
they are. -/
inductive Added (g : Grammar) (place : Place) (rest : List Located) : List Located → Prop where
  | nil : Added g place rest []
  | cons {front more : List Located} {position : Position} {form : Form}
    (hbegins : begins place (front ++ (more ++ rest)) = true)
    (hone : Takes (one g place) front (more ++ rest) form (Located.tokens front))
    (hmore : Added g place rest more) :
    Added g place rest (.punct '+' false position :: (front ++ more))

theorem takes_several {place : Place} {added : List Located}
    (hone : Takes (one g place) front (added ++ rest) .trait (Located.tokens front))
    (hadded : Added g place rest added) (hplus : isOp "+" rest = false) :
    Takes (several g place true) (front ++ added) rest true (Located.tokens (front ++ added)) := by
  refine Repeats.repeating ?_
  obtain ⟨form, hform⟩ : ∃ form, form = Form.trait := ⟨_, rfl⟩
  have hfound : (form == .trait || false) = true := by rw [hform]; rfl
  rw [← hform] at hone
  clear hform
  generalize false = found at hfound ⊢
  induction hadded generalizing front found form with
  | nil =>
    rw [List.append_nil]
    refine .done (hone.last (.ahead (.no hplus ?_)))
    rw [hfound]
    exact .pure
  | @cons next more position form' hbegins hnext hmore ih =>
    rw [List.append_cons, Located.tokens_append]
    refine .again (by simp) ?_ (ih form' hnext true (by simp))
    rw [Located.tokens_append]
    refine .bind (by simpa using hone) (.ahead (.yes rfl ?_))
    refine (takes_op rfl).last (.ahead (.yes (by simpa using hbegins) ?_))
    rw [hfound]
    exact .pure

theorem takes_single {place : Place}
    (hone : Takes (one g place) front rest .trait (Located.tokens front)) :
    Takes (several g place false) front rest true (Located.tokens front) :=
  Repeats.repeating (.done (hone.last (.ahead (.no rfl .pure))))

end Bound

end ServiceGen.Grammar

/-!
The kinds of plain types are taken one by one, given that the types and bounds in them are.
-/
namespace ServiceGen.Grammar.Type

open Reader Ahead

variable {g : Grammar} {front rest : List Located} {plus : Bool}

/-- That a type does not go on with what follows. -/
structure Ends (rest : List Located) : Prop extends Path.Ends rest where
  bang : isOp "!" rest = false
  plus : isOp "+" rest = false
  hash : isOp "#" rest = false

theorem Ends.nil : Ends [] := ⟨⟨rfl, rfl, rfl⟩, rfl, rfl, rfl⟩

theorem Ends.mark {c : Char} {position : Position} {more : List Located}
    (hc : c ∈ [',', ';', '=', '>']) : Ends (.punct c false position :: more) := by
  simp only [List.mem_cons, List.not_mem_nil, or_false] at hc
  obtain rfl | rfl | rfl | rfl := hc <;> exact ⟨⟨rfl, rfl, rfl⟩, rfl, rfl, rfl⟩

theorem Ends.follows {closing : List Located} (hends : Ends closing)
    (hfollows : FollowsItem closing rest) : Ends rest := by
  obtain rfl | ⟨position, more, rfl⟩ := hfollows
  · exact hends
  · exact .mark (by decide)

/-- What is known of the front of a type where something else might stand in its place. -/
structure Begins (tokens : List Located) : Prop where
  nonempty : tokens.isEmpty = false
  lifetime : isLifetime tokens = false
  literal : isLiteral tokens = false
  brace : isGroup .brace tokens = false
  changing : isWord "mut" tokens = false
  question : isOp "?" tokens = false
  greater : isOp ">" tokens = false
  dots : isOp "..." tokens = false

theorem Begins.ofPath {tokens : List Located} (hbegins : BeginsPath tokens) : Begins tokens where
  nonempty := by cases hbegins <;> rfl
  lifetime := hbegins.isLifetime
  literal := by
    cases hbegins with
    | rooted first second more => rfl
    | keyword keyword position more => cases keyword <;> rfl
    | name name position more => exact name.isLiteral
  brace := hbegins.isGroup
  changing := hbegins.isWord (by decide)
  question := hbegins.isOp rfl (by decide)
  greater := hbegins.isOp rfl (by decide)
  dots := by cases hbegins <;> rfl

theorem beginsPath_of_begins {tokens : List Located} (hbegins : BeginsPath tokens) :
    beginsPath tokens = true := by
  cases hbegins with
  | rooted first second more => rfl
  | keyword keyword position more => cases keyword <;> rfl
  | name name position more => simp only [beginsPath, Path.beginsPlain, name.isIdent, Bool.true_or]

theorem takes_named {form : PathForm} (hbegins : BeginsPath (front ++ rest))
    (hbang : isOp "!" rest = false) (hplus : (plus && isOp "+" rest) = false)
    (hhash : isOp "#" (skip (front ++ rest)) = false)
    (hpath : Takes (Path.unqualified g false) front rest form []) :
    Takes (Type.form g plus) front rest (.path form) form.tokens := by
  have hnamed : Takes (named g plus []) front rest (.path form) form.tokens := by
    have hwhole : Takes (Path.path g false) front rest form [] :=
      .ahead (.no (hbegins.isOp rfl (by decide)) hpath)
    rw [← List.append_nil front]
    refine .quiet hwhole (.ahead (.no ?_ ((Takes.emit _).last (.no ?_ .pure))))
    · simp [hbang]
    · simp [hplus]
  have hpath := beginsPath_of_begins hbegins
  refine .skip (Bound.skips_binder? (hbegins.isWord (by decide))).printing (.ahead (.no rfl ?_))
  refine .no hbegins.isGroup (.no (hbegins.isOneOf (by decide)) (.no ?_ (.yes hpath hnamed)))
  rw [beginsProvided, hhash, Bool.and_false]

theorem Ends.unadded (hends : Ends rest) : (plus && isOp "+" rest) = false := by
  rw [hends.plus, Bool.and_false]

variable {position other : Position}

theorem takes_wildcard : Takes (form g plus) [.ident "_" position] rest .other [.ident "_"] := by
  refine .skip (Bound.skips_binder? rfl).printing (.ahead (.no rfl ?_))
  iterate 10 refine .no rfl ?_
  exact .yes rfl (takes_anyIdent.last .pure)

theorem takes_never :
    Takes (form g plus) [.punct '!' false position] rest .other [.punct '!' false] := by
  refine .skip (Bound.skips_binder? rfl).printing (.ahead (.no rfl ?_))
  iterate 8 refine .no rfl ?_
  exact .yes rfl ((takes_op rfl).last .pure)

variable {inside : List Located} {printed : List Token}

theorem takes_pointer {changing : Bool} {target : TypeForm}
    (htarget : Takes (g.type false) inside rest target printed) :
    Takes (form g plus)
      (.punct '*' false position :: .ident (if changing then "mut" else "const") other :: inside)
      rest .other
      (.punct '*' false :: .ident (if changing then "mut" else "const") :: printed) := by
  refine .skip (Bound.skips_binder? rfl).printing (.ahead (.no rfl ?_))
  iterate 6 refine .no rfl ?_
  have hword : isOneOf ["const", "mut"] (.ident (if changing then "mut" else "const") other ::
      (inside ++ rest)) = true := by cases changing <;> rfl
  have hpointer : Takes (pointer g) (.punct '*' false position ::
      .ident (if changing then "mut" else "const") other :: inside) rest ()
      (.punct '*' false :: .ident (if changing then "mut" else "const") :: printed) :=
    .cons (takes_op rfl) (.ahead (.yes hword (.cons takes_anyIdent (htarget.last .pure))))
  exact .yes rfl (hpointer.last .pure)

theorem takes_lifetime? {lifetime : Option Lifetime} {front : List Located}
    (htokens : Located.tokens front = lifetime.elim [] Lifetime.tokens)
    (hrest : isLifetime rest = false) :
    Takes lifetime? front rest () (lifetime.elim [] Lifetime.tokens) := by
  cases lifetime with
  | none =>
    obtain rfl := Located.eq_nil_of_tokens htokens
    exact .ahead (.no hrest .pure)
  | some lifetime =>
    obtain ⟨first, second, rfl⟩ := lifetime.exists_of_tokens htokens
    exact .ahead (.yes rfl takes_lifetime)

theorem takes_changing {changing : Bool} {front : List Located}
    (htokens : Located.tokens front = if changing then [.ident "mut"] else [])
    (hrest : isWord "mut" rest = false) :
    Takes (word? "mut") front rest changing (if changing then [.ident "mut"] else []) := by
  cases changing with
  | false =>
    obtain rfl := Located.eq_nil_of_tokens htokens
    exact skips_word? hrest
  | true =>
    obtain ⟨position, more, rfl, hmore⟩ := Located.exists_ident htokens
    obtain rfl := Located.eq_nil_of_tokens hmore
    exact takes_word?

theorem takes_reference {lifetime : Option Lifetime} {changing : Bool} {target : TypeForm}
    {first second : List Located}
    (hfirst : Located.tokens first = lifetime.elim [] Lifetime.tokens)
    (hsecond : Located.tokens second = if changing then [.ident "mut"] else [])
    (hlifetime : isLifetime (second ++ (inside ++ rest)) = false)
    (hmut : isWord "mut" (inside ++ rest) = false)
    (htarget : Takes (g.type false) inside rest target printed) :
    Takes (form g plus) (.punct '&' false position :: (first ++ (second ++ inside))) rest .other
      (.punct '&' false :: (lifetime.elim [] Lifetime.tokens ++
        ((if changing then [.ident "mut"] else []) ++ printed))) := by
  refine .skip (Bound.skips_binder? rfl).printing (.ahead (.no rfl ?_))
  iterate 7 refine .no rfl ?_
  have hreference : Takes (reference g)
      (.punct '&' false position :: (first ++ (second ++ inside))) rest ()
      (.punct '&' false :: (lifetime.elim [] Lifetime.tokens ++
        ((if changing then [.ident "mut"] else []) ++ printed))) :=
    .cons (takes_op rfl) (.bind (takes_lifetime? hfirst (by simpa using hlifetime))
      (.bind (takes_changing hsecond hmut) (htarget.last .pure)))
  exact .yes rfl (hreference.last .pure)

theorem takes_slice (helement : Takes g.anyType inside [] () printed) :
    Takes (form g plus) [.group .bracket inside position other] rest .other
      [.group .bracket printed] := by
  refine .skip (Bound.skips_binder? rfl).printing (.ahead (.no rfl ?_))
  iterate 5 refine .no rfl ?_
  have hsequence : Takes (sequence g) [.group .bracket inside position other] rest ()
      [.group .bracket printed] :=
    .group (helement.last (.skip (skips_op? rfl) .pure))
  exact .yes rfl (hsequence.last .pure)

/-- A number is taken where the grammar leads at least one entrance deep. -/
theorem takes_number {depth : Nat} {text : String} :
    Takes (ofDepth (depth + 1)).expression [.literal text position] [] () [.literal text] := by
  refine fun limit stray before => ?_
  rfl

theorem takes_array {depth : Nat} {text : String} {second third : Position}
    (helement : Takes (ofDepth (depth + 1)).anyType inside
      [.punct ';' false second, .literal text third] () printed) :
    Takes (form (ofDepth (depth + 1)) plus)
      [.group .bracket (inside ++ [.punct ';' false second, .literal text third]) position other]
      rest .other [.group .bracket (printed ++ [.punct ';' false, .literal text])] := by
  refine .skip (Bound.skips_binder? rfl).printing (.ahead (.no rfl ?_))
  iterate 5 refine .no rfl ?_
  have hsequence : Takes (sequence (ofDepth (depth + 1)))
      [.group .bracket (inside ++ [.punct ';' false second, .literal text third]) position other]
      rest () [.group .bracket (printed ++ [.punct ';' false, .literal text])] :=
    .group (.bind helement (.cons (takes_op? (takes_op rfl) rfl) (.yes rfl takes_number)))
  exact .yes rfl (hsequence.last .pure)

/-- What parentheses hold is printed as it is, whatever it was, if no bound follows. -/
theorem takes_parentheses {answer : Wrapped} (hanswer : answer ≠ .optional)
    (hwrapped : Takes (wrapped g) inside [] answer printed) (hplus : isOp "+" rest = false) :
    ∃ answer', Takes (form g plus) [.group .parenthesis inside position other] rest answer'
      [.group .parenthesis printed] ∧ answer'.isCopied = false := by
  have hform {answer' : TypeForm} (hparentheses : Takes (parentheses g plus)
      [.group .parenthesis inside position other] rest answer' [.group .parenthesis printed]) :
      Takes (form g plus) [.group .parenthesis inside position other] rest answer'
        [.group .parenthesis printed] :=
    .skip (Bound.skips_binder? rfl).printing (.ahead (.no rfl (.yes rfl hparentheses)))
  have hadded : (plus && isOp "+" rest) = false := by rw [hplus, Bool.and_false]
  cases answer with
  | unit =>
    exact ⟨.unit, hform (.cons hwrapped.group.printing (.ahead ((Takes.emit _).last .pure))), rfl⟩
  | optional => exact absurd rfl hanswer
  | bound =>
    refine ⟨.other, hform (.cons hwrapped.group.printing (.ahead ?_)), rfl⟩
    simp only [List.nil_append, hadded, Bool.false_eq_true, if_false]
    exact (Takes.emit _).last .pure
  | other =>
    exact ⟨.other, hform (.cons hwrapped.group.printing (.ahead ((Takes.emit _).last .pure))), rfl⟩

/-- Parentheses hold nothing, a type, or types with commas. -/
theorem takes_wrapped {items : List (TypeForm × List Token × Bool)}
    (hlisted : Listed Begins (g.type true) [] inside items) :
    ∃ answer, answer ≠ .optional ∧ Takes (wrapped g) inside [] answer (Located.tokens inside) := by
  cases hlisted with
  | nil => exact ⟨.unit, nofun, .atEnd (.yes rfl .pure)⟩
  | @last front answer hinside hitem =>
    suffices hmatch : ∃ answer', answer' ≠ Wrapped.optional ∧ Takes _ [] [] answer' [] from
      hmatch.imp fun answer' hanswer => ⟨hanswer.1, .atEnd (.no hinside.nonempty (.ahead
        (.no hinside.lifetime (.no hinside.question
          (hitem.last (.ahead (.no rfl hanswer.2)))))))⟩
    cases answer with
    | path form => exact ⟨_, by split <;> nofun, .pure⟩
    | bound => exact ⟨.bound, nofun, .pure⟩
    | unit | copied | other => exact ⟨.other, nofun, .pure⟩
  | @cons front back answer position items hinside hitem hback =>
    have hothers : Takes (commaSeparated g.anyType) back [] () (Located.tokens back) :=
      hback.separated (fun _ => Begins.nonempty) rfl fun _ _ => rfl
    refine ⟨.other, nofun, .atEnd (.no hinside.nonempty (.ahead (.no hinside.lifetime
      (.no hinside.question ?_))))⟩
    rw [tokens_comma, List.append_assoc]
    refine .bind hitem (.ahead (.yes rfl (.cons (takes_op rfl) (hothers.last .pure))))

theorem takes_known (hseveral : Takes (Bound.several g .opaqueType plus) inside rest true printed) :
    Takes (form g plus) (.ident "impl" position :: inside) rest .other
      (.ident "impl" :: printed) := by
  refine .skip (Bound.skips_binder? rfl).printing (.ahead (.no rfl ?_))
  iterate 9 refine .no rfl ?_
  have hknown : Takes (known g plus) (.ident "impl" position :: inside) rest ()
      (.ident "impl" :: printed) :=
    .here fun _ => .cons takes_word (hseveral.last (.no rfl .pure))
  exact .yes rfl (hknown.last .pure)

theorem takes_object (hstar : isOp "*" (inside ++ rest) = false)
    (hseveral : Takes (Bound.several g .object plus) inside rest true printed) :
    Takes (form g plus) (.ident "dyn" position :: inside) rest .other
      (.ident "dyn" :: printed) := by
  refine .skip (Bound.skips_binder? rfl).printing (.ahead (.no rfl ?_))
  iterate 4 refine .no rfl ?_
  have hobject : Takes (object g plus) (.ident "dyn" position :: inside) rest false
      (.ident "dyn" :: printed) :=
    .here fun _ => .cons takes_word (.skip (skips_op? hstar) (hseveral.last (.yes rfl .pure)))
  exact .yes rfl (hobject.last .pure)

end ServiceGen.Grammar.Type
