import ServiceGen.Proofs.Grammar.Code.Type

/-!
The expressions of generated code: paths, literals, structures, tuples, calls of macros, closures
and blocks, with calls, members and question marks behind them. None of them is joined to another by
an operator.
-/
namespace ServiceGen.Grammar

open Located Token Reader Ahead Expression

variable {tokens args more rest : List Token} {depth : Nat}

def semicolon : Token := .punct ';' false

/-! What stands behind expressions -/

/-- What stands behind an expression: the end, a comma or a semicolon. -/
inductive FollowsExpr : List Token → Prop where
  | nil : FollowsExpr []
  | comma (rest : List Token) : FollowsExpr (comma :: rest)
  | semicolon (rest : List Token) : FollowsExpr (semicolon :: rest)

/-- What stands behind a call or a member: perhaps another member, or a question mark. -/
inductive FollowsMember : List Token → Prop where
  | expr {rest : List Token} (hfollows : FollowsExpr rest) : FollowsMember rest
  | member (name : String) (rest : List Token) :
    FollowsMember (.punct '.' false :: .ident name :: rest)
  | question (rest : List Token) : FollowsMember (.punct '?' false :: rest)

/-- What stands behind an atom: perhaps the arguments of a call. -/
inductive FollowsAtom : List Token → Prop where
  | member {rest : List Token} (hfollows : FollowsMember rest) : FollowsAtom rest
  | call (args rest : List Token) : FollowsAtom (.group .parenthesis args :: rest)

theorem FollowsPiece.expr (hfollows : FollowsPiece [] rest) : FollowsExpr rest := by
  obtain rfl | ⟨more, rfl⟩ := hfollows
  · exact .nil
  · exact .comma more

/-! Expressions -/

/-- Tokens that are taken as an expression. -/
structure IsExpr (tokens : List Token) : Prop where
  readable : Readable tokens
  nonempty : tokens ≠ []
  unarrowed : ∀ rest, isOp "->" (placedAll (tokens ++ rest)) = false
  accepted : ∀ depth rest, 4 * extent tokens + 1 < depth → FollowsExpr rest →
    Accepts (ofDepth depth).expression tokens rest

/-- Expressions with commas between them. -/
abbrev IsArguments (tokens : List Token) : Prop := Commas IsExpr tokens

/-- Tokens that are taken as an operand, to which no operator is applied. -/
structure IsOperand (tokens : List Token) : Prop where
  readable : Readable tokens
  nonempty : tokens ≠ []
  unarrowed : ∀ rest, isOp "->" (placedAll (tokens ++ rest)) = false
  accepted : ∀ depth rest, 4 * extent tokens + 1 < depth → FollowsExpr rest →
    ∃ form, form ≠ .range ∧ Parses ((ofDepth depth).operand true) tokens rest form

theorem FollowsExpr.parses_casts {g : Grammar} (hfollows : FollowsExpr rest) {form : ExprForm}
    (hform : form ≠ .range) : Parses (Operation.readCasts g form) [] rest ⟨[], false⟩ := by
  cases form with
  | range => exact absurd rfl hform
  | block | bracedCall | comparison | copied | other =>
    exact Loops.repeating (.done (.ahead (.yes (by cases hfollows <;> rfl) .pure)))

/-- No operator follows an expression. -/
theorem FollowsExpr.operators (hfollows : FollowsExpr rest) {form : ExprForm}
    (hform : form ≠ .range) (printed : List Token) (hdepth : 0 < depth) :
    Parses ((ofDepth depth).operators true form printed .lowest) [] rest form := by
  obtain ⟨depth, rfl⟩ := Nat.exists_eq_add_one_of_ne_zero (Nat.ne_zero_of_lt hdepth)
  refine .skip (hfollows.parses_casts hform) (.skip (.emit _) ?_)
  cases form with
  | range => exact absurd rfl hform
  | block | bracedCall | comparison | copied | other =>
    refine Loops.repeating (.done (.ahead ?_))
    cases hfollows <;> exact .pure

theorem IsOperand.isExpr (hoperand : IsOperand tokens) : IsExpr tokens where
  readable := hoperand.readable
  nonempty := hoperand.nonempty
  unarrowed := hoperand.unarrowed
  accepted depth rest hdepth hfollows := by
    obtain ⟨form, hform, printed, htakes⟩ := hoperand.accepted depth rest hdepth hfollows
    have hoperators := hfollows.operators hform printed (Nat.zero_lt_of_lt hdepth)
    exact .last ⟨form, htakes.printing.parses.last hoperators⟩ fun _ => .pure

/-! What stands behind an atom -/

/-- What stands behind an atom in an operand: calls, members and question marks. The flag tells
whether a call may stand in front, since behind a field it would be that of a method. -/
inductive Tail : Bool → List Token → Prop where
  | nil {callable : Bool} : Tail callable []
  | field {callable : Bool} (name : Name) {more : List Token} (hmore : Tail false more) :
    Tail callable (.punct '.' false :: .ident name.text :: more)
  | method {callable : Bool} (name : Name) {args more : List Token} (hargs : IsArguments args)
    (hmore : Tail true more) :
    Tail callable (.punct '.' false :: .ident name.text :: .group .parenthesis args :: more)
  | question {callable : Bool} {more : List Token} (hmore : Tail true more) :
    Tail callable (.punct '?' false :: more)
  | call {args more : List Token} (hargs : IsArguments args) (hmore : Tail true more) :
    Tail true (.group .parenthesis args :: more)

theorem Commas.expr_readable (hargs : IsArguments args) : Readable args :=
  hargs.readable fun _ => IsExpr.readable

theorem Commas.parses_expressions (hargs : IsArguments args)
    (hdepth : 4 * extent args + 1 < depth) :
    Parses (Reader.commaSeparated (ofDepth depth).expression) args [] () :=
  hargs.commaSeparated fun piece hpiece hextent =>
    ⟨hpiece.nonempty, fun rest hfollows => hpiece.accepted depth rest (by omega) hfollows.expr⟩

theorem FollowsMember.ends (hfollows : FollowsMember rest) :
    isOp "::" (placedAll rest) = false ∧ isGroup .parenthesis (placedAll rest) = false := by
  cases hfollows with
  | expr hfollows => cases hfollows <;> exact ⟨rfl, rfl⟩
  | member name rest | question rest => exact ⟨rfl, rfl⟩

/-- A member behind its point: a field, or a method with the arguments of its call. -/
theorem parses_member (name : Name) {call : List Token}
    (hcall : call = [] ∧ FollowsMember rest ∨
      ∃ args, call = [.group .parenthesis args] ∧ IsArguments args ∧ 4 * extent args + 1 < depth) :
    Parses (Expression.member (ofDepth depth)) (.ident name.text :: call) rest () := by
  refine .skip (passes_word? (name.isWord (by decide))) (.no rfl ?_)
  have hmember : Parses Pattern.member [.ident name.text] (call ++ rest) true :=
    .ahead (.yes name.isIdent ((parses_ident name).last .pure))
  refine hmember.cons (.yes rfl (.ahead ?_))
  obtain ⟨rfl, hfollows⟩ | ⟨args, rfl, hargs, hdepth⟩ := hcall
  · obtain ⟨hcolons, hparenthesis⟩ := hfollows.ends
    exact .no hcolons (.ahead (.no (Bool.or_eq_false_iff.mpr ⟨hcolons, hparenthesis⟩) .pure))
  · exact .no rfl (.ahead (.yes rfl (hargs.parses_expressions hdepth).group))

namespace Tail

variable {callable : Bool}

theorem readable (htail : Tail callable tokens) : Readable tokens := by
  induction htail with
  | nil => trivial
  | field name _ ih => exact readable_mark (by decide) (readable_word name.word ih)
  | method name hargs _ ih =>
    exact readable_mark (by decide)
      (readable_word name.word ((readable_group hargs.expr_readable).append ih))
  | question _ ih => exact readable_mark (by decide) ih
  | call hargs _ ih => exact (readable_group hargs.expr_readable).append ih

theorem followsAtom (htail : Tail callable tokens) (hfollows : FollowsExpr rest) :
    FollowsAtom (tokens ++ rest) := by
  cases htail with
  | nil => exact .member (.expr hfollows)
  | field name _ => exact .member (.member name.text _)
  | method name _ _ => exact .member (.member name.text _)
  | question _ => exact .member (.question _)
  | call _ _ => exact .call _ _

theorem followsMember (htail : Tail false tokens) (hfollows : FollowsExpr rest) :
    FollowsMember (tokens ++ rest) := by
  cases htail with
  | nil => exact .expr hfollows
  | field name _ => exact .member name.text _
  | method name _ _ => exact .member name.text _
  | question _ => exact .question _

theorem weaken (htail : Tail false tokens) : Tail callable tokens := by
  cases htail with
  | nil => exact .nil
  | field name hmore => exact .field name hmore
  | method name hargs hmore => exact .method name hargs hmore
  | question hmore => exact .question hmore

theorem append {behind : List Token} (htail : Tail callable tokens) (hbehind : Tail false behind) :
    Tail callable (tokens ++ behind) := by
  induction htail with
  | nil => exact hbehind.weaken
  | field name _ ih => exact .field name ih
  | method name hargs _ ih => exact .method name hargs ih
  | question _ ih => exact .question ih
  | call hargs _ ih => exact .call hargs ih

/-- What stands behind an atom is taken piece by piece. -/
theorem parses (htail : Tail callable tokens) (hfollows : FollowsExpr rest)
    (hdepth : 4 * extent tokens < depth) {form : ExprForm} (hform : form ≠ .range) :
    ∃ form', form' ≠ .range ∧ Parses (trailers (ofDepth depth) form) tokens rest form' := by
  suffices hloops : ∃ form', form' ≠ .range ∧ Loops _ form tokens rest form' from
    hloops.imp fun _ => And.imp_right Loops.repeating
  have hother : ExprForm.other ≠ .range := nofun
  induction htail generalizing form with
  | nil =>
    refine ⟨form, hform, .done (.ahead ?_)⟩
    cases hfollows <;> exact .pure
  | @field callable name more hmore ih =>
    simp only [extent_punct, extent_ident] at hdepth
    obtain ⟨form', hform', hloops⟩ := ih (by omega) hother
    refine ⟨form', hform', ?_⟩
    change Loops _ form ([.punct '.' false, .ident name.text] ++ more) rest form'
    refine .again (List.cons_ne_nil _ _) (.ahead (.no rfl (.yes ?_ ?_))) hloops
    · cases form <;> first | rfl | exact absurd rfl hform
    · refine (parses_op rfl).cons (.ahead (.no rfl ?_))
      exact (parses_member name (.inl ⟨rfl, hmore.followsMember hfollows⟩)).last .pure
  | @method callable name args more hargs hmore ih =>
    simp only [extent_punct, extent_ident, extent_group] at hdepth
    obtain ⟨form', hform', hloops⟩ := ih (by omega) hother
    refine ⟨form', hform', ?_⟩
    change Loops _ form ([.punct '.' false, .ident name.text, .group .parenthesis args] ++ more)
      rest form'
    refine .again (List.cons_ne_nil _ _) (.ahead (.no rfl (.yes ?_ ?_))) hloops
    · cases form <;> first | rfl | exact absurd rfl hform
    · refine (parses_op rfl).cons (.ahead (.no rfl ?_))
      exact (parses_member name (.inr ⟨args, rfl, hargs, by omega⟩)).last .pure
  | @question callable more hmore ih =>
    simp only [extent_punct] at hdepth
    obtain ⟨form', hform', hloops⟩ := ih (by omega) hother
    refine ⟨form', hform', ?_⟩
    change Loops _ form ([.punct '?' false] ++ more) rest form'
    refine .again (List.cons_ne_nil _ _) (.ahead (.no rfl (.no rfl (.no rfl (.yes ?_ ?_))))) hloops
    · cases form <;> first | rfl | exact absurd rfl hform
    · exact (parses_op rfl).last .pure
  | @call args more hargs hmore ih =>
    simp only [extent_group] at hdepth
    obtain ⟨form', hform', hloops⟩ := ih (by omega) hother
    refine ⟨form', hform', ?_⟩
    change Loops _ form ([.group .parenthesis args] ++ more) rest form'
    refine .again (List.cons_ne_nil _ _) (.ahead (.yes rfl ?_)) hloops
    exact (hargs.parses_expressions (by omega)).group.last .pure

end Tail

/-! Atoms -/

/-- Tokens that are taken as an atom in front of others of a kind. -/
structure IsAtom (Follows : List Token → Prop) (tokens : List Token) : Prop where
  readable : Readable tokens
  nonempty : tokens ≠ []
  unarrowed : ∀ rest, isOp "->" (placedAll (tokens ++ rest)) = false
  unsigned : ∀ rest, beginsSigned (placedAll (tokens ++ rest)) = false
  unmarked : ∀ rest, isOp "#" (placedAll (tokens ++ rest)) = false
  accepted : ∀ depth rest, 4 * extent tokens < depth → Follows rest →
    ∃ form, form ≠ .range ∧ Parses (atom (ofDepth depth) true) tokens rest form

theorem skips_outer {g : Grammar} {rest : List Located} (hmark : isOp "#" rest = false) :
    Takes (Attribute.outer g) [] rest [] [] :=
  Repeats.repeating (.done (.ahead (.no hmark .pure)))

/-- An atom with what stands behind it. -/
theorem IsAtom.operand {Follows : List Token → Prop} {callable : Bool}
    (hatom : IsAtom Follows tokens) (htail : Tail callable more)
    (hfollows : ∀ rest, FollowsExpr rest → Follows (more ++ rest)) :
    IsOperand (tokens ++ more) where
  readable := hatom.readable.append htail.readable
  nonempty := by simp [hatom.nonempty]
  unarrowed rest := by simpa using hatom.unarrowed (more ++ rest)
  accepted depth rest hdepth hends := by
    rw [extent_append] at hdepth
    obtain ⟨depth, rfl⟩ : ∃ depth', depth = depth' + 1 := ⟨depth - 1, by omega⟩
    obtain ⟨form, hform, hfirst⟩ :=
      hatom.accepted depth (more ++ rest) (by omega) (hfollows rest hends)
    obtain ⟨form', hform', hmore⟩ := htail.parses hends (show _ < depth by omega) hform
    refine ⟨form', hform', .copyingIf ?_⟩
    have hmark := hatom.unmarked (more ++ rest)
    have hsigned := hatom.unsigned (more ++ rest)
    rw [← List.append_assoc] at hmark hsigned
    obtain ⟨token, inner, rfl⟩ := List.exists_cons_of_ne_nil hatom.nonempty
    refine .skip (skips_outer hmark).printing.parses (.skip (.emit _) (.ahead (.no hsigned ?_)))
    refine .here ?_
    change Parses _ ((token :: inner) ++ more) rest _
    refine .bind hfirst (hmore.last ?_)
    cases form' <;> exact .pure

theorem FollowsAtom.ends (hfollows : FollowsAtom rest) :
    Path.EndsSegment (placedAll rest) ∧ isOp "::" (placedAll rest) = false ∧
      isOp "!" (placedAll rest) = false ∧ isGroup .brace (placedAll rest) = false ∧
      isOp "#" (placedAll rest) = false := by
  cases hfollows with
  | call args rest => exact ⟨⟨rfl, rfl⟩, rfl, rfl, rfl, rfl⟩
  | member hfollows =>
    cases hfollows with
    | expr hfollows => cases hfollows <;> exact ⟨⟨rfl, rfl⟩, rfl, rfl, rfl, rfl⟩
    | member name rest | question rest => exact ⟨⟨rfl, rfl⟩, rfl, rfl, rfl, rfl⟩

/-- How what begins with a path is told from other atoms. -/
theorem BarePath.parses_atom (path : BarePath) {form : ExprForm} {g : Grammar}
    (hfirst : Parses (pathFirst g true) (path.tokens ++ more) rest form)
    (hhash : isOp "#" (placedAll (more ++ rest)) = false) :
    Parses (atom g true) (path.tokens ++ more) rest form := by
  have hbegins := path.begins (more ++ rest)
  have hhash := path.hash hhash
  rw [← List.append_assoc] at hbegins hhash
  have hword {word : String} (hword : word ∈ BeginsPath.closedWords) :
      isWord word (placedAll (path.tokens ++ more ++ rest)) = false := hbegins.isWord hword
  have hclosure : beginsClosure (placedAll (path.tokens ++ more ++ rest)) = false := by
    rw [beginsClosure, bindsLifetimes, hbegins.isOp rfl (by decide), hword (by decide),
      hword (by decide), hword (by decide), hword (by decide), hword (by decide)]
    rfl
  refine .ahead (.no (Type.Begins.ofPath hbegins).literal (.no ?_ (.no ?_ (.no hclosure (.no ?_
    (.yes ?_ hfirst))))))
  · rw [hword (by decide), Bool.false_and]
  · rw [hword (by decide), Bool.false_and]
  · rw [Type.beginsProvided, hhash, Bool.and_false]
  · rw [Type.beginsPath_of_begins hbegins, Bool.true_or]

/-- A path that begins an expression. -/
theorem BarePath.exists_parses (path : BarePath) {g : Grammar}
    (hends : Path.EndsSegment (placedAll rest)) (hcolons : isOp "::" (placedAll rest) = false) :
    ∃ form, Parses (Path.path g true) path.tokens rest form := by
  have hnothing : Path.Chained g true (placedAll rest) (placedAll []) [] := .nil
  obtain ⟨form, htakes⟩ := path.exists_takes hnothing hends hcolons
  rw [List.append_nil] at htakes
  have hangle : isOp "<" (placedAll (path.tokens ++ rest)) = false :=
    (path.begins rest).isOp rfl (by decide)
  exact ⟨form, .ahead (.no hangle htakes.parses)⟩

theorem BeginsPath.unarrowed {tokens : List Located} (hbegins : BeginsPath tokens) :
    Ahead.isOp "->" tokens = false := by
  cases hbegins <;> rfl

theorem BeginsPath.unsigned {tokens : List Located} (hbegins : BeginsPath tokens) :
    beginsSigned tokens = false := by
  cases hbegins <;> rfl

/-- What begins with a path is an atom if it is taken as one. -/
theorem BarePath.isAtom_append (path : BarePath) {Follows : List Token → Prop}
    (hreadable : Readable more)
    (hfirst : ∀ depth rest, 4 * extent (path.tokens ++ more) < depth → Follows rest →
      isOp "#" (placedAll (more ++ rest)) = false ∧ ∃ form, form ≠ .range ∧
        Parses (pathFirst (ofDepth depth) true) (path.tokens ++ more) rest form) :
    IsAtom Follows (path.tokens ++ more) where
  readable := path.readable.append hreadable
  nonempty := by simp [tokens]
  unarrowed rest := by simpa using (path.begins (more ++ rest)).unarrowed
  unsigned rest := by simpa using (path.begins (more ++ rest)).unsigned
  unmarked rest := by
    have hmark : isOp "#" (placedAll (path.tokens ++ (more ++ rest))) = false :=
      (path.begins (more ++ rest)).isOp rfl (by decide)
    simpa using hmark
  accepted depth rest hdepth hfollows := by
    obtain ⟨hhash, form, hform, hparses⟩ := hfirst depth rest hdepth hfollows
    exact ⟨form, hform, path.parses_atom hparses hhash⟩

theorem BarePath.isAtom (path : BarePath) : IsAtom FollowsAtom path.tokens := by
  rw [← List.append_nil path.tokens]
  refine path.isAtom_append trivial fun depth rest hdepth hfollows => ?_
  obtain ⟨hends, hcolons, hbang, hbrace, hhash⟩ := hfollows.ends
  obtain ⟨form, hpath⟩ := path.exists_parses (g := ofDepth depth) hends hcolons
  refine ⟨hhash, .other, nofun, .bind hpath (.skip (.emit _) (.ahead (.no ?_ (.no ?_ .pure))))⟩
  · simp [hbang]
  · simp [hbrace]

/-- A path with what stands behind it. -/
theorem BarePath.isOperand (path : BarePath) (htail : Tail true more) :
    IsOperand (path.tokens ++ more) := path.isAtom.operand htail fun _ => htail.followsAtom

theorem Name.isExpr (name : Name) : IsExpr [.ident name.text] :=
  ((BarePath.single name).isOperand .nil).isExpr

/-- A field of a structure, with its value or by itself. -/
inductive IsField : List Token → Prop where
  | named (name : Name) : IsField [.ident name.text]
  | valued (name : Name) {value : List Token} (hvalue : IsExpr value) :
    IsField (.ident name.text :: .punct ':' false :: value)

theorem IsField.readable (hfield : IsField tokens) : Readable tokens := by
  cases hfield with
  | named name => exact readable_word name.word trivial
  | valued name hvalue =>
    exact readable_word name.word (readable_mark (by decide) hvalue.readable)

theorem IsField.accepts (hfield : IsField tokens) (hdepth : 4 * extent tokens + 1 < depth)
    (hfollows : FollowsPiece [] rest) : Accepts (fieldValue (ofDepth depth)) tokens rest := by
  have hmember (name : Name) (rest : List Token) :
      Parses Pattern.member [.ident name.text] rest true :=
    .ahead (.yes name.isIdent ((parses_ident name).last .pure))
  cases hfield with
  | named name =>
    have hcolon : isOp ":" (placedAll rest) = false := by
      obtain rfl | ⟨more, rfl⟩ := hfollows <;> rfl
    refine .skip (skips_outer rfl).parses ((hmember name rest).last (.ahead (.no ?_ .pure))).accepts
    simp [hcolon]
  | @valued name value hvalue =>
    simp only [extent_ident, extent_punct] at hdepth
    refine .skip (skips_outer rfl).parses (.cons (hmember name _) (.ahead (.yes rfl ?_)))
    exact .cons (parses_op rfl) (hvalue.accepted depth rest (by omega) hfollows.expr)

theorem IsField.nonempty (hfield : IsField tokens) : tokens ≠ [] := by
  cases hfield <;> exact List.cons_ne_nil _ _

theorem Commas.parses_fields (hfields : Commas IsField tokens)
    (hdepth : 4 * extent tokens + 1 < depth) :
    Parses (fieldValues (ofDepth depth)) tokens [] () := by
  have hdots {piece : List Token} (hpiece : IsField piece) (rest : List Token) :
      isOp ".." (placedAll (piece ++ rest)) = false := by
    cases hpiece <;> rfl
  have hend {piece : List Token} (hpiece : IsField piece) (rest : List Token) :
      (placedAll (piece ++ rest)).isEmpty = false := by
    cases hpiece <;> rfl
  refine Loops.repeating ?_
  induction hfields with
  | nil => exact .done (.atEnd (.yes rfl .pure))
  | @last piece hpiece =>
    refine .done (.atEnd (.no (hend hpiece []) (.skip (passes_op? (hdots hpiece [])) (.no rfl ?_))))
    exact (hpiece.accepts hdepth (.inl rfl)).unit.last (.atEnd (.yes rfl .pure))
  | @cons piece more hpiece _ ih =>
    simp only [comma, extent_append, extent_punct] at hdepth
    rw [List.append_cons]
    refine .again (by simp) (.atEnd (.no ?_ (.skip (passes_op? ?_) (.no rfl ?_)))) (ih (by omega))
    · simpa using hend hpiece _
    · simpa using hdots hpiece (comma :: more)
    · refine .bind (hpiece.accepts (by omega) (.inr ⟨_, rfl⟩)).unit (.atEnd (.no rfl ?_))
      exact (parses_op rfl).last .pure

/-- A structure with its fields. -/
theorem BarePath.isAtom_structure (path : BarePath) {fields : List Token}
    (hfields : Commas IsField fields) :
    IsAtom (fun _ => True) (path.tokens ++ [.group .brace fields]) := by
  have hreadable : Readable fields := hfields.readable fun _ => IsField.readable
  refine path.isAtom_append (readable_group hreadable) fun depth rest hdepth _ => ?_
  simp only [extent_append, extent_group, extent_nil] at hdepth
  obtain ⟨form, hpath⟩ : ∃ form, Parses (Path.path (ofDepth depth) true) path.tokens
      (.group .brace fields :: rest) form := path.exists_parses ⟨rfl, rfl⟩ rfl
  refine ⟨rfl, .other, nofun, .bind hpath (.skip (.emit _) (.ahead (.no ?_ (.yes rfl ?_))))⟩
  · simp [isOp, beginsWith, placedAll, placed]
  · exact (hfields.parses_fields (by omega)).group.last .pure

/-- A call of a macro with brackets. -/
theorem Name.isAtom_call (name : Name) {inner : List Token} (hinner : Readable inner) :
    IsAtom (fun _ => True)
      ((BarePath.single name).tokens ++ [.punct '!' false, .group .bracket inner]) := by
  have hreadable : Readable [.punct '!' false, .group .bracket inner] :=
    readable_mark (by decide) (readable_group hinner)
  refine (BarePath.single name).isAtom_append hreadable fun depth rest hdepth _ => ?_
  have hpath : Parses (Path.path (ofDepth depth) true) (BarePath.single name).tokens
      (.punct '!' false :: .group .bracket inner :: rest) _ :=
    .ahead (.no rfl (Takes.parses (Path.takes_single name ⟨rfl, rfl⟩ rfl)))
  refine ⟨rfl, .other, nofun, .bind hpath (.skip (.emit _) (.ahead (.yes rfl ?_)))⟩
  exact .cons (parses_op rfl) (.cons .rawGroup .pure)

/-- A literal. -/
theorem isAtom_literal {text : String} (htext : IsLiteral text) :
    IsAtom (fun _ => True) [.literal text] where
  readable := ⟨htext, trivial, trivial⟩
  nonempty := List.cons_ne_nil _ _
  unarrowed _ := rfl
  unsigned _ := rfl
  unmarked _ := rfl
  accepted _ _ _ _ := ⟨.other, nofun, .ahead (.yes rfl ⟨[.literal text], fun _ _ _ => rfl⟩)⟩

/-- Expressions in parentheses. -/
theorem Commas.isAtom (hargs : IsArguments args) :
    IsAtom (fun _ => True) [.group .parenthesis args] where
  readable := readable_group hargs.expr_readable
  nonempty := List.cons_ne_nil _ _
  unarrowed _ := rfl
  unsigned _ := rfl
  unmarked _ := rfl
  accepted depth rest hdepth _ := by
    simp only [extent_group, extent_nil] at hdepth
    refine ⟨.other, nofun, .ahead ?_⟩
    iterate 6 refine .no rfl ?_
    exact .yes rfl ((hargs.parses_expressions (by omega)).group.last .pure)

/-- An operand by itself. -/
theorem IsAtom.isOperand {Follows : List Token → Prop} (hatom : IsAtom Follows tokens)
    (hfollows : ∀ rest, FollowsExpr rest → Follows rest) : IsOperand tokens := by
  have hnothing : Tail true [] := .nil
  have hoperand := hatom.operand hnothing hfollows
  rwa [List.append_nil] at hoperand

/-- A reference to an operand. -/
theorem IsOperand.referenced (hoperand : IsOperand tokens)
    (hplain : ∀ rest, rawAddress (placedAll (tokens ++ rest)) = false ∧
      isWord "mut" (placedAll (tokens ++ rest)) = false) :
    IsOperand (.punct '&' false :: tokens) where
  readable := readable_mark (by decide) hoperand.readable
  nonempty := List.cons_ne_nil _ _
  unarrowed _ := rfl
  accepted depth rest hdepth hfollows := by
    rw [extent_punct] at hdepth
    obtain ⟨depth, rfl⟩ : ∃ depth', depth = depth' + 1 := ⟨depth - 1, by omega⟩
    obtain ⟨form, -, hinner⟩ := hoperand.accepted depth rest (by omega) hfollows
    obtain ⟨hraw, hmut⟩ := hplain rest
    have hsigned : Parses (signed (ofDepth depth) true) (.punct '&' false :: tokens) rest () := by
      refine .cons (parses_op? (parses_op rfl) rfl) (.yes rfl (.ahead (.no hraw ?_)))
      exact .skip (passes_word? hmut) (hinner.last .pure)
    refine ⟨.other, nofun, .copyingIf ?_⟩
    refine .skip (skips_outer rfl).printing.parses (.skip (.emit _) (.ahead (.yes rfl ?_)))
    exact hsigned.last .pure

/-! Closures -/

/-- A parameter of a closure, with its type. -/
structure IsClosureParam (tokens : List Token) : Prop where
  split : ∃ (name : Name) (type : List Token), IsType true type ∧
    tokens = .ident name.text :: .punct ':' false :: type

/-- What stands behind a plain binding. -/
inductive FollowsBinding : List Token → Prop where
  | colon (rest : List Token) : FollowsBinding (.punct ':' false :: rest)
  | equal (rest : List Token) : FollowsBinding (.punct '=' false :: rest)

/-- A plain binding is taken as a pattern. -/
theorem parses_binding (name : Name) (hdepth : 0 < depth) (hfollows : FollowsBinding rest) :
    Parses (ofDepth depth).pattern [.ident name.text] rest (.binding name.text) := by
  obtain ⟨depth, rfl⟩ := Nat.exists_eq_add_one_of_ne_zero (Nat.ne_zero_of_lt hdepth)
  have hword {word : String} (hword : word ∈ reserved) :
      isWord word (placedAll ([.ident name.text] ++ rest)) = false := name.isWord hword
  have hpath : Pattern.beginsPath (placedAll ([.ident name.text] ++ rest)) = false := by
    have hkeyword : isOneOf ["Self", "super", "crate"] (placedAll ([.ident name.text] ++ rest)) =
        false := name.isOneOf (by decide)
    rw [Pattern.beginsPath, hkeyword, hword (by decide)]
    cases hfollows <;> simp [isOp, beginsWith, placedAll, placed, skip, isGroup]
  have hident : isIdent (placedAll ([.ident name.text] ++ rest)) = true := name.isIdent
  have hbinding : Parses (Pattern.binding (ofDepth depth)) [.ident name.text] rest
      (.binding name.text) := by
    refine .skip (passes_word? (hword (by decide))) (.skip (passes_word? (hword (by decide))) ?_)
    have hat : isOp "@" (placedAll rest) = false := by cases hfollows <;> rfl
    have hself : isWord "self" (placedAll ([.ident name.text] ++ rest)) = false := hword (by decide)
    exact .ahead (.no hself ((parses_ident name).last (.skip (passes_op? hat) (.no rfl .pure))))
  refine .ahead (.no hpath (.no (hword (by decide)) (.no (hword (by decide)) (.no ?_ (.yes ?_
    hbinding)))))
  · have hliteral : isLiteral (placedAll ([.ident name.text] ++ rest)) = false := name.isLiteral
    rw [hliteral, hword (by decide)]
    rfl
  · rw [hident, Bool.or_true]

theorem IsClosureParam.readable (hparam : IsClosureParam tokens) : Readable tokens := by
  obtain ⟨name, type, htype, rfl⟩ := hparam.split
  exact readable_word name.word (readable_mark (by decide) htype.readable)

theorem IsClosureParam.accepts (hparam : IsClosureParam tokens) (hdepth : extent tokens < depth)
    (hends : Type.Ends (placedAll rest)) :
    Accepts (closureParameter (ofDepth depth)) tokens rest := by
  obtain ⟨name, type, htype, rfl⟩ := hparam.split
  simp only [extent_ident, extent_punct] at hdepth
  obtain ⟨printed, hbinding⟩ :=
    parses_binding name (show 0 < depth by omega) (.colon (type ++ rest))
  refine .skip (skips_outer rfl).printing.parses (.cons hbinding.printing.parses (.ahead ?_))
  refine .yes rfl (.skip (.emit _) (.cons (parses_op rfl) ?_))
  exact (htype.accepted depth rest (by omega) hends).2.last fun _ => .pure

/-- The parameters of a closure with its body, from the bar on. -/
def barred (joint : Bool) (params body : List Token) : List Token :=
  .punct '|' joint :: (params ++ .punct '|' false :: body)

theorem ends_bar {joint : Bool} : Type.Ends (placedAll (.punct '|' joint :: rest)) :=
  ⟨⟨by cases joint <;> rfl, rfl, rfl⟩, rfl, rfl, rfl⟩

theorem accepts_closure (moving joint : Bool) {params body : List Token}
    (hparams : Commas IsClosureParam params) (hbody : IsExpr body)
    (hdepth : 4 * extent (barred joint params body) < depth) (hfollows : FollowsExpr rest) :
    Accepts (closure (ofDepth depth) true)
      ((if moving then [.ident "move"] else []) ++ barred joint params body) rest := by
  simp only [barred, extent_append, extent_punct] at hdepth
  have hitem piece (hpiece : IsClosureParam piece) (hextent : extent piece ≤ extent params) :
      piece ≠ [] ∧ (∀ rest, isOp "|" (placedAll (piece ++ rest)) = false) ∧
        ∀ more, FollowsPiece (.punct '|' false :: (body ++ rest)) more →
          Accepts (closureParameter (ofDepth depth)) piece more := by
    obtain ⟨name, type, htype, rfl⟩ := hpiece.split
    refine ⟨List.cons_ne_nil _ _, fun _ => rfl, fun more hmore => hpiece.accepts (by omega) ?_⟩
    obtain rfl | ⟨others, rfl⟩ := hmore
    · exact ends_bar
    · exact ends_comma _
  have hparams : Parses (Reader.separated (isOp "|") "," (closureParameter (ofDepth depth))) params
      (.punct '|' false :: (body ++ rest)) () := hparams.separated hitem rfl fun _ => rfl
  have hmove : Parses (word? "move") (if moving then [.ident "move"] else [])
      (barred joint params body ++ rest) moving := by
    cases moving with
    | true => exact parses_word?
    | false => exact passes_word? rfl
  refine .skip (Bound.skips_binder? ?_).parses (.skip (passes_word? ?_) (.skip (passes_word? ?_)
    (.skip (passes_word? ?_) (.after hmove (.cons (parses_op rfl) (.after hparams (.cons
      (parses_op rfl) (.skip (passes_op? (hbody.unarrowed rest)) (.no rfl ?_)))))))))
  · cases moving <;> rfl
  · cases moving <;> rfl
  · cases moving <;> rfl
  · cases moving <;> rfl
  · exact hbody.accepted depth rest (by omega) hfollows

theorem isAtom_closure (moving joint : Bool) {params body : List Token}
    (hparams : Commas IsClosureParam params) (hjoint : joint = true → params = [])
    (hbody : IsExpr body) :
    IsAtom FollowsExpr ((if moving then [.ident "move"] else []) ++ barred joint params body) where
  readable := by
    refine .append ?_ ?_
    · cases moving with
      | true => exact readable_word rfl trivial
      | false => trivial
    have hbar : Readable (.punct '|' false :: body) := readable_mark (by decide) hbody.readable
    cases joint with
    | false =>
      have hfront : Readable params := hparams.readable fun _ => IsClosureParam.readable
      exact readable_mark (by decide) (hfront.append hbar)
    | true =>
      rw [hjoint rfl]
      exact ⟨trivial, ⟨by decide, by decide, by decide⟩, hbar⟩
  nonempty := by simp [barred]
  unarrowed _ := by cases moving <;> cases joint <;> rfl
  unsigned _ := by cases moving <;> rfl
  unmarked _ := by cases moving <;> rfl
  accepted depth rest hdepth hfollows := by
    rw [extent_append] at hdepth
    obtain ⟨_, hclosure⟩ :=
      accepts_closure moving joint hparams hbody (show _ < depth by omega) hfollows
    refine ⟨.other, nofun, .ahead (.no ?_ (.no ?_ (.no ?_ (.yes ?_ (hclosure.last .pure)))))⟩
    all_goals cases moving <;> rfl

end ServiceGen.Grammar
