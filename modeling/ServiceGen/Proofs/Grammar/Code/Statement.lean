import ServiceGen.Grammar.Closed
import ServiceGen.Proofs.Grammar.Code.Expression

/-!
The statements of generated code: bindings, expressions with a semicolon behind them, and blocks. A
body is a sequence of these, perhaps with an expression as its result.
-/
namespace ServiceGen.Grammar

open Located Token Reader Ahead Statement

variable {tokens more rest : List Token} {depth : Nat}

/-- That a statement in front does not go on with what follows. -/
structure Fresh (rest : List Token) : Prop where
  trailer : Expression.isTrailer (placedAll rest) = false
  semicolon : isOp ";" (placedAll rest) = false
  mark : isOp "#" (placedAll rest) = false

theorem Fresh.nil : Fresh [] := ⟨rfl, rfl, rfl⟩

/-- Tokens that are taken as a statement, behind which another one may stand. -/
structure IsStatement (tokens : List Token) : Prop where
  readable : Readable tokens
  nonempty : tokens ≠ []
  fresh : ∀ rest, Fresh (tokens ++ rest)
  accepted : ∀ depth rest, 4 * extent tokens + 1 < depth → Fresh rest →
    ∃ form, form ≠ Form.unclosed ∧ Parses (one (ofDepth depth)) tokens rest form

/-- Tokens that are taken as an expression at the beginning of a statement. -/
structure IsLead (tokens : List Token) : Prop where
  operand : IsOperand tokens
  fresh : ∀ rest, Fresh (tokens ++ rest)
  accepted : ∀ depth rest, 4 * extent tokens + 1 < depth → FollowsExpr rest →
    ∃ form, Parses (Standalone.statement (ofDepth depth) []) tokens rest form
  plain : ∀ rest, FollowsExpr rest → isWord "let" (placedAll (tokens ++ rest)) = false ∧
    beginsItem (placedAll (tokens ++ rest)) = false ∧ Parses callAhead [] (tokens ++ rest) .absent

/-- The statements of a body. -/
inductive IsBody : List Token → Prop where
  | nil : IsBody []
  | result {tokens : List Token} (hlead : IsLead tokens) : IsBody tokens
  | cons {tokens more : List Token} (hstatement : IsStatement tokens) (hmore : IsBody more) :
    IsBody (tokens ++ more)

namespace IsBody

theorem readable (hbody : IsBody tokens) : Readable tokens := by
  induction hbody with
  | nil => trivial
  | result hlead => exact hlead.operand.readable
  | cons hstatement _ ih => exact hstatement.readable.append ih

theorem fresh (hbody : IsBody tokens) : Fresh tokens := by
  cases hbody with
  | nil => exact .nil
  | result hlead => simpa using hlead.fresh []
  | cons hstatement _ => exact hstatement.fresh _

theorem flatten_append {statements : List (List Token)}
    (hstatements : ∀ statement ∈ statements, IsStatement statement) (hmore : IsBody more) :
    IsBody (statements.flatten ++ more) := by
  induction statements with
  | nil => exact hmore
  | cons statement statements ih =>
    rw [List.flatten_cons, List.append_assoc]
    exact .cons (hstatements statement List.mem_cons_self)
      (ih fun other hother => hstatements other (List.mem_cons_of_mem _ hother))

end IsBody

theorem IsStatement.isBody (hstatement : IsStatement tokens) : IsBody tokens :=
  List.append_nil tokens ▸ .cons hstatement .nil

/-- How a statement ends behind its expression. -/
def ending (answer : ExprForm) : Reader Form := do
  if ← op? ";" then return .closed
  match answer with
  | .block => return .closed
  | .bracedCall => return .closed
  | _ => return .unclosed

theorem IsLead.parses_one (hlead : IsLead tokens) (hdepth : 4 * extent tokens + 1 < depth)
    (hfollows : FollowsExpr (more ++ rest)) {form : ExprForm → Form}
    (hending : ∀ answer, Parses (ending answer) more rest (form answer)) :
    ∃ answer, Parses (one (ofDepth depth)) (tokens ++ more) rest (form answer) := by
  obtain ⟨answer, hstatement⟩ := hlead.accepted depth (more ++ rest) hdepth hfollows
  obtain ⟨hlet, hitem, hcall⟩ := hlead.plain (more ++ rest) hfollows
  have hmark := (hlead.fresh (more ++ rest)).mark
  rw [← List.append_assoc] at hlet hitem hcall hmark
  refine ⟨answer, .copyingIf ?_⟩
  refine .skip (skips_outer hmark).printing.parses (.skip hcall (.ahead (.no hlet ?_)))
  exact .no hitem (hstatement.bind (hending answer))

/-- An expression with a semicolon behind it. -/
theorem IsLead.isStatement (hlead : IsLead tokens) : IsStatement (tokens ++ [semicolon]) where
  readable := hlead.operand.readable.append (readable_mark (by decide) trivial)
  nonempty := by simp
  fresh rest := by simpa using hlead.fresh (semicolon :: rest)
  accepted depth rest hdepth _ := by
    rw [extent_append] at hdepth
    have hending answer : Parses (ending answer) [semicolon] rest .closed :=
      .last (parses_op? (parses_op rfl) rfl) (.yes rfl .pure)
    obtain ⟨-, hone⟩ := hlead.parses_one (show _ < depth by omega) (.semicolon rest) hending
    exact ⟨.closed, nofun, hone⟩

/-- An expression without one, at the end. -/
theorem IsLead.accepts_result (hlead : IsLead tokens) (hdepth : 4 * extent tokens + 1 < depth) :
    Accepts (one (ofDepth depth)) tokens [] := by
  have hending answer : Parses (ending answer) [] [] (match answer with
      | .block => .closed
      | .bracedCall => .closed
      | _ => .unclosed) := by
    refine .skip (passes_op? rfl) (.no rfl ?_)
    cases answer <;> exact .pure
  obtain ⟨answer, hone⟩ := hlead.parses_one hdepth .nil hending
  rw [List.append_nil] at hone
  exact hone.accepts

/-- The statements of a body are taken one by one. -/
theorem IsBody.parses (hbody : IsBody tokens) (hdepth : 4 * extent tokens + 1 < depth) :
    Parses (Statement.all (ofDepth depth)) tokens [] () := by
  refine Loops.repeating ?_
  have hend {tokens : List Token} (hnonempty : tokens ≠ []) (rest : List Token) :
      (placedAll (tokens ++ rest)).isEmpty = false := by
    obtain ⟨token, more, rfl⟩ := List.exists_cons_of_ne_nil hnonempty
    rfl
  induction hbody with
  | nil => exact .done (.atEnd (.yes rfl .pure))
  | @result tokens hlead =>
    obtain ⟨form, hone⟩ := hlead.accepts_result hdepth
    refine .done (.atEnd (.no (hend hlead.operand.nonempty []) ?_))
    refine .skip (passes_op? (hlead.fresh []).semicolon) (.no rfl (hone.last ?_))
    exact .atEnd (.yes rfl .pure)
  | @cons tokens more hstatement hmore ih =>
    rw [extent_append] at hdepth
    obtain ⟨form, hform, hone⟩ := hstatement.accepted depth more (by omega) hmore.fresh
    have hfront := (hstatement.fresh more).semicolon
    by_cases hnothing : more = []
    · subst hnothing
      rw [List.append_nil]
      refine .done (.atEnd (.no (hend hstatement.nonempty []) (.skip (passes_op? hfront) ?_)))
      exact .no rfl (hone.last (.atEnd (.yes rfl .pure)))
    · refine .again hstatement.nonempty (.atEnd (.no (hend hstatement.nonempty _) ?_))
        (ih (by omega))
      rw [List.append_nil]
      refine .skip (passes_op? hfront) (.no rfl (hone.last (.atEnd (.no ?_ (.no ?_ .pure)))))
      · simpa using hend hnothing []
      · cases form with
        | unclosed => exact absurd rfl hform
        | closed | copied => rfl

/-! Kinds of statements -/

/-- What does not depend on what was printed. -/
theorem Parses.endsInBrace {α : Type} {a : α} {next : Bool → Reader α} {front rest : List Token}
    (printed : List Token) (hnext : ∀ answer, Takes (next answer) (placedAll front) (placedAll rest)
      a printed) : Parses (Statement.endsInBrace >>= next) front rest a :=
  ⟨printed, fun limit stray before => hnext _ limit stray before⟩

/-- A pattern in front of an equals sign. -/
structure IsTarget (tokens : List Token) : Prop where
  readable : Readable tokens
  accepted : ∀ depth rest, 0 < depth →
    Accepts (ofDepth depth).pattern tokens (.punct '=' false :: rest)

theorem Name.isTarget (name : Name) : IsTarget [.ident name.text] where
  readable := readable_word name.word trivial
  accepted _ rest hdepth := (parses_binding name hdepth (.equal rest)).accepts

theorem isTarget_underscore : IsTarget [.ident "_"] where
  readable := readable_word rfl trivial
  accepted depth rest hdepth := by
    obtain ⟨depth, rfl⟩ := Nat.exists_eq_add_one_of_ne_zero (Nat.ne_zero_of_lt hdepth)
    exact ⟨.other, .ahead (.no rfl (.yes rfl (parses_anyIdent.last .pure)))⟩

/-- A binding with its value. -/
theorem IsTarget.isStatement {target value : List Token} (htarget : IsTarget target)
    (hvalue : IsExpr value) :
    IsStatement (.ident "let" :: (target ++ .punct '=' false :: (value ++ [semicolon]))) where
  readable :=
    readable_word rfl (htarget.readable.append (readable_mark (by decide)
      (hvalue.readable.append (readable_mark (by decide) trivial))))
  nonempty := List.cons_ne_nil _ _
  fresh _ := ⟨rfl, rfl, rfl⟩
  accepted depth rest hdepth _ := by
    simp only [extent_ident, extent_append, extent_punct] at hdepth
    have hbinding : Parses (Statement.binding (ofDepth depth))
        (.ident "let" :: (target ++ .punct '=' false :: (value ++ [semicolon]))) rest () := by
      obtain ⟨pattern, hpattern⟩ := htarget.accepted depth (value ++ [semicolon] ++ rest) (by omega)
      obtain ⟨answer, hvalue⟩ :=
        hvalue.accepted depth (semicolon :: rest) (by omega) (.semicolon rest)
      refine .cons parses_word (.bind hpattern (.skip (passes_op? rfl) (.no rfl ?_)))
      refine .cons (parses_op? (parses_op rfl) rfl) (.yes rfl (.bind hvalue ?_))
      refine .endsInBrace [semicolon] fun ended => ?_
      exact .ahead (.no (Bool.and_false _) (takes_op rfl))
    refine ⟨.closed, nofun, .copyingIf ?_⟩
    refine .skip (skips_outer rfl).printing.parses (.skip ⟨[], fun _ _ _ => rfl⟩ (.ahead ?_))
    exact .yes rfl (.skip (.emit _) (hbinding.last .pure))

/-- Whether an attribute of what tokens stand in comes next. -/
def beginsInner (tokens : List Located) : Bool := isOp "#" tokens && isOp "!" (skip tokens)

theorem skips_inner {g : Grammar} (hinner : beginsInner (placedAll rest) = false) :
    Parses (Attribute.inner g) [] rest [] :=
  Loops.repeating (.done (.ahead (.no (by rwa [List.nil_append]) .pure)))

/-- A block with its body. -/
theorem IsBody.parses_block (hbody : IsBody tokens) (hdepth : 4 * extent tokens + 2 < depth) :
    Parses (Attribute.block (ofDepth depth)) [.group .brace tokens] rest [] := by
  obtain ⟨depth, rfl⟩ : ∃ depth', depth = depth' + 1 := ⟨depth - 1, by omega⟩
  have hstatements : Parses (ofDepth (depth + 1)).statements tokens [] () :=
    hbody.parses (by omega)
  refine .group (.skip (skips_inner ?_) (hstatements.last .pure))
  rw [List.append_nil, beginsInner, hbody.fresh.mark, Bool.false_and]

theorem IsBody.parses_atom (hbody : IsBody tokens) (hdepth : 4 * extent tokens + 2 < depth) :
    Parses (Expression.atom (ofDepth depth) true) [.group .brace tokens] rest .block := by
  refine .ahead ?_
  iterate 21 refine .no rfl ?_
  exact .yes rfl ((hbody.parses_block hdepth).discard.last .pure)

theorem IsBody.isAtom (hbody : IsBody tokens) : IsAtom (fun _ => True) [.group .brace tokens] where
  readable := readable_group hbody.readable
  nonempty := List.cons_ne_nil _ _
  unarrowed _ := rfl
  unsigned _ := rfl
  unmarked _ := rfl
  accepted depth rest hdepth _ := by
    simp only [extent_group, extent_nil] at hdepth
    exact ⟨.block, nofun, hbody.parses_atom (by omega)⟩

theorem IsBody.isStatement (hbody : IsBody tokens) : IsStatement [.group .brace tokens] where
  readable := readable_group hbody.readable
  nonempty := List.cons_ne_nil _ _
  fresh _ := ⟨rfl, rfl, rfl⟩
  accepted depth rest hdepth hfresh := by
    simp only [extent_group, extent_nil] at hdepth
    obtain ⟨printed, hatom⟩ : Parses (Expression.atom (ofDepth depth) true)
        [.group .brace tokens] rest .block := hbody.parses_atom (by omega)
    have hlead : Parses (Standalone.lead (ofDepth depth) true) [.group .brace tokens] rest
        ⟨.block, printed, true⟩ := by
      refine .ahead (.no rfl (.last hatom.printing.parses (.ahead (.yes ?_ .pure))))
      simp only [List.nil_append, hfresh.trailer]
      rfl
    refine ⟨.closed, nofun, .copyingIf ?_⟩
    refine .skip (skips_outer rfl).printing.parses (.skip ⟨[], fun _ _ _ => rfl⟩ (.ahead ?_))
    refine .no rfl (.no rfl (.last (a := .block) ?_ ?_))
    · exact hlead.last (.yes rfl ((Parses.emit _).last .pure))
    · exact .skip (passes_op? hfresh.semicolon) (.no rfl .pure)

/-! Expressions at the beginning of a statement -/

/-- An operand that is no block, taken as the expression of a statement. -/
theorem parses_statement {form : ExprForm} {head : List Token}
    (hlead : Parses (Standalone.lead (ofDepth depth) true) tokens rest ⟨form, head, false⟩)
    (hform : form ≠ .range) (hfollows : FollowsExpr rest) (hdepth : 0 < depth) :
    ∃ form, Parses (Standalone.statement (ofDepth depth) []) tokens rest form := by
  have hcasts : Parses (Operation.readCasts (ofDepth depth) form) [] rest ⟨[], false⟩ :=
    hfollows.parses_casts hform
  obtain ⟨printed, hoperators⟩ := hfollows.operators hform [] hdepth
  refine ⟨form, .last hlead (.no rfl (.skip hcasts (.skip hoperators.printing.parses ?_)))⟩
  cases form with
  | range => exact absurd rfl hform
  | block | bracedCall | comparison | copied | other => exact (Parses.emit _).last .pure

theorem IsAtom.parses_lead {Follows : List Token → Prop} {callable : Bool}
    (hatom : IsAtom Follows tokens) (htail : Tail callable more) (hfollows : FollowsExpr rest)
    (hmore : Follows (more ++ rest)) (hdepth : 4 * extent (tokens ++ more) < depth)
    (hbegins : Standalone.beginsStatement (placedAll (tokens ++ (more ++ rest))) = false) :
    ∃ form head, form ≠ .range ∧
      Parses (Standalone.lead (ofDepth depth) true) (tokens ++ more) rest ⟨form, head, false⟩ := by
  rw [extent_append] at hdepth
  obtain ⟨form, hform, printed, hfirst⟩ :=
    hatom.accepted depth (more ++ rest) (by omega) hmore
  obtain ⟨form', hform', others, hbehind⟩ :=
    htail.parses hfollows (show _ < depth by omega) hform
  have hsigned := hatom.unsigned (more ++ rest)
  rw [← List.append_assoc] at hsigned hbegins
  exact ⟨form', _, hform', .ahead (.no hsigned (.bind hfirst.printing.parses (.ahead (.no
    (by rw [hbegins, Bool.false_and]) (hbehind.printing.parses.last .pure)))))⟩

/-- What stands behind a path at the beginning of a statement: neither another word nor a call of a
macro that is a statement by itself. -/
structure BehindPath (rest : List Token) : Prop where
  colons : isOp "::" (placedAll rest) = false
  word : isAnyIdent (placedAll rest) = false
  call : isOp "!" (placedAll rest) = false ∨
    ∃ inner more, rest = .punct '!' false :: .group .bracket inner :: more

theorem FollowsAtom.behindPath (hfollows : FollowsAtom rest) : BehindPath rest where
  colons := hfollows.ends.2.1
  word := by
    cases hfollows with
    | call args rest => rfl
    | member hfollows =>
      cases hfollows with
      | expr hfollows => cases hfollows <;> rfl
      | member name rest | question rest => rfl
  call := .inl hfollows.ends.2.2.1

theorem beginsPlain_text (segment : BareSegment) (position : Position) (rest : List Located) :
    Path.beginsPlain (.ident segment.text position :: rest) = true := by
  cases segment with
  | keyword keyword => cases keyword <;> rfl
  | name name =>
    have hident : isIdent (.ident name.text position :: rest) = true := name.isIdent
    rw [Path.beginsPlain, BareSegment.text, hident, Bool.true_or]

/-- A bare path is read as one that cannot have arguments. -/
theorem BarePath.accepts_plain (path : BarePath) (hcolons : isOp "::" (placedAll rest) = false) :
    Accepts Path.plain path.tokens rest := by
  have hlead : Parses (op? "::") (if path.rooted then separator else [])
      (.ident path.first.text :: chain path.others ++ rest) path.rooted := by
    cases path.rooted with
    | true => exact parses_op? (parses_op_pair rfl) rfl
    | false => exact passes_op? rfl
  refine .after hlead (.last ?_ fun _ => .pure)
  refine (?_ : ∃ names, Loops _ _ _ _ names).imp fun _ => Loops.repeating
  generalize ([] : List String) = names
  generalize path.first = first
  generalize path.others = others
  induction others generalizing first names with
  | nil =>
    refine ⟨first.text :: names, .done (.ahead (.yes (beginsPlain_text first _ _) ?_))⟩
    exact parses_anyIdent.cons (.skip (passes_op? hcolons) (.no rfl .pure))
  | cons segment others ih =>
    obtain ⟨names', hloops⟩ := ih (first.text :: names) segment
    refine ⟨names', ?_⟩
    change Loops _ names ((.ident first.text :: separator) ++ (_ :: chain others)) rest names'
    refine .again (List.cons_ne_nil _ _)
      (.ahead (.yes (beginsPlain_text first _ _) (parses_anyIdent.cons ?_))) hloops
    refine .last (parses_op? (parses_op_pair rfl) rfl) (.yes rfl (.ahead (.yes ?_ .pure)))
    exact beginsPlain_text segment _ _

theorem BarePath.parses_callAhead (path : BarePath) (hbehind : BehindPath rest) :
    Parses callAhead [] (path.tokens ++ rest) .absent := by
  obtain ⟨_, printed, hplain⟩ := path.accepts_plain hbehind.colons
  refine ⟨[], fun limit stray before => ?_⟩
  have hread := hplain limit stray before
  rw [← placedAll_append] at hread
  simp only [callAhead, placedAll, List.nil_append, hread]
  obtain hbang | ⟨inner, more, rfl⟩ := hbehind.call
  · rw [hbang]
    rfl
  · rfl

theorem not_word {trees : List Located} (htrees : isAnyIdent trees = false) (word : String) :
    isWord word trees = false := by
  cases trees with
  | nil => rfl
  | cons tree trees => cases tree <;> first | rfl | exact absurd htrees Bool.noConfusion

theorem not_ident {trees : List Located} (htrees : isAnyIdent trees = false) :
    isIdent trees = false := by
  cases trees with
  | nil => rfl
  | cons tree trees => cases tree <;> first | rfl | exact absurd htrees Bool.noConfusion

/-- A path in front of another word might be the beginning of an item, which `crate` by itself is
taken for as well. -/
theorem BarePath.beginsItem (path : BarePath)
    (hcrate : path.first ≠ .keyword .crate ∨ path.others ≠ []) (hbehind : BehindPath rest) :
    Statement.beginsItem (placedAll (path.tokens ++ rest)) = false := by
  have hbegins := path.begins rest
  have hword {word : String} (hword : word ∈ BeginsPath.closedWords) :
      isWord word (placedAll (path.tokens ++ rest)) = false := hbegins.isWord hword
  have hwords : isOneOf ["extern", "use", "fn", "mod", "type", "struct", "enum", "trait", "impl",
      "macro"] (placedAll (path.tokens ++ rest)) = false := hbegins.isOneOf (by decide)
  have hsecond : isAnyIdent (skip (placedAll (path.tokens ++ rest))) = false := by
    rw [tokens]
    cases path.rooted with
    | true => rfl
    | false =>
      cases path.others with
      | nil => exact hbehind.word
      | cons segment others => rfl
  have hcolons : (isWord "crate" (placedAll (path.tokens ++ rest)) &&
      !isOp "::" (skip (placedAll (path.tokens ++ rest)))) = false := by
    rw [tokens]
    cases path.rooted with
    | true => rfl
    | false =>
      cases hothers : path.others with
      | cons segment others => exact Bool.and_false _
      | nil =>
        have hfirst : path.first.text ≠ "crate" := by
          cases hfirst : path.first with
          | name name =>
            intro (heq : name.text = "crate")
            exact absurd name.free (by rw [heq]; decide)
          | keyword keyword =>
            have hkeyword : keyword ≠ .crate := by
              rintro rfl
              exact hcrate.elim (absurd hfirst) (absurd hothers)
            cases keyword <;> first | decide | exact absurd rfl hkeyword
        exact Bool.and_eq_false_imp.mpr fun h => absurd (eq_of_beq h) hfirst
  have hone : isOneOf ["unsafe", "impl"] (skip (placedAll (path.tokens ++ rest))) = false := by
    simp only [isOneOf, List.any_cons, List.any_nil, not_word hsecond, Bool.or_false]
  have hmark := hword (show "pub" ∈ BeginsPath.closedWords by decide)
  have hstorage := hword (show "static" ∈ BeginsPath.closedWords by decide)
  have hconst := hword (show "const" ∈ BeginsPath.closedWords by decide)
  have hunsafe := hword (show "unsafe" ∈ BeginsPath.closedWords by decide)
  have hasync := hword (show "async" ∈ BeginsPath.closedWords by decide)
  simp only [Statement.beginsItem, hmark, hcolons, hwords, hstorage, hconst, hunsafe, hasync,
    not_ident hsecond, not_word hsecond, hone, Bool.false_and, Bool.and_false, Bool.or_false]

theorem BeginsPath.fresh (hbegins : BeginsPath (placedAll rest)) : Fresh rest where
  trailer := by
    have hdot : Ahead.isOp "." (placedAll rest) = false := hbegins.isOp rfl (by decide)
    have hquestion : Ahead.isOp "?" (placedAll rest) = false := hbegins.isOp rfl (by decide)
    rw [Expression.isTrailer, hdot, hquestion]
    rfl
  semicolon := hbegins.isOp rfl (by decide)
  mark := hbegins.isOp rfl (by decide)

/-- What begins with a path begins a statement that is an expression. -/
theorem BarePath.isLead (path : BarePath) {behind tail : List Token} {callable : Bool}
    {Follows : List Token → Prop} (hcrate : path.first ≠ .keyword .crate ∨ path.others ≠ [])
    (hatom : IsAtom Follows (path.tokens ++ behind)) (htail : Tail callable tail)
    (hfollows : ∀ rest, FollowsExpr rest →
      Follows (tail ++ rest) ∧ BehindPath (behind ++ (tail ++ rest))) :
    IsLead (path.tokens ++ behind ++ tail) where
  operand := hatom.operand htail fun rest hrest => (hfollows rest hrest).1
  fresh rest := by
    have hbegins := path.begins (behind ++ tail ++ rest)
    rw [List.append_assoc path.tokens, List.append_assoc]
    exact hbegins.fresh
  accepted depth rest hdepth hrest := by
    have hbegins := path.begins (behind ++ (tail ++ rest))
    have hstatement : Standalone.beginsStatement
        (placedAll (path.tokens ++ behind ++ (tail ++ rest))) = false := by
      have hwords : isOneOf ["if", "while", "loop", "match", "unsafe"]
          (placedAll (path.tokens ++ (behind ++ (tail ++ rest)))) = false :=
        hbegins.isOneOf (by decide)
      have hfor := hbegins.isWord (show "for" ∈ BeginsPath.closedWords by decide)
      have htry := hbegins.isWord (show "try" ∈ BeginsPath.closedWords by decide)
      have hconst := hbegins.isWord (show "const" ∈ BeginsPath.closedWords by decide)
      rw [List.append_assoc, Standalone.beginsStatement, hwords, hfor, htry, hconst,
        hbegins.isGroup, hbegins.isLifetime]
      rfl
    obtain ⟨form, head, hform, hlead⟩ := hatom.parses_lead htail hrest (hfollows rest hrest).1
      (show _ < depth by omega) hstatement
    exact parses_statement hlead hform hrest (by omega)
  plain rest hrest := by
    have hbegins := path.begins (behind ++ (tail ++ rest))
    simp only [List.append_assoc]
    exact ⟨hbegins.isWord (by decide), path.beginsItem hcrate (hfollows rest hrest).2,
      path.parses_callAhead (hfollows rest hrest).2⟩

/-- A path with what stands behind it as an atom. -/
theorem BarePath.isLead_tail (path : BarePath) {tail : List Token}
    (hcrate : path.first ≠ .keyword .crate ∨ path.others ≠ []) (htail : Tail true tail) :
    IsLead (path.tokens ++ tail) := by
  have hatom : IsAtom FollowsAtom (path.tokens ++ []) := by simpa using path.isAtom
  have hlead := path.isLead hcrate hatom htail
    fun rest hrest => ⟨htail.followsAtom hrest, (htail.followsAtom hrest).behindPath⟩
  rwa [List.append_nil] at hlead

/-- A structure by itself. -/
theorem BarePath.isLead_structure (path : BarePath) {fields : List Token}
    (hcrate : path.first ≠ .keyword .crate ∨ path.others ≠ []) (hfields : Commas IsField fields) :
    IsLead (path.tokens ++ [.group .brace fields]) := by
  have hnothing : Tail true [] := .nil
  have hlead := path.isLead hcrate (path.isAtom_structure hfields) hnothing
    fun rest _ => ⟨trivial, ⟨rfl, rfl, .inl rfl⟩⟩
  rwa [List.append_nil] at hlead

/-- A call of a macro with brackets by itself. -/
theorem Name.isLead_call (name : Name) {inner : List Token} (hinner : Readable inner) :
    IsLead ((BarePath.single name).tokens ++ [.punct '!' false, .group .bracket inner]) := by
  have hnothing : Tail true [] := .nil
  have hlead := (BarePath.single name).isLead (.inl nofun) (name.isAtom_call hinner) hnothing
    fun rest _ => ⟨trivial, ⟨rfl, rfl, .inr ⟨inner, rest, rfl⟩⟩⟩
  rwa [List.append_nil] at hlead

/-- A reference by itself. -/
theorem IsOperand.isLead_referenced (hoperand : IsOperand (.punct '&' false :: tokens)) :
    IsLead (.punct '&' false :: tokens) where
  operand := hoperand
  fresh _ := ⟨rfl, rfl, rfl⟩
  accepted depth rest hdepth hrest := by
    obtain ⟨form, hform, printed, hinner⟩ := hoperand.accepted depth rest hdepth hrest
    have hlead : Parses (Standalone.lead (ofDepth depth) true) (.punct '&' false :: tokens) rest
      ⟨form, printed, false⟩ := .ahead (.yes rfl (hinner.printing.parses.last .pure))
    exact parses_statement hlead hform hrest (by omega)
  plain _ _ := ⟨rfl, rfl, [], fun _ _ _ => rfl⟩

end ServiceGen.Grammar
