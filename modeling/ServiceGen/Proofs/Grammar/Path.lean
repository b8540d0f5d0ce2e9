import ServiceGen.Grammar.Path
import ServiceGen.Proofs.Grammar.PlainType

/-!
Paths of plain types are taken segment by segment, and the arguments of a segment one by one.
-/
namespace ServiceGen.Grammar

open Reader Ahead

variable {g : Grammar} {inExpression : Bool} {front rest : List Located} {position : Position}

theorem Name.isWord (name : Name) {word : String} (hword : word ∈ reserved) :
    Ahead.isWord word (.ident name.text position :: rest) = false := by
  refine beq_eq_false_iff_ne.mpr fun heq => ?_
  have hfree := name.free
  rw [heq, List.contains_iff_mem.mpr hword] at hfree
  exact absurd hfree (by decide)

theorem Name.isOneOf (name : Name) {words : List String}
    (hwords : ∀ word ∈ words, word ∈ reserved) :
    Ahead.isOneOf words (.ident name.text position :: rest) = false := by
  rw [Ahead.isOneOf, List.any_eq_false]
  exact fun word hword => by simp [name.isWord (hwords word hword)]

theorem Name.isIdent (name : Name) :
    Ahead.isIdent (.ident name.text position :: rest) = true := by
  simp only [Ahead.isIdent, name.free, Bool.not_false]

theorem Name.isLiteral (name : Name) :
    Ahead.isLiteral (.ident name.text position :: rest) = false := by
  have htrue : Ahead.isWord "true" (.ident name.text position :: rest) = false :=
    name.isWord (by decide)
  have hfalse : Ahead.isWord "false" (.ident name.text position :: rest) = false :=
    name.isWord (by decide)
  exact Bool.or_eq_false_iff.mpr ⟨htrue, hfalse⟩

namespace Path

/-- That a segment of a path does not go on with what follows. -/
def EndsSegment (rest : List Located) : Prop :=
  isOp "<" rest = false ∧ (isOp "::" rest && isOp "<" (skip (skip rest))) = false

/-- That a path does not go on with what follows. -/
structure Ends (rest : List Located) : Prop where
  colons : isOp "::" rest = false
  angle : isOp "<" rest = false
  parenthesis : isGroup .parenthesis rest = false

theorem Ends.segment (hends : Ends rest) : EndsSegment rest :=
  ⟨hends.angle, by rw [hends.colons, Bool.false_and]⟩

theorem takes_plain (name : Name) (hends : EndsSegment rest) :
    Takes (segment g inExpression) [.ident name.text position] rest (name.text, .absent)
      [.ident name.text] := by
  unfold segment
  refine .ahead (.no (name.isOneOf (by decide)) (.ahead (.no (name.isWord (by decide)) ?_)))
  refine (takes_ident name.free).last (.ahead (.no ?_ .pure))
  simp [hends.1, hends.2]

theorem takes_keyword (keyword : Keyword) (hends : EndsSegment rest) :
    Takes (segment g inExpression) [.ident keyword.text position] rest (keyword.text, .absent)
      [.ident keyword.text] := by
  unfold segment
  refine .ahead ?_
  cases keyword with
  | super | self | crate => exact .yes rfl (takes_anyIdent.last .pure)
  | selfType =>
    refine .no rfl (.ahead (.yes rfl (takes_anyIdent.last (.ahead (.no ?_ .pure)))))
    simp [hends.1, hends.2]

theorem takes_generic (name : Name) {inside : List Located} {arguments : Arguments}
    {printed : List Token} (hopens : isOp "<" (inside ++ rest) = true)
    (hplain : isOp "<=" (inside ++ rest) = false ∧ isOp "<<=" (inside ++ rest) = false)
    (hangled : Takes (angled g) inside rest arguments printed) :
    Takes (segment g false) (.ident name.text position :: inside) rest (name.text, arguments)
      (.ident name.text :: printed) := by
  unfold segment
  refine .ahead (.no (name.isOneOf (by decide)) (.ahead (.no (name.isWord (by decide)) ?_)))
  refine (takes_ident name.free).cons (.ahead (.yes ?_ (hangled.last .pure)))
  simp [hopens, hplain]

/-! Arguments -/

section

variable {α : Type} {item : Reader α} {closing : List Located}
  {items : List (α × List Token × Bool)}

theorem takes_listed (hlisted : Listed (isOp ">" · = false) item closing front items)
    (hclosing : isOp ">" closing = true) : Takes (listed item) front closing items [] := by
  suffices hrepeated : Takes (repeating [] _) front closing (items.reverse ++ []) [] from
    hrepeated.last (by simpa using Takes.pure)
  refine Repeats.repeating ?_
  generalize ([] : List (α × List Token × Bool)) = before
  induction hlisted generalizing before with
  | nil => exact .done (.ahead (.yes hclosing .pure))
  | last hbegins hitem =>
    refine .done (.ahead (.no hbegins (hitem.printing.last (.ahead (.yes hclosing ?_)))))
    exact .pure
  | @cons front back a position items hbegins hitem hback ih =>
    rw [List.reverse_cons, List.append_assoc, List.append_cons front]
    refine .quiet (by simp) (.ahead (.no (by simpa using hbegins) ?_)) (ih _)
    refine .quiet (Takes.printing (by simpa using hitem)) (.ahead (.no rfl ?_))
    exact (takes_op rfl).printing.last .pure

end

section

variable {closing inside : List Located} {items : List (ArgumentForm × List Token × Bool)}
  {position other : Position}

/-- That lifetimes stand in front of all other arguments. -/
def Ordered (items : List (ArgumentForm × List Token × Bool)) : Prop :=
  ∃ lifetimes others, items = lifetimes ++ others ∧
    (∀ item ∈ lifetimes, item.1 = ArgumentForm.lifetime) ∧
    ∀ item ∈ others, item.1 ≠ ArgumentForm.lifetime

/-- What an argument is to the function that arranges them. -/
def marked (item : ArgumentForm × List Token × Bool) : Bool × List Token × Bool :=
  (item.1 == .lifetime, item.2)

theorem Ordered.filter (hordered : Ordered items) :
    (items.map marked).filter (·.1) ++ (items.map marked).filter (!·.1) = items.map marked := by
  obtain ⟨lifetimes, others, rfl, hlifetimes, hothers⟩ := hordered
  have hyes : ∀ item ∈ lifetimes.map marked, item.1 = true := by
    simp only [List.mem_map]
    rintro _ ⟨item, hitem, rfl⟩
    simp [marked, hlifetimes item hitem]
  have hno : ∀ item ∈ others.map marked, item.1 = false := by
    simp only [List.mem_map]
    rintro _ ⟨item, hitem, rfl⟩
    simp [marked, hothers item hitem]
  rw [List.map_append, List.filter_append, List.filter_append, List.filter_eq_self.mpr hyes,
    List.filter_eq_nil_iff.mpr fun item hitem => by simp [hno item hitem],
    List.filter_eq_nil_iff.mpr fun item hitem => by simp [hyes item hitem],
    List.filter_eq_self.mpr fun item hitem => by simp [hno item hitem]]
  simp

/-- Puts an argument behind those that are printed, with a comma if none stands there. -/
def put (state : List Token × Bool) (argument : Bool × List Token × Bool) : List Token × Bool :=
  (state.1 ++ (if state.2 || argument.1 then [] else Token.ofOperator [',']) ++ argument.2.1 ++
    (if argument.2.2 then Token.ofOperator [','] else []), argument.2.2)

theorem foldl_put {item : Reader ArgumentForm}
    (hlisted : Listed (isOp ">" · = false) item closing inside items) (printed : List Token) :
    ((items.map marked).foldl put (printed, true)).1 = printed ++ Located.tokens inside := by
  induction hlisted generalizing printed with
  | nil => simp [Located.tokens]
  | last hbegins hitem => simp [put, marked]
  | cons hbegins hitem hback ih =>
    rw [List.map_cons, List.foldl_cons, tokens_comma]
    simp [put, marked, ih, Token.ofOperator]

/-- Arguments whose lifetimes stand in front are printed in the order in which they were read. -/
theorem arrange_listed {item : Reader ArgumentForm}
    (hlisted : Listed (isOp ">" · = false) item closing inside items) (hordered : Ordered items) :
    arrange (items.map marked) = Located.tokens inside := by
  change (List.foldl put _ _).1 = _
  rw [hordered.filter, foldl_put hlisted, List.nil_append]

/-- What is answered for arguments between angle brackets. -/
def answered (items : List (ArgumentForm × List Token × Bool)) : Arguments :=
  .angled (items.filterMap fun (form, tokens, _) => if form == .type then some tokens else none)
    items.isEmpty

theorem takes_angled (hordered : Ordered items)
    (hlisted : Listed (isOp ">" · = false) (argument g) (.punct '>' false other :: rest) inside
      items) :
    Takes (angled g) (.punct '<' false position :: (inside ++ [.punct '>' false other])) rest
      (answered items) (.punct '<' false :: (Located.tokens inside ++ [.punct '>' false])) := by
  refine .skip (skips_op? rfl) (.cons (takes_op rfl) (.quiet (takes_listed hlisted rfl) ?_))
  rw [← arrange_listed hlisted hordered]
  exact .silent (.emit _) ((takes_op rfl).last .pure)

end

/-! Segments -/

/-- Segments with `::` in front of each, as they follow a first one, and what they print. -/
inductive Chained (g : Grammar) (inExpression : Bool) (rest : List Located) :
    List Located → List Token → Prop where
  | nil : Chained g inExpression rest [] []
  | cons {inside more : List Located} {position other : Position} {name : String}
    {arguments : Arguments} {printed others : List Token}
    (hparenthesis : isGroup .parenthesis (inside ++ (more ++ rest)) = false)
    (hsegment : Takes (segment g inExpression) inside (more ++ rest) (name, arguments) printed)
    (hmore : Chained g inExpression rest more others) :
    Chained g inExpression rest
      ([.punct ':' true position, .punct ':' false other] ++ inside ++ more)
      (separator ++ printed ++ others)

theorem takes_separator {position other : Position} :
    Takes (op "::") [.punct ':' true position, .punct ':' false other] rest () separator :=
  takes_op_pair rfl

variable {printed others : List Token}

theorem takes_rest (hchained : Chained g inExpression rest front printed)
    (hcolons : isOp "::" rest = false) (form : PathForm) :
    ∃ form', Takes (Path.rest g inExpression form) front rest form' [] ∧
      form'.tokens = form.tokens ++ printed := by
  suffices hrepeats : ∃ form', Repeats _ form front rest form' [] ∧
      form'.tokens = form.tokens ++ printed from
    hrepeats.imp fun form' hform => ⟨hform.1.repeating, hform.2⟩
  induction hchained generalizing form with
  | nil =>
    refine ⟨form, .done (.ahead (.no ?_ .pure)), by simp⟩
    simp [hcolons]
  | @cons inside more position other name arguments printed others hparenthesis hsegment hmore ih =>
    obtain ⟨form', hrepeats, htokens⟩ := ih (append form name arguments printed)
    refine ⟨form', .quiet (by simp) (.ahead (.yes ?_ ?_)) hrepeats, ?_⟩
    · change (true && !isGroup .parenthesis (inside ++ (more ++ rest))) = true
      rw [hparenthesis]
      rfl
    · exact .quiet takes_separator.printing (hsegment.printing.last .pure)
    · rw [htokens]
      simp [append, PathForm.tokens, separator, Token.ofOperator]

/-- The first segment of a path with what stands in front of it. -/
theorem takes_unqualified {lead inside : List Located} {name : String} {arguments : Arguments}
    {rooted : Bool} {opening : List Token}
    (hlead : Takes (op? "::") lead (inside ++ front ++ rest) rooted opening)
    (hsegment : Takes (segment g inExpression) inside (front ++ rest) (name, arguments) printed)
    (hchained : Chained g inExpression rest front others) (hcolons : isOp "::" rest = false) :
    ∃ form, Takes (unqualified g inExpression) (lead ++ (inside ++ front)) rest form [] ∧
      form.tokens = opening ++ printed ++ others := by
  obtain ⟨form, hrest, htokens⟩ := takes_rest hchained hcolons
    (first false opening opening name arguments printed)
  exact ⟨form, .quiet hlead.printing (.quiet hsegment.printing hrest), htokens⟩

/-- A name alone is a path. -/
theorem takes_single (name : Name) (hends : EndsSegment rest) (hcolons : isOp "::" rest = false) :
    Takes (unqualified g inExpression) [.ident name.text position] rest
      (first false [] [] name.text .absent [.ident name.text]) [] := by
  refine .skip (skips_op? rfl).printing ((takes_plain name hends).printing.last ?_)
  exact Repeats.repeating (.done (.ahead (.no (by simp [hcolons]) .pure)))

theorem takes_name (name : Name) (hends : Ends rest) :
    ∃ form, Takes (unqualified g false) [.ident name.text position] rest form [] ∧
      form.isSingle = true ∧ form.tokens = [.ident name.text] :=
  ⟨_, takes_single name hends.segment hends.colons, rfl, rfl⟩

/-! Kinds of arguments -/

section

variable {name : String} {other : Position}

theorem takes_lifetime_argument (hplus : isOp "+" rest = false) :
    Takes (argument g) [.punct '\'' true position, .ident name other] rest .lifetime
      [.punct '\'' true, .ident name] := by
  refine .ahead (.yes ?_ (takes_lifetime.last .pure))
  change (true && !isOp "+" rest) = true
  rw [hplus]
  rfl

theorem takes_number_argument :
    Takes (argument g) [.literal name position] rest .other [.literal name] := by
  refine .ahead (.no rfl (.yes rfl ?_))
  have hliteral : Takes (constant g) [.literal name position] rest () [.literal name] :=
    .ahead (.yes rfl fun _ _ _ => rfl)
  exact hliteral.last .pure

variable {printed : List Token}

theorem takes_type_argument {answer : TypeForm} (hlifetime : isLifetime (front ++ rest) = false)
    (hliteral : isLiteral (front ++ rest) = false)
    (hbrace : isGroup .brace (front ++ rest) = false)
    (hequal : isOp "=" rest = false) (hcolon : isOp ":" rest = false)
    (htype : Takes (g.type true) front rest answer printed) :
    Takes (argument g) front rest .type printed := by
  refine .ahead (.no ?_ (.no ?_ (htype.last ?_)))
  · rw [hlifetime, Bool.false_and]
  · rw [hliteral, hbrace, Bool.false_or]
  · cases answer with
    | path form =>
      cases hsingle : form.isSingle with
      | true => exact .yes hsingle (.skip (skips_op? hequal) (.skip (skips_op? hcolon) .pure))
      | false => exact .no hsingle .pure
    | unit | bound | copied | other => exact .pure

/-- The type that a trait associates with a name. -/
theorem takes_associated_argument {free : Name} {form : PathForm} {answer : TypeForm}
    (hsingle : form.isSingle = true)
    (hname : Takes (g.type true) [.ident free.text position]
      (.punct '=' false other :: front ++ rest) (.path form) [.ident free.text])
    (hliteral : isLiteral (front ++ rest) = false)
    (hbrace : isGroup .brace (front ++ rest) = false)
    (htype : Takes (g.type true) front rest answer printed) :
    Takes (argument g) (.ident free.text position :: .punct '=' false other :: front) rest .other
      (.ident free.text :: .punct '=' false :: printed) := by
  refine .ahead (.no rfl (.no ?_ ?_))
  · exact Bool.or_eq_false_iff.mpr ⟨free.isLiteral, rfl⟩
  have hequal : Takes (op? "=") [.punct '=' false other] (front ++ rest) true [.punct '=' false] :=
    takes_op? (takes_op rfl) rfl
  refine .cons hname (.yes hsingle (.cons hequal ?_))
  exact .ahead (.no (by rw [hliteral, hbrace, Bool.false_or]) (htype.unit.last .pure))

end

end Path

end ServiceGen.Grammar
