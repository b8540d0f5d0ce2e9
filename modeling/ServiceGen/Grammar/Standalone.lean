import ServiceGen.Grammar.Expression

/-!
Expressions that stand by themselves, as a statement or as the value of a case. A block ends them at
once, so that what follows it is not taken for an operator, and attributes in front of them belong
to their first operand. Where that would read differently, parentheses are printed.
-/
namespace ServiceGen.Grammar.Standalone

open Reader Ahead Operation Expression

/-- Whether an expression that is a statement by itself comes next. -/
def beginsStatement (tokens : List Located) : Bool :=
  let second := skip tokens
  isOneOf ["if", "while", "loop", "match", "unsafe"] tokens ||
    (isWord "for" tokens && !bindsLifetimes tokens) ||
    (isWord "try" tokens && isGroup .brace second) ||
    (isWord "const" tokens && isGroup .brace second) || isGroup .brace tokens ||
    isLifetime tokens

/-- What a statement or the value of a case begins with: an operand without the attributes in front
of it. -/
structure Lead where
  form : ExprForm
  tokens : List Token
  /-- Whether nothing may follow, since a block ends a statement unless a member or a question mark
  stands behind it. -/
  ended : Bool

/-- What a statement or the value of a case begins with. -/
def lead (g : Grammar) (isStatement : Bool) : Reader Lead := do
  let tokens ← ahead
  if beginsSigned tokens then
    let (form, tokens) ← printing (g.operand true)
    return ⟨form, tokens, false⟩
  let (form, head) ← printing (atom g true)
  let next ← ahead
  if beginsStatement tokens && !isTrailer next then return ⟨form, head, true⟩
  let called := isGroup .parenthesis next || isGroup .bracket next
  let head := match form with
    | .bracedCall => if isStatement && called then [.group .parenthesis head] else head
    | _ => head
  let (form, behind) ← printing (trailers g form)
  return ⟨form, head ++ behind, false⟩

/-- An expression as a statement, behind the given attributes. They belong to its first operand,
or to the whole of it if that is a range. A call of a macro with braces would end the statement, so
that it is put into parentheses in front of an operator. -/
def statement (g : Grammar) (attributes : List Token) : Reader ExprForm := do
  let lead ← lead g true
  if lead.ended then
    emit (attributes ++ lead.tokens)
    return lead.form
  let attributes := if lead.form.isCopied then [] else attributes
  let casts ← readCasts g lead.form
  let form := if casts.tokens.isEmpty then lead.form else .other
  let (last, rest) ← printing (g.operators true form [] .lowest)
  let operated := !(casts.tokens.isEmpty && rest.isEmpty)
  let operand := match lead.form with
    | .bracedCall =>
      if operated && !casts.bracketed then [.group .parenthesis (attributes ++ lead.tokens)]
      else attributes ++ lead.tokens
    | _ => attributes ++ lead.tokens
  match last, attributes.isEmpty with
  | .range, false =>
    emit (attributes ++ [.group .parenthesis (casts.behind lead.tokens ++ rest)])
  | _, _ => emit (casts.behind operand ++ rest)
  return last

/-- The value of a case. Attributes in front of it belong to its first operand, even if that is a
range. -/
def caseValue (g : Grammar) : Reader ExprForm := do
  let (_, attributes) ← printing (Attribute.outer g)
  let lead ← lead g false
  if lead.ended then
    emit (attributes ++ lead.tokens)
    return lead.form
  let operand := match lead.form, attributes.isEmpty with
    | .copied, _ => lead.tokens
    | .range, false => attributes ++ [.group .parenthesis lead.tokens]
    | _, _ => attributes ++ lead.tokens
  g.operators true lead.form operand .lowest

end ServiceGen.Grammar.Standalone
