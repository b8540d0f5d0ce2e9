import ServiceGen.Grammar.Attribute

/-!
Paths. In a type the arguments of a segment follow its name at once, while in an expression they
need `::` in front, since `<` compares there. Arguments that are lifetimes are printed before the
others, whatever their order was.
-/
namespace ServiceGen.Grammar.Path

open Reader Ahead

/-- Printed arguments with lifetimes in front. Each comes with its kind and whether a comma
followed; a comma is added where the new order needs one. -/
def arrange (arguments : List (Bool × List Token × Bool)) : List Token :=
  let comma := Token.ofOperator [',']
  let ordered := arguments.filter (·.1) ++ arguments.filter (!·.1)
  (ordered.foldl
    (fun (printed, closed) (isLifetime, tokens, followed) =>
      (printed ++ (if closed || isLifetime then [] else comma) ++ tokens ++
        (if followed then comma else []), followed))
    ([], true)).1

/-- Items between commas up to a closing angle bracket, printed but not emitted. Each comes with
what was answered for it and with whether a comma followed. -/
def listed {α : Type} (item : Reader α) : Reader (List (α × List Token × Bool)) := do
  let items ← repeating [] fun (items : List (α × List Token × Bool)) => do
    if isOp ">" (← ahead) then return .done items
    let (answer, tokens) ← printing item
    if isOp ">" (← ahead) then return .done ((answer, tokens, false) :: items)
    let _ ← printing (op ",")
    return .again ((answer, tokens, true) :: items)
  pure items.reverse

/-- A constant as an argument: a literal, a name or a block. -/
def constant (g : Grammar) : Reader Unit := do
  let tokens ← ahead
  if isLiteral tokens then literal
  else if isIdent tokens then
    let _ ← ident
  else if isGroup .brace tokens then discard (Attribute.block g)
  else fail

/-- Whether one bound, or none, may follow: the list of bounds ends before a comma or a closing
angle bracket. -/
def endsArgument (tokens : List Located) : Bool := isOp "," tokens || isOp ">" tokens

/-- What an argument turned out to be. -/
inductive ArgumentForm where
  | lifetime
  | type
  | other
  deriving DecidableEq

/-- An argument between angle brackets. The name of a type before an equals sign or a colon speaks
of an associated type instead. -/
def argument (g : Grammar) : Reader ArgumentForm := do
  let tokens ← ahead
  if isLifetime tokens && !isOp "+" (skip tokens) then
    lifetime
    return .lifetime
  if isLiteral tokens || isGroup .brace tokens then
    constant g
    return .other
  match ← g.type true with
  | .path form =>
    if form.isSingle then
      if ← op? "=" then
        let tokens ← ahead
        if isLiteral tokens || isGroup .brace tokens then constant g else g.anyType
        return .other
      if ← op? ":" then
        chained endsArgument "+" g.bound
        return .other
    return .type
  | _ => return .type

/-- Arguments between angle brackets, perhaps with `::` in front. -/
def angled (g : Grammar) : Reader Arguments := do
  let _ ← op? "::"
  op "<"
  let arguments ← listed (argument g)
  emit (arrange (arguments.map fun (form, tokens, followed) =>
    (form == .lifetime, tokens, followed)))
  op ">"
  let types := arguments.filterMap fun (form, tokens, _) =>
    if form == .type then some tokens else none
  pure (.angled types arguments.isEmpty)

def segment (g : Grammar) (inExpression : Bool) :
    Reader (String × Arguments) := do
  if isOneOf ["super", "self", "crate", "try"] (← ahead) then
    let name ← anyIdent
    return (name, .absent)
  let name ← if isWord "Self" (← ahead) then anyIdent else ident
  let tokens ← ahead
  let atOnce := !inExpression && isOp "<" tokens && !isOp "<=" tokens && !isOp "<<=" tokens
  if atOnce || (isOp "::" tokens && isOp "<" (skip (skip tokens))) then
    let arguments ← angled g
    return (name, arguments)
  return (name, .absent)

/-- Appends a segment that was read with its printed form. -/
def append (form : PathForm) (name : String) (arguments : Arguments) (last : List Token) :
    PathForm :=
  let separator := Token.ofOperator [':', ':']
  { form with
    before := form.tokens ++ separator
    lead := form.lead ++ form.last ++ separator
    name, arguments, last
    bare := form.bare && match arguments with
      | .absent => true
      | _ => false }

/-- The first segment of a path behind what is in front of it. -/
def first (qualified : Bool) (before lead : List Token) (name : String) (arguments : Arguments)
    (last : List Token) : PathForm :=
  { qualified, before, lead, name, arguments, last
    bare := match arguments with
      | .absent => true
      | _ => false }

/-- The segments that follow in a path. A path stops before `::` with parentheses behind it. -/
def rest (g : Grammar) (inExpression : Bool) (form : PathForm) :
    Reader PathForm :=
  repeating form fun form => do
    let tokens ← ahead
    if isOp "::" tokens && !isGroup .parenthesis (skip (skip tokens)) then
      let _ ← printing (op "::")
      let ((name, arguments), last) ← printing (segment g inExpression)
      return .again (append form name arguments last)
    else return .done form

/-- A path without a qualifying type. Nothing is printed: the answer holds what to print. -/
def unqualified (g : Grammar) (inExpression : Bool) : Reader PathForm := do
  let (_, lead) ← printing (op? "::")
  let ((name, arguments), last) ← printing (segment g inExpression)
  rest g inExpression (first false lead lead name arguments last)

/-- The segments behind a qualifying type: at least one, and as many as `::` announces. -/
def segments (g : Grammar) (inExpression : Bool) (form : PathForm) :
    Reader PathForm :=
  repeating form fun form => do
    if isOp "::" (← ahead) then
      let _ ← printing (op "::")
      let ((name, arguments), last) ← printing (segment g inExpression)
      return .again (append form name arguments last)
    else return .done form

/-- A path, perhaps with a qualifying type: `<T>::Name` or `<T as Trait>::Name`. Nothing is
printed: the answer holds what to print. -/
def path (g : Grammar) (inExpression : Bool) : Reader PathForm := do
  if isOp "<" (← ahead) then
    let (_, opening) ← printing do
      op "<"
      g.anyType
    let (within, keyword) ← printing (word? "as")
    let trait ← if within then some <$> unqualified g false else pure none
    let (_, closing) ← printing (op ">")
    let (_, separator) ← printing (op "::")
    let ((name, arguments), last) ← printing (segment g inExpression)
    let inner := (trait.map PathForm.tokens).getD []
    let form := first true (opening ++ keyword ++ inner ++ closing ++ separator)
      (inner ++ separator) name arguments last
    segments g inExpression { form with bare := form.bare && trait.all PathForm.bare }
  else unqualified g inExpression

/-- Whether parentheses follow, perhaps behind `::`. -/
def beginsParentheses (tokens : List Located) : Bool :=
  isGroup .parenthesis tokens ||
    (isOp "::" tokens && isGroup .parenthesis (skip (skip tokens)))

/-- Types in parentheses and the type of the result, as the arguments of a function trait. -/
def parenthesized (g : Grammar) : Reader Unit := do
  let _ ← printing (op? "::")
  group .parenthesis (commaSeparated g.anyType)
  if ← op? "->" then
    let _ ← g.type false

end ServiceGen.Grammar.Path
