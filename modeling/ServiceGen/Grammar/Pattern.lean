import ServiceGen.Grammar.Generics

/-!
Patterns. The one thing that others ask of a pattern is whether it is a plain binding, and of which
name.
-/
namespace ServiceGen.Grammar.Pattern

open Reader Ahead

/-- The operator of a range. The old form of three dots is printed like the new one where it is
accepted. Answers whether the range includes its end. -/
def rangeOperator (old : Bool) : Reader Bool := do
  let tokens ← ahead
  if isOp "..=" tokens then
    op "..="
    return true
  if isOp "..." tokens then
    if old then
      let _ ← printing (op "...")
      emit (Token.ofOperator ['.', '.', '='])
      return true
    else fail
  op ".."
  return false

/-- Whether a range has no upper end, since something else comes next. -/
def endsRange (tokens : List Located) : Bool :=
  tokens.isEmpty || isOp "|" tokens || isOp "=" tokens ||
    (isOp ":" tokens && !isOp "::" tokens) || isOp "," tokens || isOp ";" tokens ||
    isWord "if" tokens

def constantBlock (g : Grammar) : Reader Unit := do
  word "const"
  let _ ← Attribute.block g

/-- An end of a range, or a literal by itself. -/
def rangeEnd? (g : Grammar) : Reader Bool := do
  let tokens ← ahead
  if endsRange tokens then return false
  if isLiteral tokens then literal
  else if Type.beginsPath tokens then
    let form ← Path.path g true
    emit form.tokens
  else if isWord "const" tokens then constantBlock g
  else fail
  return true

/-- What follows the operator of a range that has a lower end. A range that includes its end has
to have one. -/
def upperEnd (g : Grammar) : Reader PatternForm := do
  let place ← here
  let closed ← rangeOperator true
  let ended ← rangeEnd? g
  if closed && !ended then fail
  return .range place !ended

/-- Alternatives, of which the first may have a bar in front. -/
def alternatives (g : Grammar) (leading : Bool) : Reader PatternForm := do
  let barred ← if leading then op? "|" else pure false
  let form ← g.pattern
  let more ← repeating false fun found => do
    let tokens ← ahead
    if isOp "|" tokens && !isOp "||" tokens && !isOp "|=" tokens then
      op "|"
      let _ ← g.pattern
      return .again true
    else return .done found
  return if barred || more then .other else form

/-- Alternatives as an element of something, of which nothing needs to be known. -/
def element (g : Grammar) : Reader Unit := do
  let _ ← alternatives g true

/-- The name or number of a field. Answers whether it is a name. -/
def member : Reader Bool := do
  let tokens ← ahead
  if isIdent tokens then
    let _ ← ident
    return true
  match tokens with
  | .literal text _ :: _ =>
    match Token.Literal.plainInteger? text.toList with
    | some value =>
      if value ≤ Token.Literal.greatestIndex then
        advance 1
        emit [.literal (toString value)]
        return false
      else fail
    | none => fail
  | _ => fail

/-- A field of a structure, by itself or with a pattern. A boxed one is printed as it stands in the
text. -/
def field (g : Grammar) : Reader Unit :=
  discard <| copyingIf id do
    let boxed ← word? "box"
    let referring ← word? "ref"
    let changing ← word? "mut"
    if boxed || referring || changing then
      let _ ← ident
    else
      let isNamed ← member
      if isOp ":" (← ahead) || !isNamed then
        op ":"
        element g
    return boxed

/-- The fields of a structure, of which the last may be two dots for the others. -/
def fields (g : Grammar) : Reader Unit :=
  repeating () fun _ => do
    if ← atEnd then return .done ()
    let _ ← Attribute.outer g
    if ← op? ".." then return .done ()
    field g
    if ← atEnd then return .done ()
    op ","
    return .again ()

def pathFirst (g : Grammar) : Reader PatternForm := do
  let form ← Path.path g true
  emit form.tokens
  let tokens ← ahead
  if !form.qualified && isOp "!" tokens && !isOp "!=" tokens && form.bare then
    op "!"
    let _ ← rawGroup
    return .other
  if isGroup .brace tokens then group .brace (fields g)
  else if isGroup .parenthesis tokens then group .parenthesis (commaSeparated (element g))
  else if isOp ".." tokens then return ← upperEnd g
  return .other

def binding (g : Grammar) : Reader PatternForm := do
  let _ ← word? "ref"
  let _ ← word? "mut"
  let name ← if isWord "self" (← ahead) then anyIdent else ident
  if ← op? "@" then
    let _ ← g.pattern
  return .binding name

def literalOrRange (g : Grammar) : Reader PatternForm := do
  let _ ← rangeEnd? g
  if isOp ".." (← ahead) then upperEnd g else return .other

/-- A range without a lower end, or two dots for whatever else there is. -/
def dotsFirst (g : Grammar) : Reader PatternForm := do
  let place ← here
  let closed ← rangeOperator false
  let ended ← rangeEnd? g
  if closed && !ended then fail
  return if ended then .range place true else .other

/-- An element of a slice, which may not be an open range. -/
def sliceElement (g : Grammar) : Reader Unit := do
  match ← alternatives g true with
  | .range place true => failAt place
  | _ => return

def beginsPath (tokens : List Located) : Bool :=
  let second := skip tokens
  (isIdent tokens &&
      (isOp "::" second || isOp "!" second || isGroup .brace second ||
        isGroup .parenthesis second || isOp ".." second)) ||
    (isWord "self" tokens && isOp "::" second) || isOp "::" tokens || isOp "<" tokens ||
    isOneOf ["Self", "super", "crate"] tokens

/-- A pattern without alternatives. -/
def read (g : Grammar) : Reader PatternForm := do
  let tokens ← ahead
  if beginsPath tokens then pathFirst g
  else if isUnderscore tokens then
    let _ ← anyIdent
    return .other
  else if isWord "box" tokens then
    copying do
      word "box"
      let _ ← g.pattern
    return .copied
  else if isOp "-" tokens || isLiteral tokens || isWord "const" tokens then literalOrRange g
  else if isOneOf ["ref", "mut", "self"] tokens || isIdent tokens then binding g
  else if isOp "&" tokens then
    op "&"
    let _ ← word? "mut"
    let _ ← g.pattern
    return .other
  else if isGroup .parenthesis tokens then
    group .parenthesis (commaSeparated (element g))
    return .other
  else if isGroup .bracket tokens then
    group .bracket (commaSeparated (sliceElement g))
    return .other
  else if isOp ".." tokens && !isOp "..." tokens then dotsFirst g
  else fail

end ServiceGen.Grammar.Pattern
