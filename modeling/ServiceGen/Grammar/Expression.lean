import ServiceGen.Grammar.Operation

/-!
Expressions. An operand is an atom with the signs in front of it and the calls, fields, indices and
question marks behind it. Where a block has to follow, as behind `if`, a brace does not open the
fields of a structure.
-/
namespace ServiceGen.Grammar.Expression

open Reader Ahead Operation

def block (g : Grammar) : Reader Unit := discard (Attribute.block g)

def plainBlock (g : Grammar) : Reader Unit := group .brace g.statements

/-- A condition, which a block has to follow. -/
def condition (g : Grammar) : Reader Unit := do
  let _ ← g.expressionWith false

/-- A chain of conditions with their blocks, and perhaps a last block. -/
def conditional (g : Grammar) : Reader Unit :=
  repeating () fun _ => do
    word "if"
    condition g
    plainBlock g
    if !(← word? "else") then return .done ()
    let tokens ← ahead
    if isWord "if" tokens then return .again ()
    if isGroup .brace tokens then
      plainBlock g
      return .done ()
    else fail

def whileLoop (g : Grammar) : Reader Unit := do
  word "while"
  condition g
  block g

def forLoop (g : Grammar) : Reader Unit := do
  word "for"
  Pattern.element g
  word "in"
  condition g
  block g

def endlessLoop (g : Grammar) : Reader Unit := do
  word "loop"
  block g

/-- A loop or a block behind its label. -/
def labelled (g : Grammar) : Reader Unit := do
  lifetime
  op ":"
  let tokens ← ahead
  if isWord "while" tokens then whileLoop g
  else if isWord "for" tokens then forLoop g
  else if isWord "loop" tokens then endlessLoop g
  else if isGroup .brace tokens then block g
  else fail

/-- Takes a trailing question mark or a method, and so on, as long as there are any. -/
def isTrailer (tokens : List Located) : Bool :=
  (isOp "." tokens && !isOp ".." tokens) || isOp "?" tokens

/-- Prints the numbers of a tuple's fields that were read as one decimal, as in `pair.0.1`. Answers
whether a point at the end announces another member. -/
def numberedFields : Reader Bool := do
  match ← ahead with
  | .literal text _ :: _ =>
    let pieces := Text.pieces (· == '.') text.toList
    let pointed := pieces.getLast? == some []
    let numbers := if pointed then pieces.dropLast else pieces
    let values := numbers.map Token.Literal.plainInteger?
    if values.all fun value => value.any (· ≤ Token.Literal.greatestIndex) then
      advance 1
      let printed := values.filterMap fun value => value.map fun v => Token.literal (toString v)
      emit (printed.intersperse (.punct '.' false))
      if pointed then emit [.punct '.' false]
      return pointed
    else fail
  | _ => fail

/-- A member behind a point: a field, a call of a method, or the word that awaits. -/
def member (g : Grammar) : Reader Unit := do
  if ← word? "await" then return
  let isNamed ← Pattern.member
  if isNamed then
    let tokens ← ahead
    let arguments := isOp "::" tokens
    if arguments then
      let _ ← Path.angled g
    if arguments || isGroup .parenthesis (← ahead) then
      group .parenthesis (commaSeparated g.expression)

/-- What stands behind an atom: calls, members, indices and question marks. -/
def trailers (g : Grammar) (form : ExprForm) : Reader ExprForm :=
  repeating form fun form => do
    let tokens ← ahead
    let isRange := match form with
      | .range => true
      | _ => false
    if isGroup .parenthesis tokens then
      group .parenthesis (commaSeparated g.expression)
      return .again .other
    else if isOp "." tokens && !isOp ".." tokens && !isRange then
      op "."
      if isDecimal (← ahead) then
        if ← numberedFields then member g
      else member g
      return .again .other
    else if isGroup .bracket tokens then
      group .bracket g.expression
      return .again .other
    else if isOp "?" tokens && !isRange then
      op "?"
      return .again .other
    else return .done form

/-- Whether the word `for` binds lifetimes in front of a closure. -/
def bindsLifetimes (tokens : List Located) : Bool :=
  isWord "for" tokens && opensGenerics (skip tokens)

def beginsClosure (tokens : List Located) : Bool :=
  let second := skip tokens
  isOp "|" tokens || isWord "move" tokens || bindsLifetimes tokens ||
    (isWord "const" tokens && !isGroup .brace second) || isWord "static" tokens ||
    (isWord "async" tokens && (isOp "|" second || isWord "move" second))

/-- A pattern with attributes in front. A range is put into parentheses behind them, and a pattern
that is printed as it stands in the text loses them. -/
def attributed (attributes : List Token) (form : PatternForm) (pattern : List Token) :
    List Token :=
  match form with
  | .copied => pattern
  | .range .. =>
    if attributes.isEmpty then pattern else attributes ++ [.group .parenthesis pattern]
  | _ => attributes ++ pattern

/-- A parameter of a closure, whose type may be left out. -/
def closureParameter (g : Grammar) : Reader Unit := do
  let (_, attributes) ← printing (Attribute.outer g)
  let (form, pattern) ← printing g.pattern
  if isOp ":" (← ahead) then
    emit (attributes ++ pattern)
    op ":"
    g.anyType
  else emit (attributed attributes form pattern)

/-- A closure. With a result type its body is a block. -/
def closure (g : Grammar) (braces : Bool) : Reader Unit := do
  let _ ← Bound.binder? g
  let _ ← word? "const"
  let _ ← word? "static"
  let _ ← word? "async"
  let _ ← word? "move"
  op "|"
  separated (isOp "|") "," (closureParameter g)
  op "|"
  if ← op? "->" then
    g.anyType
    plainBlock g
  else
    let _ ← g.expressionWith braces

/-- A field of a structure with its value, which is left out where it has the field's name. -/
def fieldValue (g : Grammar) : Reader Unit := do
  let _ ← Attribute.outer g
  let isNamed ← Pattern.member
  if isOp ":" (← ahead) || !isNamed then
    op ":"
    g.expression

/-- The fields of a structure, perhaps with another structure that gives the rest of them. -/
def fieldValues (g : Grammar) : Reader Unit :=
  repeating () fun _ => do
    if ← atEnd then return .done ()
    if ← op? ".." then
      if !(← atEnd) then g.expression
      return .done ()
    fieldValue g
    if ← atEnd then return .done ()
    op ","
    return .again ()

def pathFirst (g : Grammar) (braces : Bool) : Reader ExprForm := do
  let form ← Path.path g true
  emit form.tokens
  let tokens ← ahead
  if !form.qualified && isOp "!" tokens && !isOp "!=" tokens && form.bare then
    op "!"
    match ← rawGroup with
    | .brace => return .bracedCall
    | _ => return .other
  if braces && isGroup .brace tokens then group .brace (fieldValues g)
  return .other

/-- The elements of an array, or an element with the number of times that it is repeated. -/
def elements (g : Grammar) : Reader Unit := do
  if ← atEnd then return
  g.expression
  if (← atEnd) || isOp "," (← ahead) then
    if ← op? "," then commaSeparated g.expression
  else
    op ";"
    g.expression

/-- Whether an expression may come next, where it may also be left out. -/
def mayBegin (tokens : List Located) : Bool :=
  (isAnyIdent tokens && !isWord "as" tokens) || isGroup .parenthesis tokens ||
    isGroup .bracket tokens || isGroup .brace tokens || isLiteral tokens ||
    (isOp "!" tokens && !isOp "!=" tokens) ||
    (isOp "-" tokens && !isOp "-=" tokens && !isOp "->" tokens) ||
    (isOp "*" tokens && !isOp "*=" tokens) || (isOp "|" tokens && !isOp "|=" tokens) ||
    (isOp "&" tokens && !isOp "&=" tokens) || isOp ".." tokens ||
    (isOp "<" tokens && !isOp "<=" tokens && !isOp "<<=" tokens) || isOp "::" tokens ||
    isLifetime tokens || isOp "#" tokens

def carried (g : Grammar) : Reader Unit := do
  if mayBegin (← ahead) then g.expression

/-- A jump out of a loop or a block, perhaps with a value. -/
def breaking (g : Grammar) (braces : Bool) : Reader Unit := do
  word "break"
  let tokens ← ahead
  if isLifetime tokens then
    if isOp ":" (skip tokens) then
      let start ← here
      g.expression
      failAt start
    lifetime
  let tokens ← ahead
  if mayBegin tokens && (braces || !isGroup .brace tokens) then g.expression

/-- A case of a choice: a pattern, perhaps with a condition, and its value. The comma behind it may
be left out if the value is a block. -/
def case (g : Grammar) : Reader Unit := do
  let _ ← Attribute.outer g
  Pattern.element g
  if ← word? "if" then g.expression
  op "=>"
  match ← g.caseValue with
  | .block =>
    let _ ← op? ","
  | _ =>
    if !(← atEnd) then op ","

def choice (g : Grammar) : Reader Unit := do
  word "match"
  condition g
  group .brace do
    let _ ← Attribute.inner g
    let _ ← untilEnd (case g)

/-- A pattern with the value that has to fit it. -/
def binding (g : Grammar) (braces : Bool) : Reader Unit := do
  word "let"
  Pattern.element g
  op "="
  let (form, tokens) ← printing (g.operand braces)
  let _ ← g.operators braces form tokens .comparison

/-- Runs a reader of an expression of a fixed kind. -/
def yielding (form : ExprForm) (reader : Reader Unit) : Reader ExprForm := do
  reader
  pure form

def worded (text : String) (body : Reader Unit) : Reader Unit := do
  word text
  body

/-- An expression that needs neither a sign in front of it nor anything behind it. -/
def atom (g : Grammar) (braces : Bool) : Reader ExprForm := do
  let tokens ← ahead
  let second := skip tokens
  if isLiteral tokens then yielding .other literal
  else if isWord "async" tokens &&
      (isGroup .brace second || (isWord "move" second && isGroup .brace (skip second))) then
    yielding .other <| worded "async" do
      let _ ← word? "move"
      plainBlock g
  else if isWord "try" tokens && isGroup .brace second then
    yielding .block (worded "try" (plainBlock g))
  else if beginsClosure tokens then yielding .other (closure g braces)
  else if Type.beginsProvided tokens then yielding .copied (copying Type.provided)
  else if Type.beginsPath tokens ||
      (isWord "try" tokens && (isOp "!" second || isOp "::" second)) then pathFirst g braces
  else if isGroup .parenthesis tokens then
    yielding .other (group .parenthesis (commaSeparated g.expression))
  else if isWord "break" tokens then yielding .other (breaking g braces)
  else if isWord "continue" tokens then yielding .other (worded "continue" lifetime?)
  else if isWord "return" tokens then yielding .other (worded "return" (carried g))
  else if isWord "become" tokens then 
    yielding .copied (copying (worded "become" g.expression))
  else if isGroup .bracket tokens then yielding .other (group .bracket (elements g))
  else if isWord "let" tokens then yielding .other (binding g braces)
  else if isWord "if" tokens then yielding .block (conditional g)
  else if isWord "while" tokens then yielding .block (whileLoop g)
  else if isWord "for" tokens then yielding .block (forLoop g)
  else if isWord "loop" tokens then yielding .block (endlessLoop g)
  else if isWord "match" tokens then yielding .block (choice g)
  else if isWord "yield" tokens then yielding .other (worded "yield" (carried g))
  else if isWord "unsafe" tokens then yielding .block (worded "unsafe" (block g))
  else if isWord "const" tokens then yielding .block (worded "const" (block g))
  else if isGroup .brace tokens then yielding .block (block g)
  else if isOp ".." tokens then yielding .range (upperRange g braces)
  else if isUnderscore tokens then
    let _ ← anyIdent
    return .other
  else if isLifetime tokens then yielding .block (labelled g)
  else fail

/-- The two words behind an ampersand that ask for a raw address. -/
def rawAddress (tokens : List Located) : Bool :=
  isWord "raw" tokens && isOneOf ["mut", "const"] (skip tokens)

def beginsSigned (tokens : List Located) : Bool :=
  isOp "&" tokens || isOp "*" tokens || isOp "!" tokens || isOp "-" tokens

def signed (g : Grammar) (braces : Bool) : Reader Unit := do
  if ← op? "&" then
    if rawAddress (← ahead) then
      word "raw"
      let _ ← anyIdent
    else
      let _ ← word? "mut"
  else if !((← op? "*") || (← op? "!")) then op "-"
  let _ ← g.operand braces

/-- An operand: an atom with the attributes and signs in front of it and what stands behind it.
Attributes may not stand in front of a range without a lower end, which fails at its operator. -/
def operand (g : Grammar) (braces : Bool) : Reader ExprForm :=
  copyingIf ExprForm.isCopied do
    let (_, attributes) ← printing (Attribute.outer g)
    emit attributes
    let tokens ← ahead
    if beginsSigned tokens then yielding .other (signed g braces)
    else
      let place ← here
      let form ← trailers g (← atom g braces)
      match form with
      | .range => if attributes.isEmpty then return form else failAt place
      | _ => return form

end ServiceGen.Grammar.Expression
