import ServiceGen.Grammar.Bound

/-!
Types. Several bounds with plus signs between them form an object type, which is refused where the
plus sign could belong to something else.
-/
namespace ServiceGen.Grammar.Type

open Reader Ahead

/-- The binding interface of a function: `extern`, perhaps with a name. -/
def binding? : Reader Unit := do
  if ← word? "extern" then
    if isText (← ahead) then literal

def result (g : Grammar) (plus : Bool) : Reader (Option TypeForm) := do
  if ← op? "->" then
    let form ← g.type plus
    pure (some form)
  else pure none

/-- The dots that stand for further arguments, perhaps with a name, and a comma behind them. -/
def dots : Reader Unit := do
  let tokens ← ahead
  if isIdent tokens || isUnderscore tokens then
    let _ ← anyIdent
    op ":"
  op "..."
  let _ ← op? ","

/-- Whether the dots for further arguments come next. -/
def beginsDots (tokens : List Located) : Bool :=
  let second := skip tokens
  isOp "..." tokens ||
    ((isIdent tokens || isUnderscore tokens) && isOp ":" second && isOp "..." (skip second))

/-- Whether the receiver comes next with the word that lets it change. -/
def beginsChanging (tokens : List Located) : Bool :=
  isWord "mut" tokens && isWord "self" (skip tokens)

/-- An argument of a function type, perhaps with a name. Only the first may be the receiver, and one
that may change is printed as it stands in the text. -/
def argument (g : Grammar) (isFirst : Bool) : Reader Unit :=
  discard <| copyingIf id do
    let changing := isFirst && beginsChanging (← ahead)
    if changing then word "mut"
    let tokens ← ahead
    let second := skip tokens
    let isReceiver := isFirst && isWord "self" tokens
    let isName := isIdent tokens || isUnderscore tokens || isReceiver
    let named := isName && isOp ":" second && !isOp "::" second
    if named then
      let _ ← anyIdent
      op ":"
    if isFirst && !(named && isReceiver) && beginsChanging (← ahead) then
      word "mut"
      word "self"
      return true
    if changing && !named then word "self" else g.anyType
    return changing

/-- The arguments of a function type. Dots end them, and nothing may follow. -/
def arguments (g : Grammar) : Reader Unit := do
  let _ ← repeating true fun isFirst => do
    if ← atEnd then return .done isFirst
    let _ ← Attribute.outer g
    if beginsDots (← ahead) then
      dots
      return .done false
    argument g isFirst
    if ← atEnd then return .done false
    op ","
    return .again false

/-- The type of functions, behind the lifetimes that it may bind. -/
def function (g : Grammar) : Reader Unit := do
  let _ ← word? "unsafe"
  binding?
  word "fn"
  group .parenthesis (arguments g)
  let _ ← result g false

/-- What parentheses hold in front of the plus sign that may follow. -/
inductive Wrapped where
  | unit
  | optional
  /-- A type that may be the first of several bounds. -/
  | bound
  | other

/-- The inside of parentheses: nothing, a type, or types with commas. -/
def wrapped (g : Grammar) : Reader Wrapped := do
  if ← atEnd then return .unit
  let tokens ← ahead
  if isLifetime tokens then
    let start ← here
    if ← Bound.several g .object true then return .other else failAt start
  if isOp "?" tokens then
    let _ ← Bound.trait g .object
    return .optional
  let form ← g.type true
  if isOp "," (← ahead) then
    op ","
    commaSeparated g.anyType
    return .other
  match form with
  | .path form => return if form.qualified then .other else .bound
  | .bound => return .bound
  | _ => return .other

/-- A bound in two pairs of parentheses with one of them taken off. -/
def singly : List Token → List Token
  | [.group .parenthesis [.group .parenthesis inner]] => [.group .parenthesis inner]
  | tokens => tokens

/-- A type in parentheses, a tuple, or an object type whose first bound is in parentheses. -/
def parentheses (g : Grammar) (plus : Bool) : Reader TypeForm := do
  let (inside, tokens) ← printing (group .parenthesis (wrapped g))
  let added := plus && isOp "+" (← ahead)
  match inside with
  | .unit =>
    emit tokens
    return .unit
  | .optional =>
    emit tokens
    return if ← Bound.others g then .other else .bound
  | .bound =>
    emit (if added then singly tokens else tokens)
    if added then
      let _ ← Bound.others g
    return .other
  | .other =>
    emit tokens
    return .other

/-- The bounds behind the first trait of an object type without a keyword. Answers whether there
were any plus signs. -/
def moreBounds (g : Grammar) : Reader Bool :=
  repeating false fun found => do
    if ← op? "+" then
      if Bound.begins .object (← ahead) then
        let _ ← Bound.one g .object
        return .again true
      else return .done true
    else return .done found

/-- A type that begins with a path: a named type, a call of a macro or an object type, behind the
parameters that it may bind. A call of a macro binds none, and they are not printed. -/
def named (g : Grammar) (plus : Bool) (binder : List Token) : Reader TypeForm := do
  let form ← Path.path g false
  let tokens ← ahead
  if !form.qualified && form.bare && isOp "!" tokens && !isOp "!=" tokens then
    emit form.tokens
    op "!"
    let _ ← rawGroup
    return .other
  emit (binder ++ form.tokens)
  if !form.qualified && (!binder.isEmpty || (plus && isOp "+" tokens)) then
    let found ← if plus then moreBounds g else pure false
    return if found then .other else .bound
  return .path form

/-- What a compiler provides: a name behind a word and a mark, with arguments in parentheses. -/
def provided : Reader Unit := do
  word "builtin"
  op "#"
  let _ ← ident
  group .parenthesis remaining

/-- Whether something that a compiler provides comes next. -/
def beginsProvided (tokens : List Located) : Bool :=
  isWord "builtin" tokens && isOp "#" (skip tokens)

/-- The element of an array or a slice, and the length of an array. -/
def sequence (g : Grammar) : Reader Unit :=
  group .bracket do
    g.anyType
    if ← op? ";" then g.expression

/-- A pointer, which says whether what it points to may change. -/
def pointer (g : Grammar) : Reader Unit := do
  op "*"
  if isOneOf ["const", "mut"] (← ahead) then
    let _ ← anyIdent
    let _ ← g.type false
  else fail

def reference (g : Grammar) : Reader Unit := do
  op "&"
  lifetime?
  let _ ← word? "mut"
  let _ ← g.type false

/-- An object type behind its keyword. It needs a trait among its bounds. Answers whether an
asterisk follows the keyword. -/
def object (g : Grammar) (plus : Bool) : Reader Bool := do
  let start ← here
  word "dyn"
  let starred ← op? "*"
  if ← Bound.several g .object plus then return starred else failAt start

/-- An object type that begins with a lifetime. It needs a trait among its bounds. -/
def lifetimeFirst (g : Grammar) : Reader Unit := do
  let start ← here
  if !(← Bound.several g .object true) then failAt start

/-- An opaque type, known by its bounds. It needs a trait among them. -/
def known (g : Grammar) (plus : Bool) : Reader Unit := do
  let start ← here
  word "impl"
  if !(← Bound.several g .opaqueType plus) then failAt start

/-- Whether a type behind bound lifetimes may come next. -/
def mayBeBound (tokens : List Located) : Bool :=
  isIdent tokens ||
    isOneOf ["fn", "unsafe", "extern", "super", "self", "Self", "crate"] tokens

def beginsPath (tokens : List Located) : Bool :=
  Path.beginsPlain tokens || isOp "::" tokens || isOp "<" tokens

/-- The kinds of types, told apart by what comes next. -/
def form (g : Grammar) (plus : Bool) : Reader TypeForm := do
  let (bound, binder) ← printing (Bound.binder? g)
  let tokens ← ahead
  if bound && !mayBeBound tokens then fail
  if isGroup .parenthesis tokens then parentheses g plus
  else if isOneOf ["fn", "unsafe", "extern"] tokens then
    emit binder
    function g
    return .other
  else if beginsProvided tokens then
    provided
    return .copied
  else if beginsPath tokens then named g plus binder
  else if isWord "dyn" tokens then
    return if ← object g plus then .copied else .other
  else if isGroup .bracket tokens then
    sequence g
    return .other
  else if isOp "*" tokens then
    pointer g
    return .other
  else if isOp "&" tokens then
    reference g
    return .other
  else if isOp "!" tokens then
    op "!"
    return .other
  else if isWord "impl" tokens then
    known g plus
    return .other
  else if isUnderscore tokens then
    let _ ← anyIdent
    return .other
  else if isLifetime tokens then
    lifetimeFirst g
    return .other
  else fail

def read (g : Grammar) (plus : Bool) : Reader TypeForm :=
  copyingIf TypeForm.isCopied (form g plus)

end ServiceGen.Grammar.Type
