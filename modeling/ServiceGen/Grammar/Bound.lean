import ServiceGen.Grammar.Parameter

/-!
Bounds: what a type is asked to satisfy. A bound is a lifetime, a trait, perhaps in parentheses,
or a list of what an opaque type captures.
-/
namespace ServiceGen.Grammar.Bound

open Reader Ahead

inductive Form where
  | lifetime
  | trait
  | capture
  deriving DecidableEq

/-- Where a bound stands: whether it may list captures, and whether it may speak of constants. -/
structure Place where
  captures : Bool
  constants : Bool

/-- A bound among those of an object type. -/
def Place.object : Place := ⟨false, false⟩

/-- A bound of a parameter or of an associated type. -/
def Place.parameter : Place := ⟨false, true⟩

def Place.opaqueType : Place := ⟨true, true⟩

/-- Parameters that are bound in front of a type, mostly lifetimes: `for<'a, 'b>`. -/
def binder (g : Grammar) : Reader Unit := do
  word "for"
  op "<"
  separated (isOp ">") "," (discard (Parameter.read g))
  op ">"

/-- A binder if one comes next, and whether it did. -/
def binder? (g : Grammar) : Reader Bool := do
  if isWord "for" (← ahead) then
    binder g
    pure true
  else pure false

/-- A capture of an opaque type. Answers whether it is a lifetime. -/
def capture : Reader Bool := do
  let tokens ← ahead
  if isLifetime tokens then
    lifetime
    return true
  if isIdent tokens || isWord "Self" tokens then
    let _ ← anyIdent
    return false
  fail

/-- The captures of an opaque type: `use<'a, T>`. Lifetimes are printed in front. -/
def captures : Reader Unit := do
  word "use"
  op "<"
  emit (Path.arrange (← Path.listed capture))
  op ">"

/-- The word that makes a bound speak of constants, perhaps in brackets, and whether it came. -/
def constant? (place : Place) : Reader Bool := do
  let start ← here
  let tokens ← ahead
  let bracketed := isGroup .bracket tokens
  if bracketed then group .bracket (word "const")
  let plain ← if bracketed then pure false else word? "const"
  if (bracketed || plain) && !place.constants then failAt start
  return bracketed || plain

/-- A trait with what may stand in front of it. Answers whether it speaks of constants. -/
def trait (g : Grammar) (place : Place) : Reader Bool := do
  let bound ← binder? g
  let constant ← constant? place
  let mark ← here
  let optional ← op? "?"
  let late ← if optional && !bound then binder? g else pure false
  let form ← Path.unqualified g false
  if form.arguments.isEmpty && Path.beginsParentheses (← ahead) then
    emit (form.before ++ [.ident form.name])
    Path.parenthesized g
  else emit form.tokens
  if optional && (bound || late) then failAt mark
  return constant

/-- One bound. One that speaks of constants is printed as it stands in the text. -/
def one (g : Grammar) (place : Place) : Reader Form := do
  let tokens ← ahead
  if isLifetime tokens then
    lifetime
    return .lifetime
  if isWord "use" tokens then
    let start ← here
    captures
    if place.captures then return .capture else failAt start
  let _ ← copyingIf id do
    if isGroup .parenthesis tokens then group .parenthesis (trait g place) else trait g place
  return .trait

def begins (place : Place) (tokens : List Located) : Bool :=
  isAnyIdent tokens || isOp "::" tokens || isOp "?" tokens || isLifetime tokens ||
    isGroup .parenthesis tokens || (place.constants && isGroup .bracket tokens)

/-- One bound, or with `plus` several of them; a plus sign may also stand at the end. Answers
whether there is a trait among them. -/
def several (g : Grammar) (place : Place) (plus : Bool) : Reader Bool :=
  repeating false fun found => do
    let found := (← one g place) == .trait || found
    if plus && isOp "+" (← ahead) then
      op "+"
      if begins place (← ahead) then return .again found else return .done found
    else return .done found

/-- The bounds behind a first one, as long as plus signs follow, and whether there are any. -/
def others (g : Grammar) : Reader Bool :=
  repeating false fun found => do
    if ← op? "+" then
      let _ ← one g .object
      return .again true
    else return .done found

end ServiceGen.Grammar.Bound
