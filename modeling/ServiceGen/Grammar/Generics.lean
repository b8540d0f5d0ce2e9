import ServiceGen.Grammar.Type

/-!
Generic parameters and the conditions on them, and the visibility of a declaration.
-/
namespace ServiceGen.Grammar.Generics

open Reader Ahead

/-- A parameter, which may be an underscore. Answers whether it is a lifetime. -/
def parameter (g : Grammar) : Reader Bool := do
  let _ ← Attribute.outer g
  if isUnderscore (← ahead) then
    let _ ← anyIdent
    return false
  Parameter.read g

/-- Generic parameters, if there are any, and whether there are. Lifetimes are printed in front,
and empty angle brackets are not printed at all. -/
def parameters (g : Grammar) : Reader Bool := do
  if !isOp "<" (← ahead) then return false
  let (_, opening) ← printing (op "<")
  let parameters ← Path.listed (parameter g)
  let (_, closing) ← printing (op ">")
  if parameters.isEmpty then return false
  emit (opening ++ Path.arrange parameters ++ closing)
  return true

def endsConditions (tokens : List Located) : Bool :=
  tokens.isEmpty || isGroup .brace tokens || isOp "," tokens || isOp ";" tokens ||
    (isOp ":" tokens && !isOp "::" tokens) || isOp "=" tokens

/-- A condition: a lifetime or a type with its bounds. -/
def condition (g : Grammar) : Reader Unit := do
  let tokens ← ahead
  if isLifetime tokens && isOp ":" (skip tokens) then
    lifetime
    op ":"
    chained (fun tokens => endsConditions tokens || isOp ":" tokens) "+" lifetime
  else
    let _ ← Bound.binder? g
    g.anyType
    op ":"
    chained endsConditions "+" do
      let _ ← Bound.one g .parameter

/-- The conditions behind `where`, and whether that word is there. A word without conditions is not
printed. -/
def conditions? (g : Grammar) : Reader Bool := do
  if !isWord "where" (← ahead) then return false
  let (_, tokens) ← printing do
    word "where"
    if opensGenerics (← ahead) then fail
    chained endsConditions "," (condition g)
  if 1 < tokens.length then emit tokens
  return true

/-- The visibility of a declaration, and whether one is given. What stands in parentheses belongs
to it only if it names a place. -/
def visibility : Reader Bool := do
  if !(← word? "pub") then return false
  if let .group .parenthesis inner _ _ :: _ := ← ahead then
    if isOneOf ["crate", "self", "super"] inner && (skip inner).isEmpty then
      let _ ← rawGroup
    else if isWord "in" inner then
      group .parenthesis do
        word "in"
        let _ ← Path.plain
  return true

end ServiceGen.Grammar.Generics
