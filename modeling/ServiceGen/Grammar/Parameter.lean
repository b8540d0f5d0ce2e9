import ServiceGen.Grammar.Path

/-!
Generic parameters one at a time: lifetimes, types and constants, each with what it is asked to
satisfy and what is taken where none is given.
-/
namespace ServiceGen.Grammar.Parameter

open Reader Ahead

def ends (tokens : List Located) : Bool :=
  tokens.isEmpty || isOp "," tokens || isOp ">" tokens

def ofLifetime : Reader Unit := do
  lifetime
  let _ ← announced ":" (chained ends "+" lifetime)

/-- A type parameter with its bounds and the type taken where none is given. -/
def ofType (g : Grammar) : Reader Unit := do
  let _ ← ident
  let _ ← announced ":" (chained (fun tokens => ends tokens || isOp "=" tokens) "+" g.bound)
  if ← op? "=" then g.anyType

/-- A constant parameter with its type and the constant taken where none is given. -/
def ofConstant (g : Grammar) : Reader Unit := do
  word "const"
  let _ ← ident
  op ":"
  g.anyType
  if ← op? "=" then Path.constant g

/-- A parameter. Answers whether it is a lifetime. -/
def read (g : Grammar) : Reader Bool := do
  let _ ← Attribute.outer g
  let tokens ← ahead
  if isLifetime tokens then
    ofLifetime
    return true
  if isIdent tokens then ofType g
  else if isWord "const" tokens then ofConstant g
  else fail
  return false

end ServiceGen.Grammar.Parameter
