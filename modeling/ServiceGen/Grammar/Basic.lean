import ServiceGen.Grammar.Reader

/-!
What the readers of one category tell the others about what they read, and the categories that
refer to one another. A type may hold an expression (the length of an array), an expression a
block, a block an item, and an item a type; `Grammar` gathers these entrances, so that each
category can be described by itself, given the others.
-/
namespace ServiceGen

namespace Grammar

/-- What stands behind the name of a path's segment. -/
inductive Arguments where
  | absent
  /-- Arguments between angle brackets, those that are types as printed. -/
  | angled (types : List (List Token)) (empty : Bool)

/-- Whether the arguments name nothing. -/
def Arguments.isEmpty : Arguments → Bool
  | .absent => true
  | .angled _ empty => empty

/-- A path: segments with `::` between them, perhaps behind a qualifying type. -/
structure PathForm where
  /-- Whether the path begins with a qualifying type in angle brackets. -/
  qualified : Bool
  /-- Everything before the last segment, as printed. -/
  before : List Token
  /-- What the path itself has before its last segment, without the qualifying type. -/
  lead : List Token
  /-- The name of the last segment. -/
  name : String
  arguments : Arguments
  /-- The last segment as printed. -/
  last : List Token
  /-- Whether no segment has arguments. -/
  bare : Bool

def PathForm.tokens (form : PathForm) : List Token := form.before ++ form.last

def PathForm.isSingle (form : PathForm) : Bool := !form.qualified && form.lead.isEmpty

/-- The kinds of types that others have to tell apart. -/
inductive TypeForm where
  /-- The empty tuple. -/
  | unit
  | path (form : PathForm)
  /-- A single trait bound without a keyword in front. -/
  | bound
  /-- A form without a structure of its own, which is printed as it stands in the text. -/
  | copied
  | other

/-- Whether the type is printed as it stands in the text. -/
def TypeForm.isCopied : TypeForm → Bool
  | .copied => true
  | _ => false

/-- The kinds of expressions that others have to tell apart. -/
inductive ExprForm where
  /-- An expression that ends a statement by itself, such as a block or a loop. -/
  | block
  /-- A call of a macro with braces. -/
  | bracedCall
  | range
  | comparison
  /-- A form without a structure of its own, which is printed as it stands in the text. -/
  | copied
  | other

/-- Whether the expression is printed as it stands in the text. -/
def ExprForm.isCopied : ExprForm → Bool
  | .copied => true
  | _ => false

/-- The kinds of patterns that others have to tell apart. -/
inductive PatternForm where
  | binding (name : String)
  /-- A range, whose operator stands at the place and which may be open on one side. -/
  | range (place : Position) (isOpen : Bool)
  /-- A form without a structure of its own, which is printed as it stands in the text. -/
  | copied
  | other

inductive Precedence where
  | lowest
  | assignment
  | range
  | or
  | and
  | binding
  | comparison
  | bitOr
  | bitXor
  | bitAnd
  | shift
  | sum
  | product
  | cast
  deriving DecidableEq

/-- The rank of a precedence; a higher rank binds more tightly. -/
def Precedence.rank : Precedence → Nat
  | .lowest => 0
  | .assignment => 1
  | .range => 2
  | .or => 3
  | .and => 4
  | .binding => 5
  | .comparison => 6
  | .bitOr => 7
  | .bitXor => 8
  | .bitAnd => 9
  | .shift => 10
  | .sum => 11
  | .product => 12
  | .cast => 13

end Grammar

open Grammar in
/-- The entrances by which the categories refer to one another. -/
structure Grammar where
  /-- A type; `plus` allows several bounds without parentheses around them. -/
  type : (plus : Bool) → Reader TypeForm
  /-- A bound of a type parameter. -/
  bound : Reader Unit
  /-- An operand with what may stand in front of it and behind it; `braces` allows the fields of a
  structure behind a path. -/
  operand : (braces : Bool) → Reader ExprForm
  /-- The operators behind an operand that was read, from a precedence upward, with their
  operands. -/
  operators : (braces : Bool) → ExprForm → List Token → Precedence → Reader ExprForm
  /-- The value of a case, which a block ends. -/
  caseValue : Reader ExprForm
  pattern : Reader PatternForm
  /-- The statements of a block. -/
  statements : Reader Unit
  /-- What an import selects; `rooted` allows `::` in front of what stands in braces. Answers
  whether it stands there. -/
  selection : (rooted : Bool) → Reader Bool
  /-- The fields of a structure, in their braces. -/
  fields : Reader Unit
  /-- An item behind its attributes. Answers whether it has no structure of its own, so that it is
  to be printed as it stands in the text. -/
  item : Reader Bool

namespace Grammar

def expressionWith (g : Grammar) (braces : Bool) : Reader ExprForm := do
  let (form, tokens) ← Reader.printing (g.operand braces)
  g.operators braces form tokens .lowest

def expression (g : Grammar) : Reader Unit := do
  let _ ← g.expressionWith true

/-- A type in which several bounds may stand. -/
def anyType (g : Grammar) : Reader Unit := do
  let _ ← g.type true

end Grammar

end ServiceGen
