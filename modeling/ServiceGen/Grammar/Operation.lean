import ServiceGen.Grammar.Pattern

/-!
Operators, which join operands by precedence. A cast is followed by a type, a range may lack either
of its ends, and all other operators stand between two operands.
-/
namespace ServiceGen.Grammar.Operation

open Reader Ahead

/-- The binary operators with their precedence, longer ones first. -/
def binaryOperators : List (String × Precedence) :=
  [("+=", .assignment), ("-=", .assignment), ("*=", .assignment), ("/=", .assignment),
    ("%=", .assignment), ("^=", .assignment), ("&=", .assignment), ("|=", .assignment),
    ("<<=", .assignment), (">>=", .assignment), ("&&", .and), ("||", .or), ("<<", .shift),
    (">>", .shift), ("==", .comparison), ("<=", .comparison), ("!=", .comparison),
    (">=", .comparison), ("+", .sum), ("-", .sum), ("*", .product), ("/", .product),
    ("%", .product), ("^", .bitXor), ("&", .bitAnd), ("|", .bitOr), ("<", .comparison),
    (">", .comparison)]

/-- The binary operator that comes next. -/
def binary? (tokens : List Located) : Option (String × Precedence) :=
  binaryOperators.find? fun (operator, _) => isOp operator tokens

/-- The precedence of whatever operator comes next. -/
def nextPrecedence (tokens : List Located) : Precedence :=
  match binary? tokens with
  | some (_, precedence) => precedence
  | none =>
    if isOp "=" tokens && !isOp "=>" tokens then .assignment
    else if isOp ".." tokens then .range
    else if isWord "as" tokens then .cast
    else .lowest

/-- The right side of an operator: an operand with the operators that bind more tightly. -/
def rightSide (g : Grammar) (braces : Bool) (precedence : Precedence) : Reader Unit := do
  let operand ← printing (g.operand braces)
  let (_, tokens) ← repeating operand fun (form, tokens) => do
    let before ← ahead
    let next := nextPrecedence before
    let binds := precedence.rank < next.rank || (next == precedence && next == .assignment)
    if !binds then return .done (form, tokens)
    let after ← printing (g.operators braces form tokens next)
    if (← ahead).length == before.length then return .done after else return .again after
  emit tokens

/-- Whether a range has no upper end, since something else comes next. -/
def endsRange (braces : Bool) (tokens : List Located) : Bool :=
  tokens.isEmpty || isOp "," tokens || isOp ";" tokens ||
    (isOp "." tokens && !isOp ".." tokens) || isOp "?" tokens || isOp "=>" tokens ||
    (!braces && isGroup .brace tokens) || isOp "=" tokens || isOp "+" tokens ||
    isOp "/" tokens || isOp "%" tokens || isOp "^" tokens || isOp ">" tokens ||
    isOp "<=" tokens || isOp "!=" tokens || isOp "-=" tokens || isOp "*=" tokens ||
    isOp "&=" tokens || isOp "|=" tokens || isOp "<<=" tokens || isWord "as" tokens

/-- A range from its operator on. A range that includes its end has to have one. -/
def upperRange (g : Grammar) (braces : Bool) : Reader Unit := do
  let closed ← Pattern.rangeOperator false
  if !closed && endsRange braces (← ahead) then return
  rightSide g braces .range

/-- Refuses what may not stand behind a cast. -/
def afterCast : Reader Unit := do
  let tokens ← ahead
  if (isOp "." tokens && !isOp ".." tokens) || isOp "?" tokens || isGroup .bracket tokens ||
      isGroup .parenthesis tokens then fail

structure Casts where
  /-- The casts as printed, without the operand. -/
  tokens : List Token
  /-- Whether the last type ends in a bare path in front of an operator that could open its
  arguments. -/
  bracketed : Bool

/-- An operand with its casts, in parentheses if an operator could be taken for arguments. -/
def Casts.behind (casts : Casts) (operand : List Token) : List Token :=
  if casts.bracketed then [.group .parenthesis (operand ++ casts.tokens)]
  else operand ++ casts.tokens

/-- Whether a type ends in a word that takes no arguments. -/
def endsBare (type : List Token) : Bool :=
  match type.getLast? with
  | some (.ident name) => ["super", "self", "crate", "try"].contains name
  | _ => false

/-- Whether an operator comes next that begins with an opening angle bracket and gives a value. -/
def beginsAngled (tokens : List Located) : Bool :=
  (binary? tokens).any fun (operator, _) => operator == "<" || operator == "<<"

/-- Reads the casts behind an operand of the given form, without printing them. A range takes
none. -/
def readCasts (g : Grammar) (form : ExprForm) : Reader Casts := do
  if let .range := form then return ⟨[], false⟩
  repeating ⟨[], false⟩ fun casts => do
    if !isWord "as" (← ahead) then return .done casts
    let (bare, tokens) ← printing do
      word "as"
      let (form, type) ← printing (g.type false)
      emit type
      afterCast
      pure (!form.isCopied && endsBare type)
    return .again ⟨casts.tokens ++ tokens, bare && beginsAngled (← ahead)⟩

/-- The operators behind an operand that bind at least as tightly as a precedence. A range takes no
further operator, and comparisons are not chained. -/
def operators (g : Grammar) (braces : Bool) (form : ExprForm) (operand : List Token)
    (floor : Precedence) : Reader ExprForm := do
  let casts ← readCasts g form
  emit (casts.behind operand)
  repeating (if casts.tokens.isEmpty then form else .other) fun form => do
    if let .range := form then return .done form
    let tokens ← ahead
    match binary? tokens with
    | some (operator, precedence) =>
      if precedence.rank < floor.rank then return .done form
      if let (.comparison, .comparison) := (precedence, form) then fail
      op operator
      rightSide g braces precedence
      return .again (if precedence == .comparison then .comparison else .other)
    | none =>
      if floor.rank ≤ Precedence.assignment.rank && isOp "=" tokens && !isOp "=>" tokens then
        op "="
        rightSide g braces .assignment
        return .again .other
      else if floor.rank ≤ Precedence.range.rank && isOp ".." tokens then
        upperRange g braces
        return .again .range
      else if isWord "as" tokens then
        emit (← readCasts g form).tokens
        return .again .other
      else return .done form

end ServiceGen.Grammar.Operation
