import ServiceGen.Grammar.Standalone

/-!
Statements. A block holds declarations, bindings, calls of macros and expressions; an expression
that does not end in a block of its own needs a semicolon unless it is the last.
-/
namespace ServiceGen.Grammar.Statement

open Reader Ahead

/-- Whether the last thing printed was a group in braces. -/
def endsInBrace : Reader Bool := fun input =>
  .ok (match input.printed.head? with
    | some (.group .brace _) => true
    | _ => false, input)

/-- A binding with its type and value, and what to do if the value does not fit. -/
def binding (g : Grammar) : Reader Unit := do
  word "let"
  let _ ← g.pattern
  if ← op? ":" then g.anyType
  if ← op? "=" then
    g.expression
    if !(← endsInBrace) && isWord "else" (← ahead) then
      word "else"
      Expression.plainBlock g
  op ";"

/-- How a path in front of an exclamation mark goes on. -/
inductive Call where
  /-- No call of a macro that is a statement by itself. -/
  | absent
  /-- A call that declares something under a name. -/
  | declaring
  /-- A call with braces that is a whole statement. -/
  | whole

/-- Which call of a macro the statement is, and how many tokens its path takes. -/
def callAhead : Reader Call := fun input =>
  let call : Call := match Path.plain input with
    | .error _ => .absent
    | .ok (_, after) =>
      let tokens := after.rest
      let second := skip tokens
      let third := skip second
      if !isOp "!" tokens then .absent
      else if isIdent second || isWord "try" second then .declaring
      else if isGroup .brace second &&
          !((isOp "." third && !isOp ".." third) || isOp "?" third) then .whole
      else .absent
  .ok (call, input)

/-- A call of a macro with braces, as a statement. -/
def wholeCall : Reader Unit := do
  let _ ← Path.plain
  op "!"
  let _ ← rawGroup
  let _ ← op? ";"

/-- Whether a declaration comes next. -/
def beginsItem (tokens : List Located) : Bool :=
  let second := skip tokens
  let third := skip second
  isWord "pub" tokens || (isWord "crate" tokens && !isOp "::" second) ||
    isOneOf ["extern", "use", "fn", "mod", "type", "struct", "enum", "trait", "impl", "macro"]
      tokens ||
    (isWord "static" tokens &&
      (isWord "mut" second ||
        (isIdent second &&
          !(isWord "async" second && (isWord "move" third || isOp "|" third))))) ||
    (isWord "const" tokens &&
      !(isGroup .brace second || isWord "static" second ||
        (isWord "async" second && !isOneOf ["unsafe", "extern", "fn"] third) ||
        isWord "move" second || isOp "|" second)) ||
    (isWord "unsafe" tokens && !isGroup .brace second) ||
    (isWord "async" tokens && isOneOf ["unsafe", "extern", "fn"] second) ||
    (isWord "union" tokens && isIdent second) || (isWord "auto" tokens && isWord "trait" second) ||
    (isWord "default" tokens && isOneOf ["unsafe", "impl"] second)

inductive Form where
  /-- Another statement may follow. -/
  | closed
  /-- A semicolon has to come before another statement. -/
  | unclosed
  /-- A declaration without a structure of its own, which is printed as it stands in the text. -/
  | copied
  deriving DecidableEq

def declaration (g : Grammar) (attributes : List Token) : Reader Form := do
  emit attributes
  return if ← g.item then .copied else .closed

def one (g : Grammar) : Reader Form :=
  copyingIf (· == .copied) do
    let (_, attributes) ← printing (Attribute.outer g)
    match ← callAhead with
    | .whole =>
      emit attributes
      wholeCall
      return .closed
    | .declaring => declaration g attributes
    | .absent =>
      let tokens ← ahead
      if isWord "let" tokens then
        emit attributes
        binding g
        return .closed
      else if beginsItem tokens then declaration g attributes
      else
        let form ← Standalone.statement g attributes
        if ← op? ";" then return .closed
        match form with
        | .block => return .closed
        | .bracedCall => return .closed
        | _ => return .unclosed

/-- The statements of a block, up to its end. -/
def all (g : Grammar) : Reader Unit :=
  repeating () fun _ => do
    if ← atEnd then return .done ()
    if ← op? ";" then return .again ()
    let form ← one g
    if ← atEnd then return .done ()
    if form == .unclosed then fail else return .again ()

end ServiceGen.Grammar.Statement
