import ServiceGen.Grammar.Path.Plain
import ServiceGen.Text.Lines
import ServiceGen.Token.Quotation

/-!
Attributes. Of all of them only documentation has a meaning here: `#[doc = "…"]` with a literal of
text contributes the lines of that text, and the empty text contributes one empty line.
-/
namespace ServiceGen.Grammar.Attribute

open Reader Ahead

/-- The lines that a documentation text contributes. -/
def docLines (text : String) : List String :=
  if text.isEmpty then [""] else (Text.lines text.toList).map String.ofList

/-- What an attribute holds between its brackets. Answers the documentation lines in it. -/
def body (g : Grammar) : Reader (List String) := do
  let path ← if isWord "unsafe" (← ahead) then do
      let name ← anyIdent
      pure (false, [name])
    else Path.plain
  let tokens ← ahead
  if isGroup .parenthesis tokens || isGroup .bracket tokens || isGroup .brace tokens then
    let _ ← rawGroup
    return []
  if isOp "=" tokens && !isOp "==" tokens && !isOp "=>" tokens then
    op "="
    let tokens ← ahead
    match tokens with
    | [.literal text _] =>
      literal
      let isDoc := path.1 == false && path.2 == ["doc"]
      return if isDoc then ((Token.Quotation.value? text).map docLines).getD [] else []
    | _ =>
      if isOp "#" tokens && isGroup .bracket (skip tokens) then fail
      else
        g.expression
        return []
  return []

/-- An attribute of what follows it. -/
def outerOne (g : Grammar) : Reader (List String) := do
  op "#"
  group .bracket (body g)

/-- An attribute of what it stands in. -/
def innerOne (g : Grammar) : Reader (List String) := do
  op "#"
  op "!"
  group .bracket (body g)

/-- The attributes in front of something, with the documentation lines that they hold. -/
def outer (g : Grammar) : Reader (List String) :=
  repeating [] fun lines => do
    if isOp "#" (← ahead) then return .again (lines ++ (← outerOne g))
    else return .done lines

/-- The attributes at the beginning of a body. -/
def inner (g : Grammar) : Reader (List String) :=
  repeating [] fun lines => do
    let tokens ← ahead
    if isOp "#" tokens && isOp "!" (skip tokens) then return .again (lines ++ (← innerOne g))
    else return .done lines

/-- A block with attributes at its beginning. Answers the documentation lines that they hold. -/
def block (g : Grammar) : Reader (List String) :=
  group .brace do
    let lines ← inner g
    g.statements
    pure lines

end ServiceGen.Grammar.Attribute
