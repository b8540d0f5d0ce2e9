import ServiceGen.Grammar.Attribute

/-!
Imports. An import selects a path, perhaps under another name, all names of a path, or in braces
several selections.
-/
namespace ServiceGen.Grammar.Import

open Reader Ahead

/-- Whether a segment of an imported path comes next. -/
def beginsSegment (tokens : List Located) : Bool :=
  isIdent tokens || isOneOf ["self", "super", "crate", "try"] tokens

/-- The other name of an import; an underscore gives it none. -/
def otherName : Reader Unit := do
  let tokens ← ahead
  if isIdent tokens || isUnderscore tokens then
    let _ ← anyIdent
  else fail

/-- Several selections in braces. Answers whether one of them begins with `::`. -/
def several (g : Grammar) (rooted : Bool) : Reader Bool :=
  group .brace <| repeating false fun found => do
    if ← atEnd then return .done found
    let isRooted ← if rooted then op? "::" else pure false
    let within ← g.selection (rooted && !isRooted)
    let found := found || isRooted || within
    if ← atEnd then return .done found
    op ","
    return .again found

/-- What is selected. Only in front, and in braces that no path precedes, a selection may begin
with `::`. Answers whether one in braces does. -/
def selection (g : Grammar) (rooted : Bool) : Reader Bool := do
  let tokens ← ahead
  if beginsSegment tokens then
    let _ ← anyIdent
    if ← op? "::" then return ← g.selection false
    if ← word? "as" then otherName
    return false
  else if isOp "*" tokens then
    op "*"
    return false
  else if isGroup .brace tokens then several g rooted
  else fail

/-- An import behind its visibility. Answers whether a selection in braces begins with `::`. -/
def read (g : Grammar) : Reader Bool := do
  word "use"
  let isRooted ← op? "::"
  let found ← g.selection (!isRooted)
  op ";"
  return found

end ServiceGen.Grammar.Import
