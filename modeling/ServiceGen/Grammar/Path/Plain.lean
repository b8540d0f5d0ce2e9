import ServiceGen.Grammar.Basic

/-!
Paths whose segments have no arguments, as those of attributes, of macros and of places.
-/
namespace ServiceGen.Grammar.Path

open Reader Ahead

/-- The words that a path may hold beside identifiers. -/
def keywords : List String := ["super", "self", "Self", "crate"]

/-- Whether a segment of a path without arguments comes next. -/
def beginsPlain (tokens : List Located) : Bool := isIdent tokens || isOneOf keywords tokens

/-- A path whose segments have no arguments; prints it, and answers its names and whether `::`
stands in front. -/
def plain : Reader (Bool × List String) := do
  let rooted ← op? "::"
  let names ← repeating [] fun (names : List String) => do
    if beginsPlain (← ahead) then
      let name ← anyIdent
      if ← op? "::" then
        if beginsPlain (← ahead) then return .again (name :: names) else fail
      else return .done (name :: names)
    else fail
  pure (rooted, names.reverse)

end ServiceGen.Grammar.Path
