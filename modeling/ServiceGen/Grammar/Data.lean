import ServiceGen.Grammar.Member

/-!
The declarations of data: structures, enumerations and unions. Nothing is kept of their fields and
variants; they are read to find where the declaration ends.
-/
namespace ServiceGen.Grammar.Data

open Reader Ahead

/-- A field with a name. Behind an underscore, fields of its own may stand for its type, and are
printed as they stand in the text. -/
def namedField (g : Grammar) : Reader Unit := do
  let _ ← Attribute.outer g
  let _ ← Generics.visibility
  let nameless := isUnderscore (← ahead)
  let _ ← if nameless then anyIdent else ident
  op ":"
  let tokens ← ahead
  let nested := isWord "struct" tokens || (isWord "union" tokens && isGroup .brace (skip tokens))
  if nameless && nested then
    copying do
      let _ ← anyIdent
      g.fields
  else g.anyType

/-- The fields of a structure, in their braces. -/
def namedFields (g : Grammar) : Reader Unit := group .brace (commaSeparated (namedField g))

/-- Fields that are known by their position only. -/
def positionalFields (g : Grammar) : Reader Unit :=
  group .parenthesis <| commaSeparated do
    let _ ← Attribute.outer g
    let _ ← Generics.visibility
    g.anyType

/-- What a structure has behind its generic parameters. Conditions stand before named fields and
behind positional ones. -/
def fields (g : Grammar) : Reader Unit := do
  let conditional ← Generics.conditions? g
  let tokens ← ahead
  if !conditional && isGroup .parenthesis tokens then
    positionalFields g
    let _ ← Generics.conditions? g
    op ";"
  else if isGroup .brace tokens then namedFields g
  else op ";"

/-- A variant of an enumeration. A visibility may stand in front and means nothing, so that it is
not printed. -/
def variant (g : Grammar) : Reader Unit := do
  let _ ← Attribute.outer g
  let _ ← printing Generics.visibility
  let _ ← ident
  let tokens ← ahead
  if isGroup .brace tokens then namedFields g
  else if isGroup .parenthesis tokens then positionalFields g
  if ← op? "=" then g.expression

def enumeration (g : Grammar) : Reader Unit := do
  let _ ← Generics.conditions? g
  group .brace (commaSeparated (variant g))

def union (g : Grammar) : Reader Unit := do
  let _ ← Generics.conditions? g
  namedFields g

end ServiceGen.Grammar.Data
