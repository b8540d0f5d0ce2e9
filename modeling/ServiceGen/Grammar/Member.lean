import ServiceGen.Grammar.Signature

/-!
The members of interfaces, of implementations and of foreign blocks. Only those of interfaces are
kept; the others are read to find where they end.
-/
namespace ServiceGen.Grammar.Member

open Reader Ahead

/-- A call of a macro as a member, with a semicolon unless it has braces. -/
def call : Reader Unit := do
  let _ ← Path.plain
  op "!"
  match ← rawGroup with
  | .brace => return
  | _ => op ";"

def nameOrUnderscore : Reader Unit := do
  let tokens ← ahead
  if isIdent tokens || isUnderscore tokens then
    let _ ← anyIdent
  else fail

/-- A constant behind its keyword and name. Answers whether it has a value, and whether it is
generic. -/
def constant (g : Grammar) : Reader (Bool × Bool) := do
  let bracketed := isOp "<" (← ahead)
  let _ ← Generics.parameters g
  op ":"
  g.anyType
  let valued ← op? "="
  if valued then g.expression
  let conditional ← Generics.conditions? g
  op ";"
  return (valued, bracketed || conditional)

/-- A place where the bounds of an associated type end. -/
def endsBounds (tokens : List Located) : Bool :=
  isWord "where" tokens || isOp "=" tokens || isOp ";" tokens

/-- What the declaration of a type says: its name, where that stands, and whether bounds and a
definition are given. -/
structure TypeDeclaration where
  name : String
  position : Position
  bounded : Bool
  defined : Bool

/-- The declaration of a type behind its visibility. Conditions may stand before or behind the
definition. -/
def typeDeclaration (g : Grammar) (before behind : Bool) : Reader TypeDeclaration := do
  word "type"
  let position ← here
  let name ← ident
  let _ ← Generics.parameters g
  let bounded ← announced ":" (separated endsBounds "+" (discard (Bound.one g .parameter)))
  let conditional ← if before then Generics.conditions? g else pure false
  let defined ← op? "="
  if defined then g.anyType
  if behind && !conditional then
    let _ ← Generics.conditions? g
  op ";"
  return { name, position, bounded, defined }

/-- A method of an interface behind its attributes, with the documentation lines before it. -/
def method (g : Grammar) (file : String) (docs : List String) : Reader Method := do
  let form ← Signature.read g false
  let tokens ← ahead
  let inner ← if isGroup .brace tokens then Attribute.block g
    else do
      op ";"
      pure []
  return {
    name := form.name
    docs := docs ++ inner
    receiver := form.receiver
    isGeneric := form.isGeneric
    isAsync := form.isAsync
    params := form.params
    results := form.results
    location := ⟨file, form.position.line, form.position.column⟩ }

/-- A member of an interface, and whether it is none of the known kinds, as is one with a visibility
or a default mark and a generic constant. -/
def declared (g : Grammar) (file : String) : Reader (Member × Bool) := do
  let start ← here
  let docs ← Attribute.outer g
  let visible ← Generics.visibility
  let marked ← word? "default"
  let place (position : Position) : Location := ⟨file, position.line, position.column⟩
  let settle (member : Member) (generic : Bool) : Member × Bool :=
    if visible || marked || generic then (.other "trait member" (place start), true)
    else (member, false)
  let tokens ← ahead
  if isWord "fn" tokens || Signature.begins false tokens then
    let method ← method g file docs
    return settle (.method method) false
  else if isWord "const" tokens then
    let second := tokens.tail
    if isIdent second || isUnderscore second then
      word "const"
      let position ← here
      let _ ← anyIdent
      let (_, generic) ← constant g
      return settle (.other "associated const" (place position)) generic
    else if isOneOf ["async", "unsafe", "extern", "fn"] second then
      let method ← method g file docs
      return settle (.method method) false
    else failBefore second
  else if isWord "type" tokens then
    let type ← typeDeclaration g false true
    return settle (.other "associated type" (place type.position)) false
  else if !visible && !marked && beginsCall tokens then
    call
    return (.other "macro invocation" (place start), false)
  else fail

/-- A member of an interface. One of no known kind is printed as it stands in the text. -/
def ofTrait (g : Grammar) (file : String) : Reader Member := do
  let (member, _) ← copyingIf Prod.snd (declared g file)
  return member

/-- A member of an implementation. One that lacks what gives it a meaning is printed as it stands in
the text. -/
def ofImplementation (g : Grammar) : Reader Unit :=
  discard <| copyingIf id do
    let _ ← Attribute.outer g
    let visible ← Generics.visibility
    let tokens ← ahead
    let marked := isWord "default" tokens && !isOp "!" (skip tokens)
    if marked then word "default"
    let tokens ← ahead
    if isWord "fn" tokens || Signature.begins false tokens then
      let _ ← Signature.read g false
      if ← op? ";" then return true
      let _ ← Attribute.block g
      return false
    else if isWord "const" tokens then
      word "const"
      nameOrUnderscore
      let (valued, generic) ← constant g
      return !valued || generic
    else if isWord "type" tokens then
      let type ← typeDeclaration g false true
      return type.bounded || !type.defined
    else if !visible && !marked && beginsCall tokens then
      call
      return false
    else fail

/-- A foreign variable behind its visibility. Answers whether it says more than a name and a
type. -/
def foreignStorage (g : Grammar) : Reader Bool := do
  let qualified := !isWord "static" (← ahead)
  if qualified then
    let _ ← anyIdent
  word "static"
  let _ ← word? "mut"
  let _ ← ident
  op ":"
  g.anyType
  let valued ← op? "="
  if valued then g.expression
  op ";"
  return qualified || valued

/-- A member of a foreign block. One that says more than belongs there is printed as it stands in
the text. -/
def ofForeign (g : Grammar) : Reader Unit :=
  discard <| copyingIf id do
    let _ ← Attribute.outer g
    let visible ← Generics.visibility
    let tokens ← ahead
    let second := skip tokens
    if isWord "fn" tokens || Signature.begins true tokens then
      let form ← Signature.read g true
      if isGroup .brace (← ahead) then
        let _ ← Attribute.block g
        return true
      op ";"
      return form.isSafe
    else if isWord "static" tokens ||
        (isOneOf ["unsafe", "safe"] tokens && isWord "static" second) then foreignStorage g
    else if isWord "type" tokens then
      let type ← typeDeclaration g true true
      return type.bounded || type.defined
    else if !visible && beginsCall tokens then
      call
      return false
    else fail

end ServiceGen.Grammar.Member
