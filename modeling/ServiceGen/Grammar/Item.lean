import ServiceGen.Grammar.Data
import ServiceGen.Grammar.Import

/-!
Items: the declarations of a file. One that declares a name is kept, unless it is an import, an
implementation or a form that means nothing by itself, such as a constant without a value. Its
documentation is what stands in front of it, followed by what stands at the beginning of its body.
-/
namespace ServiceGen.Grammar.Item

open Reader Ahead

/-- What is known of an item once its declaration is read. -/
structure Form where
  name : String
  /-- Where the name stands. -/
  position : Position
  kind : ItemKind
  /-- The documentation lines at the beginning of the body. -/
  docs : List String
  members : List Member

inductive Outcome where
  | kept (form : Form)
  | passed
  /-- An item without a structure of its own, which is printed as it stands in the text. -/
  | copied

/-- What becomes of an item that is not kept. -/
def Outcome.unkept (copied : Bool) : Outcome := if copied then .copied else .passed

def named (name : Reader String) : Reader (String × Position) := do
  let position ← here
  let name ← name
  return (name, position)

def moduleName : Reader String := do
  if isWord "try" (← ahead) then anyIdent else ident

def function (g : Grammar) : Reader Outcome := do
  let _ ← Generics.visibility
  let form ← Signature.read g false
  if ← op? ";" then return .copied
  let docs ← Attribute.block g
  return .kept ⟨form.name, form.position, .function, docs, []⟩

/-- A package that is used, perhaps under another name. -/
def package : Reader Unit := do
  let _ ← Generics.visibility
  word "extern"
  word "crate"
  let _ ← if isWord "self" (← ahead) then anyIdent else ident
  if ← word? "as" then
    let _ ← if isUnderscore (← ahead) then anyIdent else ident
  op ";"

/-- A block of foreign declarations. -/
def foreign (g : Grammar) : Reader Unit := do
  let _ ← word? "unsafe"
  word "extern"
  if isText (← ahead) then literal
  group .brace do
    let _ ← Attribute.inner g
    let _ ← untilEnd (Member.ofForeign g)

/-- An item whose visibility is followed by `extern` and the given tokens. -/
def external (g : Grammar) (tokens : List Located) : Reader Unit := do
  if isWord "crate" tokens then package
  else if isGroup .brace tokens then foreign g
  else if !isText tokens then failBefore tokens
  else if isGroup .brace tokens.tail then foreign g
  else failBefore tokens.tail

def imported (g : Grammar) : Reader Outcome := do
  let _ ← Generics.visibility
  return .unkept (← Import.read g)

/-- A variable. It is kept if it has a type and a value. -/
def storage (g : Grammar) : Reader Outcome := do
  let _ ← Generics.visibility
  word "static"
  let _ ← word? "mut"
  let (name, position) ← named ident
  if ← op? "=" then
    g.expression
    op ";"
    return .copied
  op ":"
  g.anyType
  if ← op? ";" then return .copied
  op "="
  g.expression
  op ";"
  return .kept ⟨name, position, .other, [], []⟩

/-- A constant. It is kept if it has a value and no parameters. -/
def constant (g : Grammar) : Reader Outcome := do
  let _ ← Generics.visibility
  word "const"
  let tokens ← ahead
  let (name, position) ← named (if isUnderscore tokens then anyIdent else ident)
  let (valued, generic) ← Member.constant g
  return if valued && !generic then .kept ⟨name, position, .other, [], []⟩ else .copied

/-- A module, with what it holds if that is not elsewhere. -/
def module (g : Grammar) : Reader Outcome := do
  let _ ← Generics.visibility
  let _ ← word? "unsafe"
  word "mod"
  let (name, position) ← named moduleName
  if ← op? ";" then return .kept ⟨name, position, .other, [], []⟩
  let docs ← group .brace do
    let docs ← Attribute.inner g
    let _ ← untilEnd <| copyingIf id do
      let _ ← Attribute.outer g
      g.item
    pure docs
  return .kept ⟨name, position, .other, docs, []⟩

/-- Another name for a type. It is kept if it names the type and states no bounds. -/
def typeAlias (g : Grammar) : Reader Outcome := do
  let _ ← Generics.visibility
  let type ← Member.typeDeclaration g true false
  return if type.defined && !type.bounded then .kept ⟨type.name, type.position, .typeAlias, [], []⟩
    else .copied

def data (g : Grammar) (keyword : String) (kind : ItemKind) (rest : Reader Unit) :
    Reader Outcome := do
  let _ ← Generics.visibility
  word keyword
  let (name, position) ← named ident
  let _ ← Generics.parameters g
  rest
  return .kept ⟨name, position, kind, [], []⟩

/-- Whether the bounds of an interface end. -/
def endsSuper (tokens : List Located) : Bool := isWord "where" tokens || isGroup .brace tokens

/-- What a trait has behind its generic parameters: bounds, conditions and members. -/
def traitRest (g : Grammar) (file : String) (name : String) (position : Position) :
    Reader Outcome := do
  let _ ← announced ":" (separated endsSuper "+" (discard (Bound.one g .parameter)))
  let _ ← Generics.conditions? g
  let (docs, members) ← group .brace do
    let docs ← Attribute.inner g
    let members ← untilEnd (Member.ofTrait g file)
    pure (docs, members)
  return .kept ⟨name, position, .trait, docs, members⟩

/-- Another name for bounds, behind its generic parameters. -/
def boundAlias (g : Grammar) : Reader Outcome := do
  op "="
  separated (fun tokens => isWord "where" tokens || isOp ";" tokens) "+" do
    let _ ← Bound.one g .object
  let _ ← Generics.conditions? g
  op ";"
  return .passed

/-- A trait with its keywords, one of which may say that it is unsafe or automatic. -/
def trait (g : Grammar) (file : String) : Reader Outcome := do
  let _ ← Generics.visibility
  let _ ← word? "unsafe"
  let _ ← word? "auto"
  word "trait"
  let (name, position) ← named ident
  let _ ← Generics.parameters g
  traitRest g file name position

/-- A trait without further keywords, or another name for bounds. -/
def plainTrait (g : Grammar) (file : String) : Reader Outcome := do
  let _ ← Generics.visibility
  word "trait"
  let (name, position) ← named ident
  let _ ← Generics.parameters g
  let tokens ← ahead
  if isGroup .brace tokens || isOp ":" tokens || isWord "where" tokens then
    traitRest g file name position
  else boundAlias g

/-- An implementation, of a trait or of a type by itself. Neither a visibility nor the word `const`
belongs to one, and only a path names a trait. -/
def implementation (g : Grammar) : Reader Outcome := do
  let visible ← Generics.visibility
  let _ ← word? "default"
  let _ ← word? "unsafe"
  word "impl"
  if opensGenerics (← ahead) then
    let _ ← Generics.parameters g
  let tokens ← ahead
  let constant := isWord "const" tokens || (isOp "?" tokens && isWord "const" (skip tokens))
  if constant then
    let _ ← op? "?"
    word "const"
  let start ← here
  let tokens ← ahead
  let negative := isOp "!" tokens && !isGroup .brace (skip tokens)
  if negative then op "!"
  let first ← g.type true
  let isOfTrait ← word? "for"
  if isOfTrait then g.anyType else if negative then failAt start
  let _ ← Generics.conditions? g
  group .brace do
    let _ ← Attribute.inner g
    let _ ← untilEnd (Member.ofImplementation g)
  let named := match first with
    | .path form => !form.qualified
    | _ => false
  return .unkept (visible || constant || (isOfTrait && !named))

/-- A definition of a macro by its keyword. -/
def definition : Reader Unit := do
  let _ ← Generics.visibility
  word "macro"
  let _ ← ident
  if isGroup .parenthesis (← ahead) then
    let _ ← rawGroup
  if isGroup .brace (← ahead) then
    let _ ← rawGroup
  else fail

/-- A call of a macro, which may declare something under a name. -/
def call : Reader Unit := do
  let _ ← Path.plain
  op "!"
  let tokens ← ahead
  if isIdent tokens || isWord "try" tokens then
    let _ ← anyIdent
  match ← rawGroup with
  | .brace => return
  | _ => op ";"

/-- Runs a reader of something that is not kept. -/
def passed (reader : Reader Unit) : Reader Outcome := do
  reader
  return .passed

/-- An item behind its attributes. What follows its visibility decides what it is. -/
def form (g : Grammar) (file : String) : Reader Outcome := do
  let (visible, tokens) ← peeking Generics.visibility
  let second := skip tokens
  if isWord "fn" tokens || Signature.begins false tokens then function g
  else if isWord "extern" tokens then passed (external g tokens.tail)
  else if isWord "use" tokens then imported g
  else if isWord "static" tokens then storage g
  else if isWord "const" tokens then constant g
  else if isWord "unsafe" tokens then
    if isWord "trait" second || (isWord "auto" second && isWord "trait" (skip second)) then
      trait g file
    else if isWord "impl" second then implementation g
    else if isWord "extern" second then passed (foreign g)
    else if isWord "mod" second then module g
    else failBefore second
  else if isWord "mod" tokens then module g
  else if isWord "type" tokens then typeAlias g
  else if isWord "struct" tokens then data g "struct" .struct (Data.fields g)
  else if isWord "enum" tokens then data g "enum" .enum (Data.enumeration g)
  else if isWord "union" tokens && isIdent second then data g "union" .other (Data.union g)
  else if isWord "trait" tokens then plainTrait g file
  else if isWord "auto" tokens && isWord "trait" second then trait g file
  else if isWord "impl" tokens || (isWord "default" tokens && !isOp "!" second) then
    implementation g
  else if isWord "macro" tokens then
    definition
    return .copied
  else if !visible && beginsCall tokens then passed call
  else failBefore tokens

/-- An item behind its attributes, inside of something else. Answers whether it is to be printed as
it stands in the text. -/
def inner (g : Grammar) : Reader Bool := do
  match ← form g "" with
  | .copied => return true
  | _ => return false

def read (g : Grammar) (file : String) : Reader (Option Item) := do
  let docs ← Attribute.outer g
  match ← form g file with
  | .kept form =>
    return some {
      name := form.name
      kind := form.kind
      docs := docs ++ form.docs
      location := ⟨file, form.position.line, form.position.column⟩
      members := form.members }
  | _ => return none

end ServiceGen.Grammar.Item
