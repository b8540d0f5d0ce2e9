import ServiceGen.Grammar.Statement
import ServiceGen.Source.Declaration
import ServiceGen.Token.Printer

/-!
Signatures of functions. A return type `Result<T, E>` names a value and an error. With a single
argument it is taken for an alias whose error stands beside it, so that `io::Result<T>` has the
error `io::Error`.
-/
namespace ServiceGen.Grammar.Signature

open Reader Ahead

structure Form where
  name : String
  /-- Where the name stands. -/
  position : Position
  receiver : Receiver
  isGeneric : Bool
  isAsync : Bool
  /-- Whether it is said to be safe. -/
  isSafe : Bool
  params : List Param
  results : List Param

inductive ParamForm where
  | receiver (receiver : Receiver)
  | typed (param : Param)
  | dots

/-- The results that a return type stands for. -/
def resultsOf (form : TypeForm) (tokens : List Token) : List Param :=
  let whole : List Param := [⟨none, Token.text tokens⟩]
  match form with
  | .unit => []
  | .path path =>
    if path.name == "Result" then
      match path.arguments with
      | .angled [value, error] _ => [⟨none, Token.text value⟩, ⟨none, Token.text error⟩]
      | .angled [value] _ =>
        [⟨none, Token.text value⟩, ⟨none, Token.text (path.lead ++ [.ident "Error"])⟩]
      | _ => whole
    else whole
  | _ => whole

/-- The parameter that stands for the value a method is called on. Answers where the word `self`
stands as well. Behind an ampersand, a path may begin with that word instead. -/
def receiver (g : Grammar) : Reader (Receiver × Position) := do
  if ← op? "&" then
    lifetime?
    let changing ← word? "mut"
    let position ← here
    word "self"
    if isOp "::" (← ahead) then fail
    return (if changing then .changing else .shared, position)
  let _ ← word? "mut"
  let position ← here
  word "self"
  if ← op? ":" then
    g.anyType
    return (.typed, position)
  return (.value, position)

/-- A parameter, where a receiver is allowed only in front. A type without a name may stand for a
parameter if it has arguments of its own; an underscore is printed as its name. -/
def param (g : Grammar) (isFirst : Bool) : Reader ParamForm := do
  match ← attempt (receiver g) with
  | some (form, position) => if isFirst then return .receiver form else failAt position
  | none =>
    let tokens ← ahead
    if isIdent tokens && isOp "<" (skip tokens) then
      let (_, type) ← printing g.anyType
      emit (.ident "_" :: .punct ':' false :: type)
      return .typed ⟨none, Token.text type⟩
    let pattern ← g.pattern
    op ":"
    if ← op? "..." then return .dots
    let (_, type) ← printing g.anyType
    emit type
    let name := match pattern with
      | .binding name => some name
      | _ => none
    return .typed ⟨name, Token.text type⟩

/-- The parameters of a function. Dots end them, and nothing but a comma may follow. -/
def params (g : Grammar) : Reader (List ParamForm) := do
  let forms ← repeating [] fun (forms : List ParamForm) => do
    if ← atEnd then return .done forms
    let _ ← Attribute.outer g
    let form ← if ← op? "..." then pure .dots else param g forms.isEmpty
    if ← atEnd then return .done (form :: forms)
    op ","
    match form with
    | .dots => return .done (form :: forms)
    | _ => return .again (form :: forms)
  pure forms.reverse

/-- A signature. Where `safe` is allowed it may be said of a function that is not unsafe. -/
def read (g : Grammar) (safe : Bool) : Reader Form := do
  let _ ← word? "const"
  let isAsync ← word? "async"
  let isUnsafe ← word? "unsafe"
  let isSafe ← if safe && !isUnsafe then word? "safe" else pure false
  Type.binding?
  word "fn"
  let position ← here
  let name ← ident
  let hasParameters ← Generics.parameters g
  let forms ← group .parenthesis (params g)
  let (form, tokens) ← printing (Type.result g true)
  emit tokens
  let hasConditions ← Generics.conditions? g
  let receiver := match forms with
    | .receiver receiver :: _ => receiver
    | _ => .none
  let params := forms.filterMap fun form =>
    match form with
    | .typed param => some param
    | _ => none
  let results := match form with
    | none => []
    | some form => resultsOf form (tokens.drop 2)
  return { name, position, receiver, isAsync, isSafe, params, results
           isGeneric := hasParameters || hasConditions }

def begins (safe : Bool) (tokens : List Located) : Bool :=
  let without (word : String) (tokens : List Located) : List Located :=
    if isWord word tokens then tokens.tail else tokens
  let tokens := without "async" (without "const" tokens)
  let tokens := if safe && isWord "safe" tokens then tokens.tail else without "unsafe" tokens
  let tokens :=
    if isWord "extern" tokens then
      if isText tokens.tail then tokens.tail.tail else tokens.tail
    else tokens
  isWord "fn" tokens

end ServiceGen.Grammar.Signature
