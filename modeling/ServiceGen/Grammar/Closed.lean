import ServiceGen.Grammar.Item
import ServiceGen.Token.Lexer

/-!
The grammar as a whole, in which every entrance leads to the readers of its category. Entrances
lead to one another no deeper than the tokens allow: on the way from one token to the next at most
four entrances are passed, as from statements by an expression and its operand to a type.
-/
namespace ServiceGen.Grammar

open Reader

/-- The grammar in which entrances lead to one another to the given depth. -/
def ofDepth : Nat → Grammar
  | 0 => {
      type := fun _ => fail
      bound := fail
      operand := fun _ => fail
      operators := fun _ _ _ _ => fail
      caseValue := fail
      pattern := fail
      statements := fail
      selection := fun _ => fail
      fields := fail
      item := fail }
  | depth + 1 => {
      type := fun plus input => Type.read (ofDepth depth) plus input
      bound := fun input => (discard (Bound.one (ofDepth depth) .parameter)) input
      operand := fun braces input => Expression.operand (ofDepth depth) braces input
      operators := fun braces form tokens floor input =>
        Operation.operators (ofDepth depth) braces form tokens floor input
      caseValue := fun input => Standalone.caseValue (ofDepth depth) input
      pattern := fun input => Pattern.read (ofDepth depth) input
      statements := fun input => Statement.all (ofDepth depth) input
      selection := fun rooted input => Import.selection (ofDepth depth) rooted input
      fields := fun input => Data.namedFields (ofDepth depth) input
      item := fun input => Item.inner (ofDepth depth) input }

def ofTokens (tokens : List Located) : Grammar := ofDepth (4 * Located.sizes tokens + 4)

def readText {α : Type} (text : List Char) (reader : Grammar → Reader α) :
    Except Position (α × List Token) := do
  let tokens ← Token.Lexer.read text
  readAll (reader (ofTokens tokens)) tokens

def typeTokens? (text : String) : Option (List Token) :=
  match readText text.toList fun g => g.type true with
  | .ok (_, tokens) => some tokens
  | .error _ => none

def pathTokens? (text : String) : Option (List Token) :=
  match readText text.toList fun g => Path.unqualified g false with
  | .ok (form, _) => some form.tokens
  | .error _ => none

def identifier? (text : String) : Option String :=
  match readText text.toList fun _ => ident with
  | .ok (name, _) => some name
  | .error _ => none

end ServiceGen.Grammar
