import ServiceGen.Tag.Basic

/-!
Predicates over tags. Whoever looks for tags states what it looks for as a predicate, and the same
value both selects the tags and says in words what was selected.
-/
namespace ServiceGen

inductive Predicate where
  /-- The path is exactly this one. -/
  | has (path : List String)
  /-- The path begins with these segments. -/
  | startsWith (path : List String)
  /-- One of the alternatives holds; an empty list of them never does. -/
  | oneOf (alternatives : List Predicate)
  deriving Inhabited

namespace Predicate

mutual

def holds (tag : Tag) : Predicate → Bool
  | .has path => tag.pathIs path
  | .startsWith path => tag.pathStartsWith path
  | .oneOf alternatives => holdsOne tag alternatives

def holdsOne (tag : Tag) : List Predicate → Bool
  | [] => false
  | predicate :: rest => holds tag predicate || holdsOne tag rest

end

mutual

def text : Predicate → String
  | .has path => "has(" ++ String.intercalate ":" path ++ ")"
  | .startsWith path => "has_prefix(" ++ String.intercalate ":" path ++ ")"
  | .oneOf alternatives => "one_of(" ++ String.intercalate ", " (texts alternatives) ++ ")"

/-- The texts of several predicates, in order. -/
def texts : List Predicate → List String
  | [] => []
  | predicate :: rest => text predicate :: texts rest

end

def select (predicate : Predicate) (tags : List Tag) : List Tag :=
  tags.filter fun tag => predicate.holds tag

def any (predicate : Predicate) (tags : List Tag) : Bool :=
  tags.any fun tag => predicate.holds tag

def find? (predicate : Predicate) (tags : List Tag) : Option Tag :=
  tags.find? fun tag => predicate.holds tag

end Predicate

end ServiceGen
