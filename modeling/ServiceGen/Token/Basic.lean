/-!
Tokens of the interface language, as trees: whatever stands between matching delimiters is one
token. A punctuation character knows whether it is joined to the next token, since `::` is two
joined characters and `: :` is not.

Tokens come in two forms. A `Token` is what generated code is made of. A `Located` token was read
from a text and remembers where.
-/
namespace ServiceGen

/-- A place in a text: lines count from one, columns from zero and in characters. -/
structure Position where
  line : Nat
  column : Nat
  deriving Repr, DecidableEq, Inhabited

namespace Position

/-- The beginning of a text. It also stands for the end of a text as a whole. -/
def start : Position := ⟨1, 0⟩

/-- The place behind a character that stands here. -/
def step (position : Position) (c : Char) : Position :=
  if c == '\n' then ⟨position.line + 1, 0⟩ else ⟨position.line, position.column + 1⟩

/-- The place behind a run of characters that begins here. -/
def advance (position : Position) (cs : List Char) : Position := cs.foldl step position

end Position

/-- The three kinds of matching delimiters. -/
inductive Delimiter where
  | parenthesis
  | bracket
  | brace
  deriving Repr, DecidableEq, Inhabited

inductive Token where
  | ident (name : String)
  | punct (char : Char) (joint : Bool)
  | literal (text : String)
  | group (delimiter : Delimiter) (inner : List Token)
  deriving Repr, Inhabited

/-- A token with the place where it stands in a text. A group has the places of both of its
delimiters. -/
inductive Located where
  | ident (name : String) (position : Position)
  | punct (char : Char) (joint : Bool) (position : Position)
  | literal (text : String) (position : Position)
  | group (delimiter : Delimiter) (inner : List Located) (opening closing : Position)
  deriving Repr, Inhabited

namespace Located

def position : Located → Position
  | .ident _ position => position
  | .punct _ _ position => position
  | .literal _ position => position
  | .group _ _ opening _ => opening

mutual

def token : Located → Token
  | .ident name _ => .ident name
  | .punct char joint _ => .punct char joint
  | .literal text _ => .literal text
  | .group delimiter inner _ _ => .group delimiter (tokens inner)

/-- Several tokens without their places. -/
def tokens : List Located → List Token
  | [] => []
  | tree :: rest => token tree :: tokens rest

end

mutual

/-- The number of tokens in a tree, with those inside its groups. -/
def size : Located → Nat
  | .ident .. => 1
  | .punct .. => 1
  | .literal .. => 1
  | .group _ inner _ _ => sizes inner + 1

/-- The number of tokens in several trees. -/
def sizes : List Located → Nat
  | [] => 0
  | tree :: rest => size tree + sizes rest

end

end Located

namespace Token

/-- An operator of one or more characters, all joined to one another. -/
def ofOperator : List Char → List Token
  | [] => []
  | [c] => [.punct c false]
  | c :: rest => .punct c true :: ofOperator rest

end Token

end ServiceGen
