import ServiceGen.Token.Lexeme
import ServiceGen.Token.Quotation

/-!
Reading a text as located tokens. The lexer takes one lexeme after the other and keeps the groups
that are still open on a stack. It stops at the first place that holds no lexeme, at a closing
delimiter that does not fit, and at the opening delimiter of a group that is never closed.
-/
namespace ServiceGen.Token.Lexer

/-- A group that is still open, with the tokens before it, last first. -/
structure OpenGroup where
  delimiter : Delimiter
  opening : Position
  before : List Located

/-- The tokens that a documentation comment stands for: an attribute with the text as literal. -/
def documentation (text : List Char) (inner : Bool) (position : Position) : List Located :=
  let literal := Quotation.ofText (String.ofList text)
  let body := [.ident "doc" position, .punct '=' false position, .literal literal position]
  .punct '#' false position ::
    (if inner then [Located.punct '!' false position] else []) ++
    [.group .bracket body position position]

/-- The token of a lexeme that is neither blank nor delimiter. -/
def leaf (lexeme : Lexeme) (position : Position) : List Located :=
  match lexeme with
  | .documentation text inner => documentation text inner position
  | .word name => [.ident (String.ofList name) position]
  | .mark c joint => [.punct c joint position]
  | .literal text => [.literal (String.ofList text) position]
  | _ => []

/-- Reads on from a place. `read` holds the tokens of the innermost open group, last first. The
fuel is the number of characters left, of which each round takes at least one. -/
def run : Nat → List Char → Position → List OpenGroup → List Located →
    Except Position (List Located)
  | _, [], _, stack, read =>
    match stack with
    | [] => .ok read.reverse
    | innermost :: _ => .error innermost.opening
  | 0, _ :: _, position, _, _ => .error position
  | fuel + 1, c :: cs, position, stack, read =>
    match Lexeme.first? (c :: cs) with
    | none => .error position
    | some (lexeme, length) =>
      let rest := (c :: cs).drop length
      let next := position.advance ((c :: cs).take length)
      match lexeme with
      | .blank => run fuel rest next stack read
      | .opening delimiter => run fuel rest next (⟨delimiter, position, read⟩ :: stack) []
      | .closing delimiter =>
        match stack with
        | [] => .error position
        | innermost :: outer =>
          if innermost.delimiter == delimiter then
            let tree := Located.group delimiter read.reverse innermost.opening position
            run fuel rest next outer (tree :: innermost.before)
          else .error position
      | other => run fuel rest next stack ((leaf other position).reverse ++ read)

/-- Reads a text whose first character stands at the given place. -/
def readFrom (position : Position) (cs : List Char) : Except Position (List Located) :=
  run cs.length cs position [] []

/-- Reads a text. A byte order mark in front is passed over. -/
def read (cs : List Char) : Except Position (List Located) :=
  match cs with
  | c :: rest =>
    if c.toNat == 0xfeff then readFrom (Position.start.step c) rest else readFrom .start cs
  | [] => readFrom .start cs

end ServiceGen.Token.Lexer
