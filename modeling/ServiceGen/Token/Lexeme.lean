import ServiceGen.Text.Blank
import ServiceGen.Token.Basic
import ServiceGen.Token.Literal

/-!
Lexemes: what can stand at the beginning of a text, with the number of characters that it takes.
Comments are blanks unless they document something. Documentation is a comment that opens with
`///`, `//!`, `/**` or `/*!`; the inner forms, with the exclamation mark, speak of what they stand
in.
-/
namespace ServiceGen.Token

open Text

inductive Lexeme where
  /-- A blank or a plain comment. -/
  | blank
  | documentation (text : List Char) (inner : Bool)
  | opening (delimiter : Delimiter)
  | closing (delimiter : Delimiter)
  | word (name : List Char)
  | mark (char : Char) (joint : Bool)
  | literal (text : List Char)
  deriving Repr

namespace Lexeme

/-- The length of a block comment, in which comments nest. The depth counts the comments that are
open. -/
def blockLength (depth : Nat) : List Char → Option Nat
  | '/' :: '*' :: cs => (blockLength (depth + 1) cs).map (· + 2)
  | '*' :: '/' :: cs => if depth ≤ 1 then some 2 else (blockLength (depth - 1) cs).map (· + 2)
  | _ :: cs => (blockLength depth cs).map (· + 1)
  | [] => none

/-- The rest of a line, without its end. -/
def restOfLine : List Char → List Char
  | [] => []
  | '\n' :: _ => []
  | '\r' :: '\n' :: _ => []
  | c :: cs => c :: restOfLine cs

/-- Whether every carriage return is part of a line end. -/
def hasWholeLineEnds : List Char → Bool
  | [] => true
  | '\r' :: '\n' :: cs => hasWholeLineEnds cs
  | c :: cs => c != '\r' && hasWholeLineEnds cs

/-- A documentation lexeme of some length, unless a carriage return stands alone in it. -/
def documented (text : List Char) (inner : Bool) (length : Nat) : Option (Lexeme × Nat) :=
  if hasWholeLineEnds text then some (.documentation text inner, length) else none

/-- A comment to the end of its line, behind its two slashes. -/
def lineComment (cs : List Char) : Option (Lexeme × Nat) :=
  let plain := some (blank, (restOfLine cs).length + 2)
  match cs with
  | '/' :: '/' :: _ => plain
  | '/' :: body => let text := restOfLine body; documented text false (text.length + 3)
  | '!' :: body => let text := restOfLine body; documented text true (text.length + 3)
  | _ => plain

/-- A comment between `/*` and `*/`, from its first character. -/
def blockComment (cs : List Char) : Option (Lexeme × Nat) :=
  match blockLength 0 cs with
  | none => none
  | some length =>
    let text := (cs.take (length - 2)).drop 3
    match cs.drop 2 with
    | '*' :: '/' :: _ => some (blank, 4)
    | '*' :: '*' :: _ => some (blank, length)
    | '*' :: _ => documented text false length
    | '!' :: _ => documented text true length
    | _ => some (blank, length)

/-- The characters of operators, of which the apostrophe begins a lifetime. -/
def isMark (c : Char) : Bool := "~!@#$%^&*-=+|;:,<.>/?'".toList.contains c

/-- Whether an operator character stands at the beginning of a text. The slash of a comment is
none. -/
def beginsWithMark : List Char → Bool
  | '/' :: '/' :: _ => false
  | '/' :: '*' :: _ => false
  | c :: _ => isMark c
  | [] => false

/-- The names that may not be written raw. -/
def isNeverRaw (name : List Char) : Bool :=
  ["_", "super", "self", "Self", "crate"].contains (String.ofList name)

/-- The length of a word: an identifier, or a raw one behind `r#`. -/
def wordLength (cs : List Char) : Option Nat :=
  match cs with
  | 'r' :: '#' :: body =>
    let length := Literal.identLength body
    if length == 0 || isNeverRaw (body.take length) then none else some (length + 2)
  | _ =>
    let length := Literal.identLength cs
    if length == 0 then none else some length

/-- The beginnings of quoted literals, which no word may have. -/
def quotedOpenings : List String :=
  ["r\"", "r#\"", "r##", "b\"", "b'", "br\"", "br#", "c\"", "cr\"", "cr#"]

def beginsLikeQuoted (cs : List Char) : Bool :=
  quotedOpenings.any fun opening => opening.toList.isPrefixOf cs

/-- A word, unless it looks like a quoted literal. -/
def word? (cs : List Char) : Option (Lexeme × Nat) :=
  if beginsLikeQuoted cs then none
  else (wordLength cs).map fun length => (word (cs.take length), length)

/-- An operator character. An apostrophe needs the word of a lifetime behind it, which is not
closed like a character. -/
def mark? (cs : List Char) : Option (Lexeme × Nat) :=
  match cs with
  | '\'' :: body =>
    match wordLength body with
    | none => none
    | some length =>
      let after := (body.drop length).head?
      if after == some '\'' || (after == some '#' && !(['r', '#'].isPrefixOf body)) then none
      else some (mark '\'' true, 1)
  | c :: rest => if beginsWithMark cs then some (mark c (beginsWithMark rest), 1) else none
  | [] => none

/-- A literal, an operator character or a word. -/
def leaf? (cs : List Char) : Option (Lexeme × Nat) :=
  match Literal.length? cs with
  | some length => some (literal (cs.take length), length)
  | none =>
    match mark? cs with
    | some lexeme => some lexeme
    | none => word? cs

/-- The text that stands for a literal which could not be made. -/
def placeholder : List Char := "(/*ERROR*/)".toList

/-- Whether the lexer passes over the character. Beside white space these are the marks that set
the direction of writing. -/
def isSkipped (c : Char) : Bool := isBlank c || c.toNat == 0x200e || c.toNat == 0x200f

/-- The lexeme at the beginning of a text, if there is one. -/
def first? (cs : List Char) : Option (Lexeme × Nat) :=
  match cs with
  | [] => none
  | '/' :: '/' :: body => lineComment body
  | '/' :: '*' :: _ => blockComment cs
  | '(' :: _ =>
    if placeholder.isPrefixOf cs then some (literal placeholder, placeholder.length)
    else some (opening .parenthesis, 1)
  | '[' :: _ => some (opening .bracket, 1)
  | '{' :: _ => some (opening .brace, 1)
  | ')' :: _ => some (closing .parenthesis, 1)
  | ']' :: _ => some (closing .bracket, 1)
  | '}' :: _ => some (closing .brace, 1)
  | c :: _ => if isSkipped c then some (blank, 1) else leaf? cs

end Lexeme

end ServiceGen.Token
