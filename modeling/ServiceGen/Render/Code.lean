import ServiceGen.Text.Blank
import ServiceGen.Token.Basic
import ServiceGen.Token.Quotation

/-!
Writing code. Fixed code is written as a text with a blank between its tokens, and what varies is
put between such texts. Groups are written by their own functions, so that they always match.
-/
namespace ServiceGen.Render

abbrev Code := List Token

/-- The tokens of a word: a name, a number or an operator. -/
def word (cs : List Char) : Code :=
  match cs with
  | [] => []
  | c :: _ =>
    if c.isDigit then [.literal (String.ofList cs)]
    else if c.isAlpha || c == '_' then [.ident (String.ofList cs)]
    else Token.ofOperator cs

/-- Fixed code: words with blanks between them. -/
def code (text : String) : Code := (Text.pieces (· == ' ') text.toList).flatMap word

def name (text : String) : Code := [.ident text]

def quoted (text : String) : Code := [.literal (Token.Quotation.ofText text)]

def parens (inner : Code) : Code := [.group .parenthesis inner]

def brackets (inner : Code) : Code := [.group .bracket inner]

def braces (inner : Code) : Code := [.group .brace inner]

def angles (inner : Code) : Code := code "<" ++ inner ++ code ">"

def commas (pieces : List Code) : Code := List.intercalate (code ",") pieces

/-- The documentation of what follows. -/
def documented (text : String) : Code := code "#" ++ brackets (code "doc =" ++ quoted text)

end ServiceGen.Render
