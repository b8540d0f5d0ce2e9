import ServiceGen.Text.Quoted
import ServiceGen.Token.Literal

/-!
Text literals and the texts they stand for. `ofText` writes a text as a literal, and `value?` reads
the text of a literal back, whether plain or raw.
-/
namespace ServiceGen.Token.Quotation

open Text Literal

/-- Whether a character would be read as part of an octal number behind a zero. -/
def isOctal (c : Char) : Bool := '0' ≤ c && c ≤ '7'

/-- The characters of a literal between its quotes. A zero before an octal digit is written by its
number, so that the two are not taken for one escape. -/
def escaped : List Char → List Char
  | [] => []
  | c :: cs =>
    if c == Char.ofNat 0 && cs.head?.any isOctal then "\\x00".toList ++ escaped cs
    else Quoted.escape c ++ escaped cs

def ofText (text : String) : String := String.ofList ('"' :: escaped text.toList ++ ['"'])

def simpleEscape (c : Char) : Option Char :=
  if c == 'n' then some '\n'
  else if c == 'r' then some '\r'
  else if c == 't' then some '\t'
  else if c == '0' then some (Char.ofNat 0)
  else if c == '\\' || c == '\'' || c == '"' then some c
  else none

/-- Whether an escaped line end swallows the character. -/
def isSwallowed (c : Char) : Bool := c == ' ' || c == '\t' || c == '\n' || c == '\r'

/-- The text of a plain literal behind its opening quote, up to its closing quote. An escaped line
end stands for nothing, with the blanks after it, and a line end is one line feed. -/
def unescape : List Char → Option (List Char)
  | [] => none
  | '"' :: _ => some []
  | '\r' :: '\n' :: cs => (unescape cs).map ('\n' :: ·)
  | '\\' :: 'x' :: a :: b :: cs =>
    (unescape cs).map (Char.ofNat (hexValue a * 16 + hexValue b) :: ·)
  | '\\' :: 'u' :: '{' :: cs =>
    match codePoint 0 0 0 cs with
    | some (value, n) => (unescape (cs.drop n)).map (Char.ofNat value :: ·)
    | none => none
  | '\\' :: '\n' :: cs => unescape (cs.dropWhile isSwallowed)
  | '\\' :: '\r' :: cs => unescape (cs.dropWhile isSwallowed)
  | '\\' :: c :: cs =>
    match simpleEscape c with
    | some e => (unescape cs).map (e :: ·)
    | none => none
  | c :: cs => (unescape cs).map (c :: ·)
termination_by cs => cs.length
decreasing_by
  all_goals simp only [List.length_cons, List.length_drop]
  all_goals have hle := (List.dropWhile_sublist isSwallowed (l := cs)).length_le
  all_goals omega

/-- The text of a raw literal behind its opening quote. -/
def unraw (hashes : Nat) : List Char → Option (List Char)
  | [] => none
  | '"' :: cs =>
    if cs.take hashes == List.replicate hashes '#' then some []
    else (unraw hashes cs).map ('"' :: ·)
  | c :: cs => (unraw hashes cs).map (c :: ·)

/-- The text that a literal stands for, if it is a literal of text. -/
def value? (literal : String) : Option String :=
  match literal.toList with
  | '"' :: cs => (unescape cs).map String.ofList
  | 'r' :: cs =>
    let hashes := (cs.takeWhile (· == '#')).length
    (unraw hashes (cs.drop (hashes + 1))).map String.ofList
  | _ => none

end ServiceGen.Token.Quotation
