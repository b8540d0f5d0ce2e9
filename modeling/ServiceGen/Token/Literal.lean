import ServiceGen.Text.Identifier

/-!
The literals of the interface language. Each function here looks at the beginning of a text and
answers how many characters the literal there takes, or that none stands there. Answering with a
length keeps the text whole: the literal is what was written, to the character.
-/
namespace ServiceGen.Token.Literal

open Text

/-- The length of the identifier at the beginning of a text, which may be none. -/
def identLength : List Char → Nat
  | [] => 0
  | c :: cs => if Identifier.isStart c then 1 + (cs.takeWhile Identifier.isContinue).length else 0

/-- Adds the suffix that may stand right behind a literal. -/
def withSuffix (length : Nat) (cs : List Char) : Nat := length + identLength (cs.drop length)

def isHexDigit (c : Char) : Bool :=
  c.isDigit || ('a' ≤ c && c ≤ 'f') || ('A' ≤ c && c ≤ 'F')

def hexValue (c : Char) : Nat :=
  if c.isDigit then c.toNat - '0'.toNat
  else if 'a' ≤ c && c ≤ 'f' then c.toNat - 'a'.toNat + 10
  else c.toNat - 'A'.toNat + 10

/-- What sets the kinds of quoted text apart from one another. -/
inductive Quotation where
  | text
  | bytes
  | terminated
  deriving DecidableEq

/-- The digits of an escape `\u{…}` up to its closing brace: the value so far, how many digits it
has, and the characters passed. At most six digits count, and underscores only behind the first. -/
def codePoint (value digits passed : Nat) : List Char → Option (Nat × Nat)
  | [] => none
  | c :: cs =>
    if isHexDigit c then
      if digits == 6 then none else codePoint (value * 16 + hexValue c) (digits + 1) (passed + 1) cs
    else if c == '_' && digits != 0 then codePoint value digits (passed + 1) cs
    else if c == '}' && digits != 0 then some (value, passed + 1)
    else none

/-- Whether a number is that of a character. -/
def isScalar (value : Nat) : Bool := value < 0xd800 || (0xdfff < value && value < 0x110000)

/-- The blanks that an escaped line end swallows, the line end among them. A carriage return must
be part of a line end, and something has to follow. -/
def swallowed : List Char → Option Nat
  | [] => none
  | '\r' :: '\n' :: cs => (swallowed cs).map (· + 2)
  | '\r' :: _ => none
  | c :: cs => if c == ' ' || c == '\t' || c == '\n' then (swallowed cs).map (· + 1) else some 0

def escapeLength (kind : Quotation) : List Char → Option Nat
  | 'x' :: a :: b :: _ =>
    match kind with
    | .text => if '0' ≤ a && a ≤ '7' && isHexDigit b then some 3 else none
    | .bytes => if isHexDigit a && isHexDigit b then some 3 else none
    | .terminated =>
      if isHexDigit a && isHexDigit b && !(a == '0' && b == '0') then some 3 else none
  | 'u' :: '{' :: cs =>
    match kind, codePoint 0 0 0 cs with
    | .bytes, _ => none
    | _, none => none
    | .text, some (value, length) => if isScalar value then some (length + 2) else none
    | .terminated, some (value, length) =>
      if isScalar value && value != 0 then some (length + 2) else none
  | '0' :: _ => if kind == .terminated then none else some 1
  | '\n' :: cs => swallowed ('\n' :: cs)
  | '\r' :: cs => swallowed ('\r' :: cs)
  | c :: _ =>
    if c == 'n' || c == 'r' || c == 't' || c == '\\' || c == '\'' || c == '"' then some 1 else none
  | [] => none

/-- Whether a character may stand unescaped in a quoted text of the kind. -/
def isPlain (kind : Quotation) (c : Char) : Bool :=
  match kind with
  | .text => true
  | .bytes => c.toNat < 0x80
  | .terminated => c.toNat != 0

/-- The length of one character of a quoted text, which may be an escape. -/
def unitLength (kind : Quotation) : List Char → Option Nat
  | [] => none
  | '\r' :: '\n' :: _ => some 2
  | '\r' :: _ => none
  | '\\' :: cs => (escapeLength kind cs).map (· + 1)
  | c :: _ => if isPlain kind c then some 1 else none

/-- The length of a quoted text behind its opening quote, its closing quote included. -/
def quotedLength (kind : Quotation) : List Char → Option Nat
  | [] => none
  | '"' :: _ => some 1
  | c :: cs =>
    match unitLength kind (c :: cs) with
    | some (n + 1) => (quotedLength kind (cs.drop n)).map (· + (n + 1))
    | _ => none
termination_by cs => cs.length
decreasing_by simp only [List.length_drop, List.length_cons]; omega

/-- The length of a raw text behind its opening quote, up to a quote with as many hash signs as
stood in front. -/
def rawLength (kind : Quotation) (hashes : Nat) : List Char → Option Nat
  | [] => none
  | '"' :: cs =>
    if cs.take hashes == List.replicate hashes '#' then some (hashes + 1)
    else (rawLength kind hashes cs).map (· + 1)
  | '\r' :: '\n' :: cs => (rawLength kind hashes cs).map (· + 2)
  | '\r' :: _ => none
  | c :: cs => if isPlain kind c then (rawLength kind hashes cs).map (· + 1) else none

/-- The length of a raw text behind the letter that announces it: hash signs, a quote, the text and
its end. There may be at most 255 hash signs. -/
def rawTextLength (kind : Quotation) (cs : List Char) : Option Nat :=
  let hashes := (cs.takeWhile (· == '#')).length
  match cs.drop hashes with
  | '"' :: body =>
    if hashes ≤ 255 then (rawLength kind hashes body).map (· + (hashes + 1)) else none
  | _ => none

def characterLength (kind : Quotation) : List Char → Option Nat
  | '\\' :: cs =>
    match cs with
    | '\n' :: _ => none
    | '\r' :: _ => none
    | _ =>
      match escapeLength kind cs with
      | some n => if (cs.drop n).head? == some '\'' then some (n + 2) else none
      | none => none
  | c :: '\'' :: _ => if isPlain kind c then some 2 else none
  | _ => none

/-- The length of a quoted literal: a text, a text of bytes, a terminated text, each also raw, a
byte or a character. -/
def quotedLiteralLength : List Char → Option Nat
  | '"' :: cs => (quotedLength .text cs).map (· + 1)
  | 'r' :: cs => (rawTextLength .text cs).map (· + 1)
  | 'b' :: '"' :: cs => (quotedLength .bytes cs).map (· + 2)
  | 'b' :: 'r' :: cs => (rawTextLength .bytes cs).map (· + 2)
  | 'c' :: '"' :: cs => (quotedLength .terminated cs).map (· + 2)
  | 'c' :: 'r' :: cs => (rawTextLength .terminated cs).map (· + 2)
  | 'b' :: '\'' :: cs => (characterLength .bytes cs).map (· + 2)
  | '\'' :: cs => (characterLength .text cs).map (· + 1)
  | _ => none

def isDigitOrLine (c : Char) : Bool := c.isDigit || c == '_'

/-- The length of an exponent behind its letter, if it has a digit. -/
def exponentLength (signed valued : Bool) : List Char → Option Nat
  | [] => if valued then some 0 else none
  | c :: cs =>
    if c == '+' || c == '-' then
      if valued then some 0
      else if signed then none
      else (exponentLength true valued cs).map (· + 1)
    else if c.isDigit then (exponentLength signed true cs).map (· + 1)
    else if c == '_' then (exponentLength signed valued cs).map (· + 1)
    else if valued then some 0 else none

def isExponentLetter (c : Char) : Bool := c == 'e' || c == 'E'

/-- The length of a number with a fractional point or an exponent, without its suffix. A point
before another point or an identifier does not belong to the number. -/
def decimalLength (cs : List Char) : Option Nat :=
  let whole := (cs.takeWhile isDigitOrLine).length
  match cs.drop whole with
  | '.' :: rest =>
    if rest.head?.any (fun c => c == '.' || Identifier.isStart c) then none
    else
      let upToPoint := whole + 1 + (rest.takeWhile isDigitOrLine).length
      match cs.drop upToPoint with
      | c :: power =>
        if isExponentLetter c then
          some (upToPoint + ((exponentLength false false power).map (· + 1)).getD 0)
        else some upToPoint
      | [] => some upToPoint
  | c :: power =>
    if isExponentLetter c then (exponentLength false false power).map (· + (whole + 1)) else none
  | [] => none

/-- The length of the digits of an integer in a base. A digit beyond the base spoils the number,
where a letter beyond it ends the digits. The first digit may be an underscore only after the mark
of a base. -/
def digitsLength (base : Nat) (empty : Bool) : List Char → Option Nat
  | [] => if empty then none else some 0
  | c :: cs =>
    if c == '_' then
      if empty && base == 10 then none else (digitsLength base empty cs).map (· + 1)
    else if c.isDigit then
      if hexValue c < base then (digitsLength base false cs).map (· + 1) else none
    else if isHexDigit c && hexValue c < base then (digitsLength base false cs).map (· + 1)
    else if empty then none else some 0

/-- The length of an integer without its suffix. -/
def integerLength : List Char → Option Nat
  | '0' :: 'x' :: cs => (digitsLength 16 true cs).map (· + 2)
  | '0' :: 'o' :: cs => (digitsLength 8 true cs).map (· + 2)
  | '0' :: 'b' :: cs => (digitsLength 2 true cs).map (· + 2)
  | cs => digitsLength 10 true cs

/-- A number with its suffix, which has to end where an identifier would. -/
def endsAsWord (length : Nat) (cs : List Char) : Option Nat :=
  let total := withSuffix length cs
  if (cs.drop total).head?.any Identifier.isContinue then none else some total

def numberLength (cs : List Char) : Option Nat :=
  if cs.head?.any Char.isDigit then
    match (decimalLength cs).bind (endsAsWord · cs) with
    | some length => some length
    | none => (integerLength cs).bind (endsAsWord · cs)
  else none

/-- The length of the literal at the beginning of a text. -/
def length? (cs : List Char) : Option Nat :=
  match quotedLiteralLength cs with
  | some length => some (withSuffix length cs)
  | none => numberLength cs

/-- The value of digits in a base, among which underscores do not count. -/
def digitsValue (base : Nat) (digits : List Char) : Nat :=
  (digits.filter (· != '_')).foldl (fun value c => value * base + hexValue c) 0

/-- The greatest number of a field. -/
def greatestIndex : Nat := 0xffffffff

/-- The value of an integer that has no suffix. -/
def plainInteger? (cs : List Char) : Option Nat :=
  if decimalLength cs == none && integerLength cs == some cs.length then
    match cs with
    | '0' :: 'x' :: digits => some (digitsValue 16 digits)
    | '0' :: 'o' :: digits => some (digitsValue 8 digits)
    | '0' :: 'b' :: digits => some (digitsValue 2 digits)
    | digits => some (digitsValue 10 digits)
  else none

end ServiceGen.Token.Literal
