import ServiceGen.Text.Printable

/-!
Quoted text for messages: the text between double quotes, with quotes, backslashes, line ends and
every character that cannot be seen written as an escape.
-/
namespace ServiceGen.Text.Quoted

/-- The number of a character in lowercase hexadecimal, in the braces of an escape. -/
def byNumber (c : Char) : List Char :=
  ['\\', 'u', '{'] ++ Nat.toDigits 16 c.toNat ++ ['}']

def escape (c : Char) : List Char :=
  if c == '"' then ['\\', '"']
  else if c == '\\' then ['\\', '\\']
  else if c == '\n' then ['\\', 'n']
  else if c == '\r' then ['\\', 'r']
  else if c == '\t' then ['\\', 't']
  else if c == Char.ofNat 0 then ['\\', '0']
  else if Printable.isReadable c then [c]
  else byNumber c

def quote (text : String) : String :=
  String.ofList ('"' :: text.toList.flatMap escape ++ ['"'])

end ServiceGen.Text.Quoted
