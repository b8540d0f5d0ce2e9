/-!
Documents of JSON, and their text with one entry a line. Empty lists and records have no line of
their own.
-/
namespace ServiceGen

inductive Document where
  | null
  | number (value : Nat)
  | string (text : String)
  | list (entries : List Document)
  | record (fields : List (String × Document))
  deriving Repr, Inhabited

namespace Document

def ofOption {α : Type} (f : α → Document) : Option α → Document
  | none => .null
  | some a => f a

def strings (texts : List String) : Document := .list (texts.map .string)

def hexByte (n : Nat) : List Char := [Nat.digitChar (n / 16), Nat.digitChar (n % 16)]

/-- One character between quotes. Only what cannot stand there is escaped. -/
def escape (c : Char) : List Char :=
  if c == '"' then ['\\', '"']
  else if c == '\\' then ['\\', '\\']
  else if c == '\n' then ['\\', 'n']
  else if c == '\r' then ['\\', 'r']
  else if c == '\t' then ['\\', 't']
  else if c.toNat == 8 then ['\\', 'b']
  else if c.toNat == 12 then ['\\', 'f']
  else if c.toNat < 32 then ['\\', 'u', '0', '0'] ++ hexByte c.toNat
  else [c]

def quote (text : String) : String := String.ofList ('"' :: text.toList.flatMap escape ++ ['"'])

/-- A new line with two blanks for every level. -/
def newLine (level : Nat) : String := "\n" ++ String.ofList (List.replicate (2 * level) ' ')

/-- Entries between brackets, each on its line. -/
def block (opening closing : String) (level : Nat) (entries : List String) : String :=
  if entries.isEmpty then opening ++ closing
  else
    let next := newLine (level + 1)
    opening ++ next ++ String.intercalate ("," ++ next) entries ++ newLine level ++ closing

mutual

def textAt (level : Nat) : Document → String
  | .null => "null"
  | .number value => toString value
  | .string text => quote text
  | .list entries => block "[" "]" level (entryTexts (level + 1) entries)
  | .record fields => block "\x7b" "\x7d" level (fieldTexts (level + 1) fields)

def entryTexts (level : Nat) : List Document → List String
  | [] => []
  | entry :: rest => textAt level entry :: entryTexts level rest

def fieldTexts (level : Nat) : List (String × Document) → List String
  | [] => []
  | (name, value) :: rest => (quote name ++ ": " ++ textAt level value) :: fieldTexts level rest

end

def text (document : Document) : String := document.textAt 0

end Document

end ServiceGen
