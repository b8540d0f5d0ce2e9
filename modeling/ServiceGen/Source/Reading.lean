import ServiceGen.Grammar.Closed
import ServiceGen.Text.Lines

/-!
Reading a file as a source unit. A byte order mark in front is passed over, and so is a first line
that tells the system how to run the file.
-/
namespace ServiceGen

open Grammar in
def Grammar.file (g : Grammar) (path : String) : Reader (List Item) := do
  let _ ← Attribute.inner g
  let items ← Reader.untilEnd (Item.read g path)
  return items.filterMap id

namespace SourceUnit

/-- A text from its first token on. Every round takes at least one character. -/
def skipBlanks : Nat → List Char → List Char
  | 0, cs => cs
  | fuel + 1, cs =>
    match Token.Lexeme.first? cs with
    | some (.blank, length) => skipBlanks fuel (cs.drop length)
    | _ => cs

/-- A text without a first line that begins with `#!`. The line end stays, and so does the line if
an attribute begins there. -/
def withoutCommand (cs : List Char) : List Char :=
  match cs with
  | '#' :: '!' :: rest =>
    if (skipBlanks rest.length rest).head? == some '[' then cs else cs.dropWhile (· != '\n')
  | _ => cs

/-- Reads a text. A text that cannot be read answers the place where it goes wrong. -/
def ofText (package path text : String) : Except Position SourceUnit := do
  let cs := withoutCommand (Text.withoutMark text.toList)
  let (items, _) ← Grammar.readText cs fun g => g.file path
  return { package, path, items }

end SourceUnit

end ServiceGen
