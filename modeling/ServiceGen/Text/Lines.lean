import ServiceGen.Text.Blank

/-!
Lines of a text. A line ends at a line feed, and a carriage return right before that line feed
belongs to the end of the line. What follows the last line feed is a line only if it is not empty.
-/
namespace ServiceGen.Text

/-- A line without the carriage return that its end may have brought along. -/
def dropReturn (line : List Char) : List Char :=
  if line.getLast? == some '\r' then line.dropLast else line

/-- The lines that the pieces between line feeds stand for. Only the last piece was not ended by a
line feed. -/
def linesOfPieces : List (List Char) → List (List Char)
  | [] => []
  | [last] => if last.isEmpty then [] else [last]
  | piece :: next :: rest => dropReturn piece :: linesOfPieces (next :: rest)

/-- The lines of a text, without their ends. -/
def lines (cs : List Char) : List (List Char) := linesOfPieces (pieces (· == '\n') cs)

/-- A text without the byte order mark that may stand in front. -/
def withoutMark : List Char → List Char
  | [] => []
  | c :: rest => if c.toNat == 0xfeff then rest else c :: rest

end ServiceGen.Text
