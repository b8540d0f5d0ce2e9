import ServiceGen.Files.Tree
import ServiceGen.Settings.Variable
import ServiceGen.Text.LetterCase
import ServiceGen.Text.Lines

/-!
Files with variables for the environment, a name and a value on each line. A value may be quoted,
and may then go on over several lines; a number sign begins a comment where a value could begin or
end; and a name behind a dollar sign stands for the value of that variable. The first line that
cannot be read, or that is no text, ends the file.
-/
namespace ServiceGen.EnvironmentFile

open Text

/-- Where the reading of a line stands, as far as the end of the line depends on it. -/
inductive LineMode where
  | plain
  | blank
  | escape
  | single
  | singleEscape
  | double
  | doubleEscape
  deriving Repr, DecidableEq

/-- The mode behind a character that opens something, if it does. -/
def LineMode.opened (c : Char) : LineMode :=
  if c == '\\' then .escape
  else if c == '"' then .double
  else if c == '\'' then .single
  else .plain

def LineMode.after (mode : LineMode) (c : Char) : LineMode :=
  match mode with
  | .plain => if isBlank c && c != '\n' && c != '\r' then .blank else opened c
  | .blank => opened c
  | .escape => .plain
  | .single => if c == '\\' then .singleEscape else if c == '\'' then .plain else .single
  | .singleEscape => .single
  | .double => if c == '\\' then .doubleEscape else if c == '"' then .plain else .double
  | .doubleEscape => .double

/-- The part of a line in front of a comment, if there is one, and the mode at its end. A comment
stands behind a blank. -/
def beforeComment : LineMode → List Char → Option (List Char) × LineMode
  | mode, [] => (none, mode)
  | mode, c :: cs =>
    if mode = .blank && c == '#' then (some [], mode)
    else
      let (before, last) := beforeComment (mode.after c) cs
      (before.map (c :: ·), last)

/-- Cuts a text, or the bytes of one, behind every line feed. -/
def cutBehind {α : Type} [BEq α] (feed : α) (cs : List α) : List (List α) :=
  let pieces := pieces (· == feed) cs
  let ended := pieces.dropLast.map (· ++ [feed])
  match pieces.getLast? with
  | some [] => ended
  | some last => ended ++ [last]
  | none => ended

/-- A line without the line feed at its end, and without a carriage return before it. -/
def withoutFeed (line : List Char) : List Char :=
  if line.getLast? == some '\n' then dropReturn line.dropLast else line

/-- The lines, where a line goes on as long as a quotation is open. What is open at the end of the
text is no line. -/
def lines (begun : List Char) (mode : LineMode) : List (List Char) → List (List Char)
  | [] => []
  | piece :: rest =>
    let line := begun ++ piece
    if (trimStart line).head? == some '#' then lines [] .plain rest
    else
      match beforeComment mode piece with
      | (some before, _) => (begun ++ before) :: lines [] .plain rest
      | (none, .plain) => withoutFeed line :: lines [] .plain rest
      | (none, mode) => lines line mode rest

/-- What a value is in the middle of. -/
inductive Pending where
  | nothing
  | escape
  /-- The name of a variable. -/
  | name (name : List Char)
  /-- The name of a variable in braces. -/
  | braced (name : List Char)
  /-- Blanks behind the value: only a comment may follow. -/
  | ending
  deriving Repr, DecidableEq

inductive Quotation where
  | none
  | single
  | double
  deriving Repr, DecidableEq

structure Reading where
  value : List Char
  quotation : Quotation
  pending : Pending

namespace Reading

def push (reading : Reading) (c : Char) : Reading := { reading with value := reading.value ++ [c] }

/-- The value of a variable takes the place of its name. -/
def substitute (env : Environment) (reading : Reading) (name : List Char) : Reading :=
  let value := (env.entry? name).getD []
  { reading with value := reading.value ++ value, pending := .nothing }

def takeEscaped (reading : Reading) (c : Char) : Option Reading :=
  let reading := { reading with pending := .nothing }
  if ['\\', '\'', '"', '$', ' '].contains c then some (reading.push c)
  else if c == 'n' then some (reading.push '\n')
  else none

def takeInName (env : Environment) (reading : Reading) (name : List Char) (c : Char) : Reading :=
  if LetterCase.isAlphanumeric c then { reading with pending := .name (name ++ [c]) }
  else if c == '{' && name.isEmpty then { reading with pending := .braced [] }
  else
    let reading := reading.substitute env name
    if c == '$' then { reading with pending := .name [] } else reading.push c

/-- Takes in a character where nothing is pending. -/
def takePlain (reading : Reading) (c : Char) : Reading :=
  match reading.quotation with
  | .single => if c == '\'' then { reading with quotation := .none } else reading.push c
  | .double =>
    if c == '$' then { reading with pending := .name [] }
    else if c == '"' then { reading with quotation := .none }
    else if c == '\\' then { reading with pending := .escape }
    else reading.push c
  | .none =>
    if c == '$' then { reading with pending := .name [] }
    else if c == '\'' then { reading with quotation := .single }
    else if c == '"' then { reading with quotation := .double }
    else if c == '\\' then { reading with pending := .escape }
    else if c == ' ' || c == '\t' then { reading with pending := .ending }
    else reading.push c

/-- The value at the end of the text, unless something is open. -/
def result? (env : Environment) (reading : Reading) : Option (List Char) :=
  if reading.quotation ≠ .none then none
  else
    match reading.pending with
    | .braced _ => none
    | .name name => some (reading.substitute env name).value
    | _ => some reading.value

def finish? (env : Environment) (reading : Reading) : List Char → Option (List Char)
  | [] => reading.result? env
  | c :: cs =>
    match reading.pending with
    | .ending =>
      if c == ' ' || c == '\t' then finish? env reading cs
      else if c == '#' then reading.result? env
      else none
    | .escape => (reading.takeEscaped c).bind fun reading => finish? env reading cs
    | .name name => finish? env (reading.takeInName env name c) cs
    | .braced name =>
      if c == '}' then finish? env (reading.substitute env name) cs
      else finish? env { reading with pending := .braced (name ++ [c]) } cs
    | .nothing => finish? env (reading.takePlain c) cs

end Reading

/-- The value that a text stands for. -/
def value? (env : Environment) (cs : List Char) : Option (List Char) :=
  Reading.finish? env ⟨[], .none, .nothing⟩ cs

/-- The name of a variable, and what follows it. -/
def name? (cs : List Char) : Option (List Char × List Char) :=
  match cs with
  | [] => none
  | c :: _ =>
    if c.isAlpha || c == '_' then
      some (cs.span fun c => c.isAlphanum || c == '_' || c == '.')
    else none

/-- What follows an equals sign, with blanks around it. -/
def behindEquals? (cs : List Char) : Option (List Char) :=
  match trimStart cs with
  | '=' :: cs => some (trimStart cs)
  | _ => none

/-- The name and the text of the value on a line. The word `export` may go before the name. -/
def parts? (line : List Char) : Option (List Char × List Char) := do
  let (name, rest) ← name? line
  match behindEquals? rest with
  | some value => some (name, value)
  | none =>
    if name = "export".toList then
      let (name, rest) ← name? (trimStart rest)
      let value ← behindEquals? rest
      some (name, value)
    else none

/-- Whether there is nothing but a comment. -/
def isIdle (cs : List Char) : Bool := cs.isEmpty || cs.head? == some '#'

/-- The variable that a line sets; nothing if the line cannot be read. -/
def assignment? (env : Environment) (line : List Char) : Option (String × String) := do
  let (name, text) ← parts? line
  let value ← if isIdle text then some [] else value? env text
  return (String.ofList name, String.ofList value)

/-- An environment in which a variable has a value, unless it has one already. -/
def set (env : Environment) (assignment : String × String) : Environment := fun key =>
  env key <|> if key == assignment.1 then some assignment.2 else none

/-- The environment after the lines of a file. -/
def extend (env : Environment) : List (List Char) → Environment
  | [] => env
  | line :: rest =>
    let line := trim line
    if isIdle line then extend env rest
    else
      match assignment? env line with
      | some assignment => extend (set env assignment) rest
      | none => env

/-- The environment with the variables of a file. Those that are set keep their values. -/
def load (env : Environment) (text : String) : Environment :=
  extend env (lines [] .plain (cutBehind '\n' (withoutMark text.toList)))

/-- What the bytes of a file say, up to the first line that is no text. -/
def readable (content : ByteArray) : String :=
  let texts := (cutBehind 10 content.toList).map fun line => String.fromUTF8? ⟨line.toArray⟩
  String.join ((texts.takeWhile Option.isSome).filterMap id)

def fileName : String := ".env"

/-- What the file says that is in a directory or in the nearest one above that has it. -/
def find? (tree : FileTree) (directory : Files.Place) : Option String :=
  match tree.entry? (directory ++ [fileName]) with
  | some (.file content) => some (readable content)
  | _ => if directory = [] then none else find? tree directory.dropLast
termination_by directory.length
decreasing_by
  have := List.length_pos_iff.mpr ‹_›
  simp only [List.length_dropLast]
  omega

/-- The environment of a process, with the variables of the file that belongs to its directory. -/
def complete (env : Environment) (tree : FileTree) : Environment :=
  match find? tree tree.base with
  | some text => load env text
  | none => env

end ServiceGen.EnvironmentFile
