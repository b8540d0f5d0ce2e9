import ServiceGen.Text.Blank
import ServiceGen.Text.LetterCase

/-!
The words of a name, and names in snake case. Words end at characters that are neither letters nor
numbers, between a lowercase and an uppercase letter, and before the last of several uppercase
letters if a lowercase letter follows: `HTTPServer2Go` has the words `HTTP`, `Server2` and `Go`.
-/
namespace ServiceGen.Naming

open Text

/-- The case of the letters seen last in a word. -/
inductive Run where
  | none
  | lower
  | upper
  deriving DecidableEq

/-- The case after one more character; numbers change nothing. -/
def Run.after (run : Run) (c : Char) : Run :=
  if LetterCase.isLowercase c then .lower
  else if LetterCase.isUppercase c then .upper
  else run

/-- The words of letters and numbers that follow a part of a word, the last character of which
comes first. -/
def humps (run : Run) (word : List Char) : List Char → List (List Char)
  | [] => []
  | [c] => [(c :: word).reverse]
  | c :: next :: rest =>
    if run.after c = .lower && LetterCase.isUppercase next then
      (c :: word).reverse :: humps .none [] (next :: rest)
    else if run = .upper && LetterCase.isUppercase c && LetterCase.isLowercase next then
      word.reverse :: humps .none [c] (next :: rest)
    else humps (run.after c) (c :: word) (next :: rest)

def words (name : String) : List (List Char) :=
  (pieces (!LetterCase.isAlphanumeric ·) name.toList).flatMap (humps .none [])

/-- A word in lowercase. A sigma at its end takes the form that it has there. -/
def lowercase : List Char → List Char
  | [] => []
  | [c] => if c == 'Σ' then ['ς'] else LetterCase.lower c
  | c :: rest => LetterCase.lower c ++ lowercase rest

def uppercase (word : List Char) : List Char := word.flatMap LetterCase.upper

/-- The words of a name in the given case, with underscores between them. -/
def joined (case : List Char → List Char) (name : String) : String :=
  String.ofList (List.intercalate ['_'] ((words name).map case))

/-- The name of a function or field: `change_address`. -/
def snake (name : String) : String := joined lowercase name

/-- The name of a constant: `CHANGE_ADDRESS`. -/
def shouty (name : String) : String := joined uppercase name

end ServiceGen.Naming
