import ServiceGen.Grammar.Ahead

/-!
Readers: functions that take tokens from the front of an input and print what they took in its
standard spacing. A reader that fails names the place of the first token that does not fit; at the
end of a group that is its closing delimiter, and at the end of the text the text's beginning.

Tokens that a group holds beyond what was read from it do not stop the reading. The first such
token is remembered, and whoever reads a whole text has to refuse it in the end.
-/
namespace ServiceGen.Grammar

structure Input where
  /-- The tokens still to be read. -/
  rest : List Located
  /-- The place that stands for the end of these tokens. -/
  limit : Position
  /-- The first token that was left over in a group. -/
  stray : Option Position
  /-- What has been printed, last token first. -/
  printed : List Token

def Input.place (input : Input) : Position :=
  (input.rest.head?.map Located.position).getD input.limit

/-- A reader of values, which may fail at a place. -/
abbrev Reader (α : Type) : Type := StateT Input (Except Position) α

namespace Reader

variable {α σ : Type}

def failAt (position : Position) : Reader α := fun _ => .error position

def fail : Reader α := fun input => .error input.place

def ahead : Reader (List Located) := fun input => .ok (input.rest, input)

def here : Reader Position := fun input => .ok (input.place, input)

def atEnd : Reader Bool := fun input => .ok (input.rest.isEmpty, input)

def emit (tokens : List Token) : Reader Unit := fun input =>
  .ok ((), { input with printed := tokens.reverse ++ input.printed })

/-- Takes the given number of tokens without printing them. -/
def advance (count : Nat) : Reader Unit := fun input =>
  .ok ((), { input with rest := input.rest.drop count })

/-- Runs a reader and gives what it prints to the caller, instead of printing it. -/
def printing (reader : Reader α) : Reader (α × List Token) := fun input =>
  match reader { input with printed := [] } with
  | .ok (a, after) => .ok ((a, after.printed.reverse), { after with printed := input.printed })
  | .error position => .error position

/-- Runs a reader if it succeeds, and otherwise does nothing. -/
def attempt (reader : Reader α) : Reader (Option α) := fun input =>
  match reader input with
  | .ok (a, after) => .ok (some a, after)
  | .error _ => .ok (none, input)

/-- Runs a reader. If its answer asks for it, what was taken is printed as it stands in the text,
with its marks joined as they were. -/
def copyingIf (asks : α → Bool) (reader : Reader α) : Reader α := fun input =>
  match reader input with
  | .error position => .error position
  | .ok (a, after) =>
    if asks a then
      let taken := input.rest.take (input.rest.length - after.rest.length)
      .ok (a, { after with printed := (Located.tokens taken).reverse ++ input.printed })
    else .ok (a, after)

/-- Runs a reader and prints what it took as it stands in the text. -/
def copying (reader : Reader α) : Reader α := copyingIf (fun _ => true) reader

/-- Fails where the given tokens begin, which lie ahead. -/
def failBefore (tokens : List Located) : Reader α := fun input =>
  .error ({ input with rest := tokens } : Input).place

/-- Looks at what a reader would answer and what it would leave, without taking anything. -/
def peeking (reader : Reader α) : Reader (α × List Located) := fun input =>
  match reader input with
  | .error position => .error position
  | .ok (a, after) => .ok ((a, after.rest), input)

/-- Takes the characters of an operator. -/
def op (operator : String) : Reader Unit := do
  if Ahead.isOp operator (← ahead) then
    advance operator.length
    emit (Token.ofOperator operator.toList)
  else fail

/-- Takes an operator if it comes next, and tells whether it did. -/
def op? (operator : String) : Reader Bool := do
  if Ahead.isOp operator (← ahead) then
    op operator
    pure true
  else pure false

/-- Takes whatever word comes next. -/
def anyIdent : Reader String := fun input =>
  match input.rest with
  | .ident name _ :: rest =>
    .ok (name, { input with rest := rest, printed := .ident name :: input.printed })
  | _ => .error input.place

def ident : Reader String := do
  if Ahead.isIdent (← ahead) then anyIdent else fail

def word (text : String) : Reader Unit := do
  if Ahead.isWord text (← ahead) then
    let _ ← anyIdent
  else fail

/-- Takes a word if it comes next, and tells whether it did. -/
def word? (text : String) : Reader Bool := do
  if Ahead.isWord text (← ahead) then
    word text
    pure true
  else pure false

def lifetime : Reader Unit := do
  match ← ahead with
  | .punct '\'' true _ :: .ident name _ :: _ =>
    advance 2
    emit [.punct '\'' true, .ident name]
  | _ => fail

def lifetime? : Reader Unit := do
  if Ahead.isLifetime (← ahead) then lifetime

/-- Takes a literal. The sign of a negative number is printed apart from it. -/
def literal : Reader Unit := do
  match ← ahead with
  | .literal text _ :: _ =>
    advance 1
    emit [.literal text]
  | .ident name _ :: _ =>
    if name == "true" || name == "false" then
      advance 1
      emit [.ident name]
    else fail
  | .punct '-' _ _ :: .literal text _ :: _ =>
    if Ahead.isNumber text then
      advance 2
      emit [.punct '-' false, .literal text]
    else fail
  | _ => fail

def group (delimiter : Delimiter) (body : Reader α) : Reader α := fun input =>
  match input.rest with
  | .group d inner _ closing :: rest =>
    if d == delimiter then
      match body ⟨inner, closing, input.stray, []⟩ with
      | .error position => .error position
      | .ok (a, after) =>
        .ok (a, ⟨rest, input.limit, after.stray <|> after.rest.head?.map Located.position,
          .group delimiter after.printed.reverse :: input.printed⟩)
    else .error input.place
  | _ => .error input.place

/-- Takes a group as it is, and tells its delimiter. -/
def rawGroup : Reader Delimiter := fun input =>
  match input.rest with
  | .group d inner _ _ :: rest =>
    .ok (d, { input with
      rest := rest, printed := .group d (Located.tokens inner) :: input.printed })
  | _ => .error input.place

/-- Takes all tokens that are left, as they are. -/
def remaining : Reader Unit := fun input =>
  .ok ((), { input with
    rest := [], printed := (Located.tokens input.rest).reverse ++ input.printed })

/-- What a round of a repetition says: whether there is another one. -/
inductive Round (σ : Type) where
  | again (state : σ)
  | done (state : σ)

def rounds (round : σ → Reader (Round σ)) : Nat → σ → Reader σ
  | 0, state => pure state
  | count + 1, state => do
    match ← round state with
    | .done state => pure state
    | .again state => rounds round count state

/-- Repeats a round until it says to stop. A round that wants another one has taken a token, so
their number is bounded by that of the tokens. -/
def repeating (initial : σ) (round : σ → Reader (Round σ)) : Reader σ := fun input =>
  rounds round (input.rest.length + 1) initial input

/-- Items with a separator between them, up to a place where the list stops. The separator may also
stand behind the last item. -/
def separated (stops : List Located → Bool) (separator : String) (item : Reader Unit) :
    Reader Unit :=
  repeating () fun _ => do
    if stops (← ahead) then return .done ()
    item
    if stops (← ahead) then return .done ()
    op separator
    return .again ()

/-- Items between commas, up to the end of the group. -/
def commaSeparated (item : Reader Unit) : Reader Unit := separated List.isEmpty "," item

/-- Items as long as their separator follows, up to a place where the list stops. -/
def chained (stops : List Located → Bool) (separator : String) (item : Reader Unit) :
    Reader Unit :=
  repeating () fun _ => do
    if stops (← ahead) then return .done ()
    item
    if ← op? separator then return .again () else return .done ()

/-- An operator with the items that it announces, if it comes next. An operator without items is
not printed. Answers whether it came. -/
def announced (operator : String) (items : Reader Unit) : Reader Bool := do
  if !Ahead.isOp operator (← ahead) then return false
  let (_, mark) ← printing (op operator)
  let (_, tokens) ← printing items
  if !tokens.isEmpty then emit (mark ++ tokens)
  return true

/-- Items up to the end of the group. -/
def untilEnd (item : Reader α) : Reader (List α) := do
  let items ← repeating [] fun items => do
    if ← atEnd then return .done items
    let a ← item
    return .again (a :: items)
  pure items.reverse

/-- Reads all of a text, in which nothing may be left over, and answers the value with what was
printed. -/
def readAll (reader : Reader α) (tokens : List Located) : Except Position (α × List Token) :=
  match reader ⟨tokens, .start, none, []⟩ with
  | .error position => .error position
  | .ok (a, after) =>
    match after.stray <|> after.rest.head?.map Located.position with
    | some position => .error position
    | none => .ok (a, after.printed.reverse)

end Reader

end ServiceGen.Grammar
