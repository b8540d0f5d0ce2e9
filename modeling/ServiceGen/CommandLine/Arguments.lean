import ServiceGen.Settings.Basic

/-!
The arguments of the command line. An argument is a pattern, a switch, or an option with a value,
which is the next argument or stands behind an equals sign. Behind two dashes alone, everything is
a pattern. Nothing may be said twice, and of an option that is not given the environment may hold
the value.
-/
namespace ServiceGen

inductive Switch where
  | lenient
  | rustfmt
  | failFast
  | continueOnError
  | emitModel
  deriving Repr, DecidableEq

namespace Switch

def all : List Switch := [.lenient, .rustfmt, .failFast, .continueOnError, .emitModel]

def name : Switch → String
  | .lenient => "lenient"
  | .rustfmt => "rustfmt"
  | .failFast => "fail-fast"
  | .continueOnError => "continue-on-error"
  | .emitModel => "emit-model"

end Switch

inductive ValueOption where
  | directory
  | output
  | jobs
  | marker
  | runtimeCrate
  | httpMethod
  deriving Repr, DecidableEq

namespace ValueOption

def all : List ValueOption := [.directory, .output, .jobs, .marker, .runtimeCrate, .httpMethod]

def name : ValueOption → String
  | .directory => "cwd"
  | .output => "out"
  | .jobs => "jobs"
  | .marker => "marker"
  | .runtimeCrate => "runtime-crate"
  | .httpMethod => "http-method"

/-- The variable that holds the value otherwise. -/
def setting : ValueOption → Variable
  | .directory => .directory
  | .output => .output
  | .jobs => .jobs
  | .marker => .marker
  | .runtimeCrate => .runtimeCrate
  | .httpMethod => .httpMethod

/-- Whether a text can be the value. A path is not empty, and what is counted is a number. -/
def admits : ValueOption → String → Bool
  | .directory, text => !text.isEmpty
  | .output, text => !text.isEmpty
  | .jobs, text => (Text.Number.natural? text).isSome
  | _, _ => true

end ValueOption

/-- Why a command line is not carried out. -/
inductive Refusal where
  | usage
  | help
  | version
  deriving Repr, DecidableEq

structure Arguments where
  values : List (ValueOption × String)
  switches : List Switch
  patterns : List String
  deriving Repr, DecidableEq

namespace Arguments

def empty : Arguments := ⟨[], [], []⟩

def value? (arguments : Arguments) (option : ValueOption) : Option String :=
  (arguments.values.find? (·.1 == option)).map Prod.snd

def give (arguments : Arguments) (option : ValueOption) (text : String) :
    Except Refusal Arguments :=
  if option.admits text && (arguments.value? option).isNone then
    .ok { arguments with values := arguments.values ++ [(option, text)] }
  else .error .usage

def turnOn (arguments : Arguments) (switch : Switch) : Except Refusal Arguments :=
  if arguments.switches.contains switch then .error .usage
  else .ok { arguments with switches := arguments.switches ++ [switch] }

def addPatterns (arguments : Arguments) (patterns : List String) : Arguments :=
  { arguments with patterns := arguments.patterns ++ patterns }

/-- What one argument says. A single dash is a text like any other. -/
inductive Word where
  | text
  /-- Two dashes alone: only patterns follow. -/
  | terminator
  | switch (switch : Switch)
  /-- An option, with its value if that stands in the same argument. -/
  | option (option : ValueOption) (value : Option String)
  | refused (refusal : Refusal)
  deriving Repr, DecidableEq

namespace Word

/-- What a name behind two dashes says, with the text behind an equals sign if there is one. -/
def ofName (name : String) (value : Option String) : Word :=
  match ValueOption.all.find? (·.name == name) with
  | some found => .option found value
  | none =>
    if value.isSome then .refused .usage
    else if name == "help" then .refused .help
    else if name == "version" then .refused .version
    else match Switch.all.find? (·.name == name) with
      | some found => .switch found
      | none => .refused .usage

/-- What letters behind one dash say. The text behind the letter of an option is its value. -/
def ofLetters : List Char → Word
  | 'h' :: _ => .refused .help
  | 'V' :: _ => .refused .version
  | ['j'] => .option .jobs none
  | 'j' :: '=' :: value => .option .jobs (some (String.ofList value))
  | 'j' :: value => .option .jobs (some (String.ofList value))
  | _ => .refused .usage

def of (argument : String) : Word :=
  match argument.toList with
  | ['-', '-'] => .terminator
  | '-' :: '-' :: cs =>
    match Text.cutAt (· == '=') cs with
    | some (name, value) => ofName (String.ofList name) (some (String.ofList value))
    | none => ofName (String.ofList cs) none
  | ['-'] => .text
  | '-' :: letters => ofLetters letters
  | _ => .text

end Word

/-- Takes in arguments from left to right. What cannot be understood ends the reading, and so does a
wish for help. -/
def takeIn (arguments : Arguments) : List String → Except Refusal Arguments
  | [] => .ok arguments
  | argument :: rest =>
    match Word.of argument with
    | .text => takeIn (arguments.addPatterns [argument]) rest
    | .terminator => .ok (arguments.addPatterns rest)
    | .refused refusal => .error refusal
    | .switch switch =>
      match arguments.turnOn switch with
      | .ok arguments => takeIn arguments rest
      | .error refusal => .error refusal
    | .option option (some value) =>
      match arguments.give option value with
      | .ok arguments => takeIn arguments rest
      | .error refusal => .error refusal
    | .option option none =>
      match rest with
      | [] => .error .usage
      | value :: rest =>
        if Word.of value = .text then
          match arguments.give option value with
          | .ok arguments => takeIn arguments rest
          | .error refusal => .error refusal
        else .error .usage

def ofList (list : List String) : Except Refusal Arguments := takeIn empty list

/-- The value of an option: the one that was given to it, or the one that the environment holds. -/
def valueIn (arguments : Arguments) (env : Environment) (option : ValueOption) :
    Option String :=
  arguments.value? option <|> env.get? option.setting

def isAdmissible (arguments : Arguments) (env : Environment) : Bool :=
  ValueOption.all.all fun option => (arguments.valueIn env option).all option.admits

/-- Settings in which what the command line says stands in place of what they said. -/
def apply (arguments : Arguments) (env : Environment) (settings : Settings) :
    Except SettingError Settings := do
  let value := arguments.valueIn env
  let directory := (value .directory).getD settings.directory
  let output := value .output <|> settings.output
  let patterns := if arguments.patterns.isEmpty then settings.patterns else arguments.patterns
  let jobs := ((value .jobs).bind Text.Number.natural?).map (max 1)
  let parallelism := jobs.getD settings.walk.parallelism
  let settings ← match value .marker with
    | some marker => settings.setMarker marker
    | none => .ok settings
  let generation := settings.generation
  let has (switch : Switch) : Bool := arguments.switches.contains switch
  return {
    directory
    output
    patterns
    generation := {
      runtimeCrate := (value .runtimeCrate).getD generation.runtimeCrate
      strict := generation.strict && !has .lenient
      httpMethod := ((value .httpMethod).map (·.map Char.toUpper)).getD generation.httpMethod
      marker := generation.marker }
    walk := ⟨parallelism, settings.walk.continueOnError || has .continueOnError⟩
    rustfmt := settings.rustfmt || has .rustfmt
    failFast := settings.failFast || has .failFast }

/-- The settings that a command line and the environment ask for. -/
def settings (arguments : Arguments) (env : Environment) (current : Option String) (cores : Nat) :
    Except SettingError Settings := do
  let base ← Settings.ofEnvironment env current cores
  arguments.apply env base

end Arguments

end ServiceGen
