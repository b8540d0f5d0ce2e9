import ServiceGen.Analysis.Walk
import ServiceGen.Plan.Basic
import ServiceGen.Settings.Variable
import ServiceGen.Text.Number

/-!
The settings of a generation run. Every setting has a default, and the environment may hold another
value for it. A value that cannot be read is an error; it never stands for the default.
-/
namespace ServiceGen

structure Settings where
  /-- The directory that patterns are relative to. -/
  directory : String
  /-- The directory that all output goes below, if it is another one. -/
  output : Option String
  /-- The patterns of source files. Without one, all source files are meant. -/
  patterns : List String
  generation : GenerationOptions
  walk : Analysis.WalkOptions
  /-- Whether written files are formatted. -/
  rustfmt : Bool
  /-- Whether the first unit that fails ends the run. -/
  failFast : Bool
  deriving Repr, DecidableEq

inductive SettingError where
  | missing (setting : Variable)
  | invalid (setting : Variable) (demand : String)
  deriving Repr, DecidableEq

def SettingError.message : SettingError → String
  | .missing setting => "missing required environment variable: " ++ setting.key
  | .invalid setting demand => "invalid value for " ++ setting.key ++ ": " ++ demand

/-- How the value of a setting is read, and what is demanded of it. -/
structure ValueRule (α : Type) where
  read : String → Option α
  demand : String

namespace ValueRule

/-- Whether a text can be a marker: lowercase letters and digits, at least one of them. -/
def isMarker (text : String) : Bool :=
  !text.isEmpty && text.toList.all fun c => ('a' ≤ c && c ≤ 'z') || c.isDigit

def marker : ValueRule String :=
  ⟨fun text => if isMarker text then some text else none, "must be lowercase letters and digits"⟩

def jobs : ValueRule Nat :=
  ⟨fun text => (Text.Number.natural? text).filter (0 < ·), "must be a positive integer"⟩

/-- The truth value that a word stands for. -/
def truth? (word : String) : Option Bool :=
  if ["1", "true", "yes", "on"].contains word then some true
  else if ["0", "false", "no", "off"].contains word then some false
  else none

/-- A truth value, in letters of any case. -/
def flag : ValueRule Bool :=
  ⟨fun text => truth? (text.map Char.toLower), "must be true or false"⟩

end ValueRule

namespace Settings

/-- The settings for a directory where nothing else is set. -/
def initial (directory : String) (cores : Nat) : Settings :=
  { directory
    output := none
    patterns := []
    generation := {}
    walk := ⟨cores, false⟩
    rustfmt := false
    failFast := false }

/-- The directory that output goes below. -/
def outputRoot (settings : Settings) : String := settings.output.getD settings.directory

/-- The same settings with another marker. -/
def setMarker (settings : Settings) (marker : String) : Except SettingError Settings :=
  match ValueRule.marker.read marker with
  | some marker => .ok { settings with generation := { settings.generation with marker } }
  | none => .error (.invalid .marker ValueRule.marker.demand)

/-- The value of a variable; `otherwise` if the variable is not set. -/
def valueOf {α : Type} (env : Environment) (setting : Variable) (rule : ValueRule α)
    (otherwise : α) : Except SettingError α :=
  match env.get? setting with
  | none => .ok otherwise
  | some text =>
    match rule.read text with
    | some value => .ok value
    | none => .error (.invalid setting rule.demand)

/-- The patterns of a list with commas. Blanks around a pattern do not belong to it. -/
def patternsOf (text : String) : List String :=
  let patterns := (Text.pieces (· == ',') text.toList).map Text.trim
  (patterns.filter (!·.isEmpty)).map String.ofList

/-- The settings that an environment holds, for a process in the given directory. -/
def ofEnvironment (env : Environment) (current : Option String) (cores : Nat) :
    Except SettingError Settings := do
  let directory ← match env.get? .directory <|> current with
    | some directory => .ok directory
    | none => .error (.missing .directory)
  let defaults := initial directory cores
  let marker ← valueOf env .marker .marker defaults.generation.marker
  let jobs ← valueOf env .jobs .jobs defaults.walk.parallelism
  let strict ← valueOf env .strict .flag defaults.generation.strict
  let rustfmt ← valueOf env .rustfmt .flag defaults.rustfmt
  let failFast ← valueOf env .failFast .flag defaults.failFast
  let continueOnError ← valueOf env .continueOnError .flag defaults.walk.continueOnError
  return {
    directory
    output := env.get? .output
    patterns := ((env.get? .patterns).map patternsOf).getD defaults.patterns
    generation := {
      runtimeCrate := (env.get? .runtimeCrate).getD defaults.generation.runtimeCrate
      strict
      httpMethod :=
        ((env.get? .httpMethod).map (·.map Char.toUpper)).getD defaults.generation.httpMethod
      marker }
    walk := ⟨jobs, continueOnError⟩
    rustfmt
    failFast }

end Settings

end ServiceGen
