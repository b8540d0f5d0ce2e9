import ServiceGen.Text.Blank

/-!
The variables of the environment that hold settings.
-/
namespace ServiceGen

/-- What the environment says, by the name of a variable. -/
abbrev Environment := String → Option String

inductive Variable where
  | directory
  | output
  | patterns
  | marker
  | runtimeCrate
  | jobs
  | strict
  | rustfmt
  | failFast
  | continueOnError
  | httpMethod
  deriving Repr, DecidableEq

namespace Variable

def all : List Variable :=
  [.directory, .output, .patterns, .marker, .runtimeCrate, .jobs, .strict, .rustfmt, .failFast,
    .continueOnError, .httpMethod]

/-- The name of a variable in the environment. -/
def key : Variable → String
  | .directory => "WEFT_CWD"
  | .output => "WEFT_OUT_DIR"
  | .patterns => "WEFT_PATTERNS"
  | .marker => "WEFT_MARKER"
  | .runtimeCrate => "WEFT_RUNTIME_CRATE"
  | .jobs => "WEFT_JOBS"
  | .strict => "WEFT_STRICT"
  | .rustfmt => "WEFT_RUSTFMT"
  | .failFast => "WEFT_FAIL_FAST"
  | .continueOnError => "WEFT_CONTINUE_ON_ERROR"
  | .httpMethod => "WEFT_HTTP_METHOD"

end Variable

namespace Environment

def get? (env : Environment) (setting : Variable) : Option String := env setting.key

/-- What stands behind a text and an equals sign in an entry `NAME=VALUE`. A text that holds an
equals sign itself reaches into the value. -/
def entry? (env : Environment) (text : List Char) : Option (List Char) :=
  match Text.cutAt (· == '=') text with
  | none => (env (String.ofList text)).map String.toList
  | some (name, begun) => do
    let value ← env (String.ofList name)
    let begun := begun ++ ['=']
    if begun.isPrefixOf value.toList then some (value.toList.drop begun.length) else none

end Environment

end ServiceGen
