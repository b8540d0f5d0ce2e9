import ServiceGen.CommandLine.Arguments
import ServiceGen.Document.Model
import ServiceGen.Generation.Production
import ServiceGen.Settings.EnvironmentFile

/-!
The program: it reads its arguments and its environment, generates code for the files that they
mean, and says what came of it. The paths of the artifacts go to the output, so that they can be
used by others, and all else that is said goes to the error output.
-/
namespace ServiceGen

/-- What a program finds when it is started. -/
structure Process where
  env : Environment
  /-- How many analyzers may run at the same time unless something else is said. -/
  cores : Nat
  formatter : Option Formatter

/-- What a program says, and the number that it ends with. -/
structure Reply where
  exit : Nat
  output : String
  errors : String
  deriving Repr, DecidableEq

namespace Program

def name : String := "weft-gen"

def version : String := "0.3.0"

/-- The lines of a text, each with its end. -/
def unlines (lines : List String) : String := String.join (lines.map (· ++ "\n"))

def usageLine : String := "Usage: " ++ name ++ " [OPTIONS] [PATTERNS]..."

/-- What is said of an option or a switch, and how it is written. -/
def optionHelp : List (String × String) :=
  [("    --cwd <CWD>", "Working directory"),
    ("    --out <OUT_DIR>",
      "Root generated files are written under (default: the working directory)"),
    ("-j, --jobs <JOBS>", "Analyzers running at once per source file"),
    ("    --lenient", "Resolve ambiguous declarations instead of rejecting them"),
    ("    --marker <MARKER>", "Tag marker"),
    ("    --runtime-crate <RUNTIME_CRATE>", "Path of the runtime crate in generated code"),
    ("    --http-method <HTTP_METHOD>", "Default HTTP method for service routes"),
    ("    --rustfmt", "Format generated files with rustfmt"),
    ("    --fail-fast", "Stop at the first source file that fails"),
    ("    --continue-on-error", "Keep running the other analyzers of a file after one fails"),
    ("    --emit-model", "Print the extracted service model as JSON instead of generating"),
    ("-h, --help", "Print help"),
    ("-V, --version", "Print version")]

/-- A text with blanks up to a width. -/
def padded (text : String) (width : Nat) : String :=
  text ++ String.ofList (List.replicate (width - text.length) ' ')

def helpLines : List String :=
  let width := (optionHelp.map (·.1.length)).foldl max 0 + 2
  ["Generate durable workflow clients and controllers from annotated traits", "", usageLine, "",
    "Arguments:",
    "  [PATTERNS]...  Source globs relative to the working directory (default: **/*.rs)", "",
    "Options:"] ++ optionHelp.map fun (form, what) => "  " ++ padded form width ++ what

/-- What is said instead of carrying out a command line. -/
def refuse : Refusal → Reply
  | .usage => ⟨2, "", unlines ["error: invalid arguments", "", usageLine]⟩
  | .help => ⟨0, unlines helpLines, ""⟩
  | .version => ⟨0, unlines [name ++ " " ++ version], ""⟩

/-- What is said of a failure that ends the program. -/
def fail (message : String) : Reply := ⟨1, "", unlines [message]⟩

/-- What is said of a run. The program fails if a unit failed. -/
def report (report : RunReport) : Reply :=
  let diagnostics := report.diagnostics.map Diagnostic.text
  let failures := report.failures.map fun failure =>
    "Failed: " ++ failure.path ++ ": " ++ failure.reason
  let summary := "Processed " ++ toString report.units ++ " file(s): " ++
    toString report.artifacts.length ++ " generated, " ++
    toString report.diagnostics.length ++ " warning(s), " ++
    toString report.failures.length ++ " failed"
  ⟨if report.isSuccess then 0 else 1, unlines report.written,
    unlines (diagnostics ++ failures ++ [summary])⟩

def emitModel (settings : Settings) (tree : FileTree) : Reply :=
  match Production.models settings tree with
  | .error cause => fail ("Error: " ++ cause.explanation)
  | .ok packages => ⟨0, unlines [(Document.list (packages.map Package.document)).text], ""⟩

/-- Generates code for all source files. -/
def generate (process : Process) (settings : Settings) (tree : FileTree) : FileTree × Reply :=
  match Production.run settings process.formatter tree with
  | (tree, .error cause) => (tree, fail ("Generation failed: " ++ cause.explanation))
  | (tree, .ok result) => (tree, report result)

def carryOut (process : Process) (env : Environment) (arguments : Arguments) (tree : FileTree) :
    FileTree × Reply :=
  let current := "/" ++ String.intercalate "/" tree.base
  match arguments.settings env (some current) process.cores with
  | .error cause => (tree, fail ("Error: " ++ cause.message))
  | .ok settings =>
    if arguments.switches.contains .emitModel then (tree, emitModel settings tree)
    else generate process settings tree

def run (process : Process) (arguments : List String) (tree : FileTree) : FileTree × Reply :=
  let env := EnvironmentFile.complete process.env tree
  match Arguments.ofList arguments with
  | .error refusal => (tree, refuse refusal)
  | .ok arguments =>
    if arguments.isAdmissible env then carryOut process env arguments tree
    else (tree, refuse .usage)

end Program

end ServiceGen
