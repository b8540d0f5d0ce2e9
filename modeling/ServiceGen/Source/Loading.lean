import ServiceGen.Files.PathPattern
import ServiceGen.Source.PackageName
import ServiceGen.Source.Reading
import ServiceGen.Generation.Artifact
import ServiceGen.Text.Quoted

/-!
Loading source units: the files that the patterns find, without generated files and without what a
build leaves behind. A file that several patterns find is loaded once, and the units are in the
order of their paths. One file that cannot be loaded stops the loading.
-/
namespace ServiceGen

open Files

/-- Why source files cannot be loaded. -/
inductive LoadError where
  | pattern (pattern : String)
  | read (path : String)
  | parse (path : String) (position : Position)
  deriving Repr

def LoadError.message : LoadError → String
  | .pattern text => "invalid source pattern " ++ Text.Quoted.quote text
  | .read path => "failed to read " ++ path
  | .parse path position =>
    "failed to parse " ++ (Location.mk path position.line position.column).text

namespace Loading

/-- The pattern of all source files. -/
def everything : String := "**/*.rs"

/-- The directory in which builds leave what they make. -/
def buildDirectory : String := "target"

/-- The components of a path behind those of a directory, or all of them if the path does not begin
with those of the directory. -/
def behind (directory path : String) : List Component :=
  (strip? (components directory) (components path)).getD (components path)

/-- Whether a file is no source file: it was generated, or it is below a directory for builds. -/
def isSkipped (directory path : String) : Bool :=
  let way := behind directory path
  (fileName? way).any (·.endsWith Artifact.ending) || way.contains (.named buildDirectory)

/-- The path of a unit: the names of the path behind the directory. -/
def unitPath (directory path : String) : String :=
  String.intercalate "/" ((behind directory path).filterMap Component.name?)

def matching (tree : FileTree) (directory pattern : String) : Except LoadError (List Found) :=
  match PathPattern.parse? (join directory pattern) with
  | none => .error (.pattern pattern)
  | some parsed => .ok ((parsed.find tree).filter fun found =>
      tree.isFile found.place && !isSkipped directory found.path)

/-- Whether a path does not come after another. -/
def inOrder (a b : Found) : Bool := !before (components b.path) (components a.path)

/-- The paths without those that are the same as the one before. -/
def withoutRepeats : List Found → List Found
  | [] => []
  | found :: rest =>
    match withoutRepeats rest with
    | [] => [found]
    | next :: others =>
      if components found.path == components next.path then found :: others
      else found :: next :: others

/-- The source files that patterns find, each once and in order. -/
def files (tree : FileTree) (directory : String) (patterns : List String) :
    Except LoadError (List Found) := do
  let patterns := if patterns.isEmpty then [everything] else patterns
  let found ← patterns.mapM (matching tree directory)
  return withoutRepeats (found.flatten.mergeSort inOrder)

def unit (tree : FileTree) (directory : String) (found : Found) : Except LoadError SourceUnit :=
  match tree.text? found.path with
  | none => .error (.read found.path)
  | some text =>
    let path := unitPath directory found.path
    let package := SourceUnit.packageName (components path) (components directory)
    (SourceUnit.ofText package path text).mapError (.parse path)

def units (tree : FileTree) (directory : String) (patterns : List String) :
    Except LoadError (List SourceUnit) := do
  let files ← files tree directory patterns
  files.mapM (unit tree directory)

end Loading

end ServiceGen
