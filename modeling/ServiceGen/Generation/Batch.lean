import ServiceGen.Files.Path
import ServiceGen.Generation.Stage
import ServiceGen.Settings.Basic

/-!
What comes of many units, one after the other. A unit that fails is noted and passed over, unless
the first failure is to end the batch. No two units may have artifacts of the same path.
-/
namespace ServiceGen

open Analysis

structure UnitFailure where
  path : String
  reason : String
  deriving Repr, DecidableEq

inductive BatchError where
  | unit (path : String) (cause : WalkError StageError)
  /-- Analyzers failed, and the others were run to their end. -/
  | analyzers (path : String) (names : List String)
  /-- Two units have artifacts of one path. -/
  | collision (artifact first second : String)
  deriving Repr

namespace BatchError

def message : BatchError → String
  | .unit path _ => "failed to process " ++ path
  | .analyzers path names =>
    "failed to process " ++ path ++ ": analyzers failed: " ++ String.intercalate ", " names
  | .collision artifact first second => first ++ " and " ++ second ++ " both generate " ++ artifact

/-- The texts of the error, down to the innermost cause. -/
def reasons (error : BatchError) : List String :=
  error.message :: match error with
    | .unit _ cause => cause.reasons
    | _ => []

end BatchError

/-- An artifact and the path of the unit that it was made of. -/
structure Product where
  artifact : Artifact
  source : String
  deriving Repr, DecidableEq

structure Batch where
  products : List Product
  diagnostics : List Diagnostic
  failures : List UnitFailure
  deriving Repr, DecidableEq

namespace Batch

def empty : Batch := ⟨[], [], []⟩

/-- The product that is in the way of an artifact: the first one whose path means the same. -/
def rival? (batch : Batch) (artifact : Artifact) : Option Product :=
  batch.products.find? fun product =>
    Files.components product.artifact.path == Files.components artifact.path

def addArtifact (batch : Batch) (unit : SourceUnit) :
    Option Artifact → Except BatchError Batch
  | none => .ok batch
  | some artifact =>
    match batch.rival? artifact with
    | some rival => .error (.collision artifact.path rival.source unit.path)
    | none => .ok { batch with products := batch.products ++ [⟨artifact, unit.path⟩] }

def addFailure (batch : Batch) (unit : SourceUnit) (reason : String) : Batch :=
  { batch with failures := batch.failures ++ [⟨unit.path, reason⟩] }

/-- Takes note of the analyzers of a unit that failed, if there are any. -/
def addFailed (failFast : Bool) (batch : Batch) (unit : SourceUnit) (failed : List String) :
    Except BatchError Batch :=
  if failed.isEmpty then .ok batch
  else if failFast then .error (.analyzers unit.path failed)
  else .ok (batch.addFailure unit ("analyzers failed: " ++ String.intercalate ", " failed))

def addOutcome (failFast : Bool) (batch : Batch) (unit : SourceUnit)
    (outcome : Outcome Stage.Result) : Except BatchError Batch := do
  let batch := { batch with diagnostics := batch.diagnostics ++ outcome.diagnostics }
  let batch ← addFailed failFast batch unit outcome.failed
  batch.addArtifact unit ((outcome.results.get? .artifact).bind id)

/-- Runs the analyzers of a graph for a unit, and takes in what comes of it. -/
def add (settings : Settings) (graph : Stage.Graph) (batch : Batch) (unit : SourceUnit) :
    Except BatchError Batch :=
  match graph.execute (Generation.catalog settings.generation) unit settings.walk with
  | .ok outcome => addOutcome settings.failFast batch unit outcome
  | .error cause =>
    if settings.failFast then .error (.unit unit.path cause)
    else .ok (batch.addFailure unit (String.intercalate ": " cause.reasons))

/-- What comes of units, one after the other. -/
def ofUnits (settings : Settings) (graph : Stage.Graph) (units : List SourceUnit) :
    Except BatchError Batch :=
  units.foldlM (add settings graph) empty

end Batch

end ServiceGen
