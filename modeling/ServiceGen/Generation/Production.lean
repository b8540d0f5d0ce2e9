import ServiceGen.Generation.Batch
import ServiceGen.Generation.Writing
import ServiceGen.Source.Loading

/-!
A generation run: all source files are loaded, code is generated for each of them, and what came of
it is written. Nothing is written before everything is generated.
-/
namespace ServiceGen

open Analysis

inductive RunError where
  | load (cause : LoadError)
  | graph (cause : GraphError)
  | batch (cause : BatchError)
  | write (cause : WriteError)
  deriving Repr

namespace RunError

def message : RunError → String
  | .load cause => cause.message
  | .graph cause => cause.message
  | .batch cause => cause.message
  | .write cause => cause.message

/-- The texts of the error, down to the innermost cause that has one. -/
def reasons : RunError → List String
  | .batch cause => cause.reasons
  | error => [error.message]

def explanation (error : RunError) : String := String.intercalate ": " error.reasons

end RunError

structure RunReport where
  /-- The number of units. -/
  units : Nat
  artifacts : List Artifact
  /-- The paths of all files of artifacts. -/
  written : List String
  diagnostics : List Diagnostic
  failures : List UnitFailure
  deriving Repr, DecidableEq

def RunReport.isSuccess (report : RunReport) : Bool := report.failures.isEmpty

namespace Production

def units (settings : Settings) (tree : FileTree) : Except RunError (List SourceUnit) :=
  (Loading.units tree settings.directory settings.patterns).mapError .load

/-- What is generated, and for how many units. -/
def plan (settings : Settings) (tree : FileTree) : Except RunError (Nat × Batch) := do
  let units ← units settings tree
  let graph ← (Generation.graph settings.generation .artifact).mapError .graph
  let batch ← (Batch.ofUnits settings graph units).mapError .batch
  return (units.length, batch)

/-- Generates code for all units and writes it. -/
def run (settings : Settings) (formatter : Option Formatter) (tree : FileTree) :
    FileTree × Except RunError RunReport :=
  match plan settings tree with
  | .error cause => (tree, .error cause)
  | .ok (units, batch) =>
    let artifacts := batch.products.map Product.artifact
    let formatter := if settings.rustfmt then formatter else none
    match Writing.writeArtifacts formatter settings.outputRoot tree artifacts with
    | (tree, .error cause) => (tree, .error (.write cause))
    | (tree, .ok written) =>
      (tree, .ok ⟨units, artifacts, written, batch.diagnostics, batch.failures⟩)

def model? (settings : Settings) (graph : Stage.Graph) (unit : SourceUnit) :
    Except BatchError (Option Package) := do
  let catalog := Generation.catalog settings.generation
  let outcome ← (graph.execute catalog unit settings.walk).mapError (.unit unit.path)
  return (outcome.results.get? .services).filter (!·.services.isEmpty)

/-- The services of all units that have any, without generating anything. -/
def models (settings : Settings) (tree : FileTree) : Except RunError (List Package) := do
  let units ← units settings tree
  let graph ← (Generation.graph settings.generation .services).mapError .graph
  let models ← (units.mapM (model? settings graph)).mapError .batch
  return models.filterMap id

end Production

end ServiceGen
