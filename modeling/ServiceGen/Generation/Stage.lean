import ServiceGen.Analysis.Walk
import ServiceGen.Extraction.Services
import ServiceGen.Generation.Artifact
import ServiceGen.Plan.Package
import ServiceGen.Render.Package

/-!
The analyzers of a generation run: the tags of a unit, its services, and the artifact made of
them. Each requires the one before it. A unit without services has no artifact.
-/
namespace ServiceGen

open Analysis

inductive Stage where
  | decorations
  | services
  | artifact
  deriving Repr, DecidableEq

inductive StageError where
  /-- The stage before it left no result. -/
  | missing (message : String)
  | generate (cause : GenerateError)
  deriving Repr, DecidableEq

namespace Stage

def name : Stage → String
  | .decorations => "decorators"
  | .services => "services"
  | .artifact => "generate"

abbrev Result : Stage → Type
  | .decorations => Decorations
  | .services => Package
  | .artifact => Option Artifact

abbrev Graph : Type := Analysis.Graph Stage Stage

def requires : Stage → List Stage
  | .decorations => []
  | .services => [.decorations]
  | .artifact => [.services]

end Stage

def StageError.message : StageError → String
  | .missing message => message
  | .generate cause => cause.message

instance : Explained StageError := ⟨fun error => [error.message]⟩

namespace Generation

def plan (options : GenerationOptions) (package : Package) : Except GenerateError PackagePlan :=
  (PackagePlan.build options package).mapError (.validation package.name)

/-- A warning about an operation that is left out. -/
def omissionReport (omission : Omission) : Report :=
  ⟨.warning, some omission.location, omission.reason ++ " (skipped)"⟩

/-- The artifact of a package, or why there is none. The omissions are reported as soon as they are
known. -/
def artifact (options : GenerationOptions) (unit : SourceUnit) (package : Package) :
    Run StageError (Option Artifact) :=
  if package.services.isEmpty then ⟨[], .value none⟩
  else
    match plan options package with
    | .error cause => ⟨[], .failure (.generate cause)⟩
    | .ok plan =>
      let reports := plan.omissions.map omissionReport
      match Render.Package.render options plan with
      | .error cause => ⟨reports, .failure (.generate cause)⟩
      | .ok text => ⟨reports, .value (some (.of unit.dir package.name text))⟩

def run (options : GenerationOptions) :
    (stage : Stage) → Pass SourceUnit Stage.Result → Run StageError stage.Result
  | .decorations, pass => ⟨Decorations.reports pass.unit, .value (.ofUnit pass.unit)⟩
  | .services, pass =>
    match pass.resultOf .decorations with
    | none => ⟨[], .failure (.missing (pass.missing Stage.decorations.name))⟩
    | some decorations =>
      let classifier : Classifier := ⟨options.marker⟩
      ⟨Extraction.reports classifier pass.unit decorations,
        .value (Extraction.package classifier pass.unit decorations)⟩
  | .artifact, pass =>
    match pass.resultOf .services with
    | none => ⟨[], .failure (.missing (pass.missing Stage.services.name))⟩
    | some package => artifact options pass.unit package

def catalog (options : GenerationOptions) : Catalog Stage SourceUnit StageError Stage.Result :=
  { analyzer := fun stage =>
      { kind := stage, name := stage.name, requires := stage.requires, run := run options stage }
    kinds := [.decorations, .services, .artifact]
    complete := fun stage => by cases stage <;> simp }

/-- The graph of all analyzers that the given stage requires, with itself. -/
def graph (options : GenerationOptions) (stage : Stage) : Except GraphError Stage.Graph :=
  Analysis.Graph.build (catalog options) [stage]

end Generation

end ServiceGen
