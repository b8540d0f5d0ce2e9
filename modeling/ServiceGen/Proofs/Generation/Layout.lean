import ServiceGen.Proofs.Generation.Marker
import ServiceGen.Proofs.Plan.Places
import ServiceGen.Proofs.Source.Parsing

/-!
Layout has no part in generation. Texts whose tokens have one sequence are read alike, and what is
made of a unit does not depend on where its declarations stand, but for the places that diagnostics
name.
-/
namespace ServiceGen

open Analysis

/-- The diagnostic without the place that it names. -/
def Diagnostic.unplaced (diagnostic : Diagnostic) : Diagnostic :=
  { diagnostic with location := diagnostic.location.map fun _ => default }

namespace Analysis

variable {ε α : Type}

def Report.unplaced (report : Report) : Report :=
  { report with location := report.location.map fun _ => default }

def Run.unplaced (run : Run ε α) : Run ε α :=
  { run with reports := run.reports.map Report.unplaced }

namespace Account

def unplaced (account : Account ε) : Account ε :=
  { account with diagnostics := account.diagnostics.map Diagnostic.unplaced }

theorem diagnosticsOf_unplaced (name : String) (run : Run ε α) :
    diagnosticsOf name run.unplaced = (diagnosticsOf name run).map Diagnostic.unplaced := by
  have hreports : (run.reports.map Report.unplaced).map (·.by name) =
      (run.reports.map (·.by name)).map Diagnostic.unplaced := by
    rw [List.map_map, List.map_map]
    rfl
  have hending : run.unplaced.ending = run.ending := rfl
  unfold diagnosticsOf
  rw [hending]
  cases run.ending with
  | panic message => rfl
  | value result => exact hreports
  | failure cause => exact hreports

theorem fail_unplaced [Explained ε] (options : WalkOptions) (account : Account ε)
    (error : WalkError ε) :
    fail options account.unplaced error = (fail options account error).unplaced := by
  unfold fail
  split
  · rw [unplaced, unplaced, List.map_append]
    rfl
  · rfl

/-- The places that reports name are all that can be seen of them in an account. -/
theorem note_unplaced [Explained ε] (options : WalkOptions) (account : Account ε) (name : String)
    (run : Run ε α) :
    note options account.unplaced name run.unplaced = (note options account name run).unplaced := by
  have hnoted : Account.mk (account.unplaced.diagnostics ++ diagnosticsOf name run.unplaced)
      account.failed account.error =
        unplaced
          ⟨account.diagnostics ++ diagnosticsOf name run, account.failed, account.error⟩ := by
    rw [diagnosticsOf_unplaced, unplaced, unplaced, List.map_append]
  have herror : errorOf? name run.unplaced = errorOf? name run := rfl
  unfold note
  rw [herror]
  cases errorOf? name run with
  | none => exact hnoted
  | some error =>
    dsimp only
    rw [← fail_unplaced, ← hnoted]
    rfl

end Account

end Analysis

namespace Generation

/-- What a walk leaves of the last stage, without the places that diagnostics name. -/
def Verdict.unplaced (verdict : Verdict) : Verdict :=
  { verdict with diagnostics := verdict.diagnostics.map Diagnostic.unplaced }

variable (options : GenerationOptions)

/-- The artifact of a package depends on no place, and what is reported of it only names them. -/
theorem artifact_unplaced (unit : SourceUnit) (package : Package) :
    artifact options unit.unplaced package.unplaced = (artifact options unit package).unplaced := by
  unfold artifact plan
  rw [PackagePlan.build_unplaced]
  change (if (package.services.map _).isEmpty then _ else _) = _
  rw [List.isEmpty_map]
  split
  · rfl
  · cases PackagePlan.build options package with
    | error problems => rfl
    | ok plan =>
      have hreports : plan.unplaced.omissions.map omissionReport =
          (plan.omissions.map omissionReport).map Report.unplaced := by
        rw [PackagePlan.unplaced, List.map_map, List.map_map]
        rfl
      simp only [Except.map, Except.mapError, hreports]
      have hrendered : Render.Package.render options plan.unplaced =
          Render.Package.render options plan := rfl
      rw [hrendered]
      cases Render.Package.render options plan <;> rfl

/-- The last stage makes the same of a unit wherever its declarations stand. -/
theorem generated_unplaced (unit : SourceUnit) :
    generated options unit.unplaced = (generated options unit).unplaced := by
  unfold generated extracted
  rw [Extraction.package_unplaced, artifact_unplaced]

theorem ofRun_unplaced (walkOptions : WalkOptions) (run : Run StageError (Option Artifact)) :
    Verdict.ofRun walkOptions run.unplaced =
      (Verdict.ofRun walkOptions run).map Verdict.unplaced := by
  have hnote : Account.note walkOptions .start Stage.artifact.name run.unplaced =
      (Account.note walkOptions .start Stage.artifact.name run).unplaced :=
    Account.note_unplaced walkOptions .start Stage.artifact.name run
  unfold Verdict.ofRun
  rw [hnote]
  dsimp only
  rw [Account.unplaced]
  cases (Account.note walkOptions .start Stage.artifact.name run).error <;> rfl

/-- That the last stage makes the same of two units: the same artifact, none of either, or the same
error. Every walk leaves the same of it, but for the places that diagnostics name. -/
structure SameProduct (unit unit' : SourceUnit) : Prop where
  ending : (generated options unit).ending = (generated options unit').ending
  walks : ∃ stages, graph options .artifact = .ok stages ∧ ∀ walkOptions,
    ((stages.execute (catalog options) unit walkOptions).map Verdict.ofOutcome).map
        Verdict.unplaced =
      ((stages.execute (catalog options) unit' walkOptions).map Verdict.ofOutcome).map
        Verdict.unplaced

theorem sameProduct_of_unplaced {unit unit' : SourceUnit}
    (hunplaced : unit.unplaced = unit'.unplaced) : SameProduct options unit unit' := by
  have hsame : (generated options unit).unplaced = (generated options unit').unplaced := by
    rw [← generated_unplaced, hunplaced, generated_unplaced]
  have hending : (generated options unit).unplaced.ending =
      (generated options unit').unplaced.ending := by rw [hsame]
  refine ⟨hending, chain, graph_artifact options, fun walkOptions => ?_⟩
  rw [execute_chain, execute_chain, ← ofRun_unplaced, hsame, ofRun_unplaced]

/-- An activity that takes a value of the given type. -/
def taking (type : String) : String :=
  "/// weft:activity\npub trait A \x7b\n  fn x(&self, b: " ++ type ++ ");\n\x7d\n"

/-- The activity that takes bytes, written otherwise. -/
def loosened : String :=
  "/// weft:activity\npub trait A\x7bfn x ( & self , /* what */ b:Vec < u8\n> );\x7d"

end Generation

end ServiceGen
