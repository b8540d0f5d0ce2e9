import ServiceGen.Generation.Stage
import ServiceGen.Proofs.Analysis.Failure
import ServiceGen.Proofs.Plan.Marker

/-!
What becomes of a unit when it is generated, and what has a part in it. The stages run one after the
other, each alone in its batch, so that a walk comes down to the run of the last stage on what was
extracted. This run is the same for all units of which the marker hears the same: tags of other
tools, lines that are no tags and mere prose may come and go.
-/
namespace ServiceGen.Analysis

def Run.value? {ε α : Type} (run : Run ε α) : Option α :=
  match run.ending with
  | .value result => some result
  | _ => none

namespace Account

variable {ε α β : Type}

theorem note_map [Explained ε] (options : WalkOptions) (account : Account ε) (name : String)
    (run : Run ε α) (f : α → β) : account.note options name (run.map f) =
      account.note options name run := by
  unfold note errorOf? diagnosticsOf Run.map
  cases run.ending <;> rfl

/-- A run is taken note of in the same way behind other diagnostics. -/
theorem note_behind [Explained ε] (options : WalkOptions) (earlier : List Diagnostic)
    (name : String) (run : Run ε α) :
    note options ⟨earlier, [], none⟩ name run =
      { note options .start name run with
        diagnostics := earlier ++ (note options .start name run).diagnostics } := by
  unfold note fail
  cases errorOf? name run with
  | none => rfl
  | some error => cases options.continueOnError <;> simp [start]

theorem analyzer_of_errorOf? {name : String} {run : Run ε α} {error : WalkError ε}
    (herror : errorOf? name run = some error) : error.analyzer = name := by
  unfold errorOf? at herror
  split at herror
  · exact absurd herror (by simp)
  all_goals
    injection herror with herror
    rw [← herror]
    rfl

theorem analyzer_of_mem_diagnosticsOf {name : String} {run : Run ε α} {diagnostic : Diagnostic}
    (hmem : diagnostic ∈ diagnosticsOf name run) : diagnostic.analyzer = name := by
  unfold diagnosticsOf at hmem
  split at hmem
  · exact absurd hmem (by simp)
  · obtain ⟨report, -, rfl⟩ := List.mem_map.mp hmem
    rfl

/-- All that is noted of a run is noted under the name of its analyzer. -/
theorem analyzer_of_mem_note [Explained ε] {options : WalkOptions} {name : String}
    {run : Run ε α} {diagnostic : Diagnostic}
    (hmem : diagnostic ∈ (note options .start name run).diagnostics) :
    diagnostic.analyzer = name := by
  cases herror : errorOf? name run with
  | none =>
    rw [note_of_none _ _ herror] at hmem
    exact analyzer_of_mem_diagnosticsOf hmem
  | some error =>
    simp only [note, herror, fail] at hmem
    split at hmem
    · rcases List.mem_append.mp hmem with hmem | hmem
      · exact analyzer_of_mem_diagnosticsOf hmem
      · rw [List.mem_singleton.mp hmem]
        exact analyzer_of_errorOf? herror
    · exact analyzer_of_mem_diagnosticsOf hmem

theorem filter_note [Explained ε] (options : WalkOptions) (name : String) (run : Run ε α) :
    (note options .start name run).diagnostics.filter (·.analyzer == name) =
      (note options .start name run).diagnostics :=
  List.filter_eq_self.mpr fun diagnostic hmem => by simp [analyzer_of_mem_note hmem]

theorem filter_reports {name other : String} (hne : other ≠ name) (reports : List Report) :
    (reports.map (·.by other)).filter (·.analyzer == name) = [] := by
  rw [List.filter_eq_nil_iff]
  intro diagnostic hdiagnostic
  obtain ⟨report, -, rfl⟩ := List.mem_map.mp hdiagnostic
  simpa [Report.by] using hne

end Account

theorem Walk.get?_record_map {ε κ : Type} {ρ : κ → Type} [DecidableEq κ] {results : Results ρ}
    {kind : κ} (hnone : results.get? kind = none) (run : Run ε (ρ kind)) :
    (record results (run.map fun result => ⟨kind, result⟩)).get? kind = run.value? := by
  unfold record Run.map Run.value?
  cases run.ending with
  | value result => exact Results.get?_insert_self results kind result
  | failure cause => exact hnone
  | panic message => exact hnone

theorem Walk.pieces_singleton {α : Type} (length : Nat) (hpos : 0 < length) (a : α) :
    pieces length hpos [a] = [[a]] := by
  obtain ⟨rest, rfl⟩ : ∃ rest, length = rest + 1 := ⟨length - 1, by omega⟩
  rw [pieces, List.take_succ_cons, List.take_nil, List.drop_succ_cons, List.drop_nil, pieces]

end ServiceGen.Analysis

namespace ServiceGen.Generation

open Analysis

/-- The graph of the last stage: every stage requires the one behind it. -/
def chain : Stage.Graph :=
  ⟨[⟨.artifact, .artifact, "generate", [1]⟩, ⟨.services, .services, "services", [2]⟩,
    ⟨.decorations, .decorations, "decorators", []⟩], [[2], [1], [0]]⟩

theorem graph_artifact (options : GenerationOptions) : graph options .artifact = .ok chain := by
  cbv

/-- What a unit offers under the marker of the options. -/
def extracted (options : GenerationOptions) (unit : SourceUnit) : Package :=
  Extraction.package ⟨options.marker⟩ unit (.ofUnit unit)

/-- The run of the last stage on what a unit offers. -/
def generated (options : GenerationOptions) (unit : SourceUnit) :
    Run StageError (Option Artifact) :=
  artifact options unit (extracted options unit)

/-- What a walk leaves of the last stage. -/
structure Verdict where
  /-- Its result: the artifact if there is one, or nothing at all where the stage failed. -/
  result : Option (Option Artifact)
  diagnostics : List Diagnostic
  /-- The names of all stages that failed. -/
  failed : List String
  deriving Repr, DecidableEq

def Verdict.ofOutcome (outcome : Outcome Stage.Result) : Verdict :=
  { result := outcome.results.get? .artifact
    diagnostics := outcome.diagnostics.filter (·.analyzer == Stage.artifact.name)
    failed := outcome.failed }

/-- What a walk leaves of a run of the last stage, as if it were the only one. -/
def Verdict.ofRun (walkOptions : WalkOptions) (run : Run StageError (Option Artifact)) :
    Except (WalkError StageError) Verdict :=
  let account := Account.note walkOptions .start Stage.artifact.name run
  match account.error with
  | some error => .error error
  | none => .ok ⟨run.value?, account.diagnostics, account.failed⟩

section

variable (options : GenerationOptions) (unit : SourceUnit) (walkOptions : WalkOptions)

/-- The diagnostics of the stages before the last one. -/
def earlierDiagnostics : List Diagnostic :=
  (Decorations.reports unit).map (·.by Stage.decorations.name) ++
    (Extraction.reports ⟨options.marker⟩ unit (.ofUnit unit)).map (·.by Stage.services.name)

/-- The results of the stages before the last one. -/
def earlierResults : Results Stage.Result :=
  (Results.empty.insert .decorations (.ofUnit unit)).insert .services (extracted options unit)

/-- The stages before the last one do not fail, and the last one sees what was extracted. -/
theorem walk_chain :
    ∃ visits, chain.walk (catalog options) unit walkOptions =
      { visits
        results := Walk.record (earlierResults options unit)
          ((generated options unit).map fun result => ⟨.artifact, result⟩)
        account := Account.note walkOptions ⟨earlierDiagnostics options unit, [], none⟩
          Stage.artifact.name (generated options unit) } := by
  -- However many stages may run at the same time, each has a batch of its own.
  have hbatches : Walk.batches chain walkOptions = chain.nodes.reverse.map ([·]) := by
    simp [Walk.batches, chain, Walk.pieces_singleton]
  rw [Graph.walk, hbatches,
    ← Account.note_map _ _ _ _ fun result => (⟨.artifact, result⟩ : Entry Stage.Result)]
  exact ⟨_, rfl⟩

theorem filter_earlierDiagnostics :
    (earlierDiagnostics options unit).filter (·.analyzer == Stage.artifact.name) = [] := by
  rw [earlierDiagnostics, List.filter_append, Account.filter_reports (by decide),
    Account.filter_reports (by decide), List.append_nil]

/-- What a walk leaves of the last stage is what comes of its run on what was extracted. -/
theorem execute_chain :
    (chain.execute (catalog options) unit walkOptions).map Verdict.ofOutcome =
      Verdict.ofRun walkOptions (generated options unit) := by
  obtain ⟨visits, hwalk⟩ := walk_chain options unit walkOptions
  have hnone : (earlierResults options unit).get? .artifact = none := rfl
  have hresult := Walk.get?_record_map hnone (generated options unit)
  rw [Graph.execute, hwalk, Account.note_behind, Verdict.ofRun]
  cases herror : (Account.note walkOptions .start Stage.artifact.name
    (generated options unit)).error with
  | some error =>
    rw [Walk.outcome_of_error herror]
    rfl
  | none =>
    rw [Walk.outcome_of_none herror]
    simp only [Except.map, Verdict.ofOutcome, hresult, List.filter_append,
      filter_earlierDiagnostics, List.nil_append, Account.filter_note]

/-- The artifact of a package depends on nothing but what the marker hears of it. -/
theorem artifact_heard (package : Package) :
    artifact options unit (package.heard ⟨options.marker⟩) = artifact options unit package := by
  unfold artifact plan
  rw [PackagePlan.build_heard]
  change (if (package.services.map _).isEmpty then _ else _) = _
  rw [List.isEmpty_map]
  rfl

/-- The last stage makes of a unit what it makes of the lines that count. -/
theorem generated_heard :
    generated options (unit.heard ⟨options.marker⟩) = generated options unit := by
  have hpackage : (extracted options (unit.heard ⟨options.marker⟩)).heard ⟨options.marker⟩ =
      (extracted options unit).heard ⟨options.marker⟩ := Extraction.package_heard _ unit
  calc generated options (unit.heard ⟨options.marker⟩)
    _ = artifact options unit (extracted options (unit.heard ⟨options.marker⟩)) := rfl
    _ = artifact options unit ((extracted options unit).heard ⟨options.marker⟩) := by
      rw [← artifact_heard, hpackage]
    _ = generated options unit := artifact_heard options unit _

end

/-- Only tags of the marker have a part in generation. Of two units that differ in lines of
documentation which are no tags of the marker, every walk leaves the same of the last stage: no
artifact, the same artifact, or the same error, with the same diagnostics. -/
theorem same_artifact_of_reworded (options : GenerationOptions) {unit unit' : SourceUnit}
    (h : unit.Reworded ⟨options.marker⟩ unit') :
    generated options unit = generated options unit' ∧
      ∃ stages, graph options .artifact = .ok stages ∧ ∀ walkOptions,
        (stages.execute (catalog options) unit walkOptions).map Verdict.ofOutcome =
          (stages.execute (catalog options) unit' walkOptions).map Verdict.ofOutcome := by
  have hsame : generated options unit = generated options unit' := by
    rw [← generated_heard, h.heard_eq, generated_heard]
  refine ⟨hsame, chain, graph_artifact options, ?_⟩
  intro walkOptions
  rw [execute_chain, execute_chain, hsame]

/-- A unit of one activity with the given documentation, of the activity and of its operation. -/
def payments (docs methodDocs : List String) : SourceUnit :=
  { package := "billing"
    path := "src/billing.rs"
    items := [{
      name := "Payments"
      kind := .trait
      docs
      location := ⟨"src/billing.rs", 2, 10⟩
      members := [.method {
        name := "charge"
        docs := methodDocs
        receiver := .shared
        isGeneric := false
        isAsync := false
        params := []
        results := []
        location := ⟨"src/billing.rs", 3, 7⟩ }] }] }

def terse : SourceUnit := payments [" Moves money.", " weft:activity task_queue=money"] []

/-- Prose, a tag of another tool and a line that is not quite a tag, around the one that counts. -/
def wordy : SourceUnit :=
  payments [" lint:allow", " weft:activity task_queue=money", " weft:activity:"] [" weft: a word."]

theorem reworded_terse : terse.Reworded ⟨"weft"⟩ wordy where
  items := by
    refine .cons ⟨?_, .cons (.method ⟨?_, rfl⟩) .nil, rfl⟩ .nil
    · refine .tail (.tail (.single (.delete [] _ ?_)) (.insert [] _ ?_)) (.insert [_, _] [] ?_) <;>
        decide +kernel
    · exact .single (.insert [] [] (by decide +kernel))
  rest := rfl

/-- The two units have one artifact, whatever else is said in their documentation. -/
theorem terse_same_artifact :
    terse.Reworded ⟨"weft"⟩ wordy ∧ ((generated {} terse).value?.join).isSome = true ∧
      generated {} terse = generated {} wordy ∧
      ∃ stages, graph {} .artifact = .ok stages ∧ ∀ walkOptions,
        (stages.execute (catalog {}) terse walkOptions).map Verdict.ofOutcome =
          (stages.execute (catalog {}) wordy walkOptions).map Verdict.ofOutcome :=
  ⟨reworded_terse, by decide +kernel, same_artifact_of_reworded {} reworded_terse⟩

end ServiceGen.Generation
