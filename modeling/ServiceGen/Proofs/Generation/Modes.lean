import ServiceGen.Generation.Production
import ServiceGen.Proofs.Generation.Batch
import ServiceGen.Proofs.Generation.Production

/-!
The modes of a run. How many analyzers run at the same time, and whether the others go on after a
failure, changes what is told of a failure and nothing that is generated. To end with the first
failure refuses what would be reported with failures, and changes nothing else.
-/
namespace ServiceGen

open Analysis Generation

/-- That an error ends a batch because the unit of a path failed. -/
def BatchError.Blames (path : String) (error : BatchError) : Prop :=
  (∃ cause, error = .unit path cause) ∨ ∃ names, error = .analyzers path names

theorem BatchError.blames_of (walkOptions : WalkOptions) (unit : SourceUnit)
    (error : WalkError StageError) : (BatchError.of walkOptions unit error).Blames unit.path := by
  rw [BatchError.of]
  split
  · exact .inr ⟨_, rfl⟩
  · exact .inl ⟨_, rfl⟩

namespace Batch

variable {settings : Settings} {batch batch' share share' later : Batch} {unit : SourceUnit}
  {units : List SourceUnit}

/-! Walks -/

/-- What a batch holds apart from how failures are told: its products, and the units that failed. -/
def essence (batch : Batch) : List Product × List String :=
  (batch.products, batch.failures.map UnitFailure.path)

theorem essence_append (batch later : Batch) : (batch.append later).essence =
    (batch.essence.1 ++ later.essence.1, batch.essence.2 ++ later.essence.2) := by
  simp [essence, append]

theorem essence_shareOf (settings : Settings) (walk : WalkOptions) (unit : SourceUnit) :
    (shareOf { settings with walk } unit).essence = (shareOf settings unit).essence := by
  simp only [essence, shareOf]
  cases error? settings.generation unit <;> rfl

theorem take_congr (hbatch : batch.essence = batch'.essence)
    (hshare : share.essence = share'.essence) :
    (batch.take share).map essence = (batch'.take share').map essence := by
  have hproducts : batch.products = batch'.products := congrArg Prod.fst hbatch
  have hnew : share.products = share'.products := congrArg Prod.fst hshare
  have hrival (artifact : Artifact) : batch.rival? artifact = batch'.rival? artifact := by
    rw [rival?, rival?, hproducts]
  simp only [take, hnew, hrival]
  split
  · rfl
  · exact congrArg Except.ok (by rw [essence_append, essence_append, hbatch, hshare])

/-- However the analyzers walk, the same is generated, and the same units fail. -/
theorem foldlM_congr (hfast : settings.failFast = false) (walk : WalkOptions)
    (hbatch : batch.essence = batch'.essence) :
    (units.foldlM (add settings chain) batch).map essence =
      (units.foldlM (add { settings with walk } chain) batch').map essence := by
  induction units generalizing batch batch' with
  | nil => exact congrArg Except.ok hbatch
  | cons unit rest ih =>
    have hstep := take_congr hbatch (essence_shareOf settings walk unit).symm
    have hfirst : add settings chain batch unit = batch.take (shareOf settings unit) :=
      add_eq_take batch (.inl hfast)
    have hsecond : add { settings with walk } chain batch' unit =
        batch'.take (shareOf { settings with walk } unit) := add_eq_take batch' (.inl hfast)
    rw [List.foldlM_cons, List.foldlM_cons, hfirst, hsecond]
    cases hleft : batch.take (shareOf settings unit) with
    | error cause =>
      cases hright : batch'.take (shareOf { settings with walk } unit) with
      | error cause' =>
        rw [hleft, hright] at hstep
        exact congrArg Except.error (Except.error.inj hstep)
      | ok next => simp [hleft, hright, Except.map] at hstep
    | ok next =>
      cases hright : batch'.take (shareOf { settings with walk } unit) with
      | error cause => simp [hleft, hright, Except.map] at hstep
      | ok next' =>
        rw [hleft, hright] at hstep
        exact ih (Except.ok.inj hstep)

/-! The first failure -/

/-- Units that do not fail are taken in whether or not failures end the batch. -/
theorem foldlM_of_none (failFast : Bool)
    (hnone : ∀ unit ∈ units, error? settings.generation unit = none) :
    units.foldlM (add { settings with failFast } chain) batch =
      units.foldlM (add { settings with failFast := false } chain) batch := by
  induction units generalizing batch with
  | nil => rfl
  | cons unit rest ih =>
    have hunit := hnone unit List.mem_cons_self
    have hfirst : add { settings with failFast } chain batch unit =
        batch.take (shareOf settings unit) := add_eq_take batch (.inr hunit)
    have hsecond : add { settings with failFast := false } chain batch unit =
        batch.take (shareOf settings unit) := add_eq_take batch (.inr hunit)
    rw [List.foldlM_cons, List.foldlM_cons, hfirst, hsecond]
    refine bind_congr fun next => ih fun other hother => ?_
    exact hnone other (List.mem_cons_of_mem _ hother)

theorem failures_sharesOf (settings : Settings) (units : List SourceUnit) :
    (sharesOf settings units).failures = units.filterMap fun unit =>
      (error? settings.generation unit).map (UnitFailure.of settings.walk unit) := by
  induction units with
  | nil => rfl
  | cons unit rest ih =>
    rw [sharesOf, append, ih, List.filterMap_cons]
    cases herror : error? settings.generation unit <;> simp [shareOf, herror]

/-- Where a unit fails there is a first one that does. -/
theorem exists_first_error {options : GenerationOptions}
    (hfails : ¬ ∀ unit ∈ units, error? options unit = none) :
    ∃ front unit back error, units = front ++ unit :: back ∧
      (∀ other ∈ front, error? options other = none) ∧ error? options unit = some error := by
  obtain ⟨unit, hunit⟩ : ∃ unit, units.find? (fun unit => (error? options unit).isSome) =
      some unit := by
    rw [← Option.ne_none_iff_exists']
    exact fun hnone => hfails fun unit hmem => by simpa using List.find?_eq_none.mp hnone unit hmem
  obtain ⟨hsome, front, back, rfl, hfront⟩ := List.find?_eq_some_iff_append.mp hunit
  obtain ⟨error, herror⟩ := Option.isSome_iff_exists.mp hsome
  exact ⟨front, unit, back, error, rfl, fun other hother => by simpa using hfront other hother,
    herror⟩

/-- If failures end the batch, the first unit that fails does, unless two units before it have
artifacts of one path. -/
theorem ofUnits_failFast_of_some {front back : List SourceUnit}
    (hfront : ∀ other ∈ front, error? settings.generation other = none)
    {error : WalkError StageError} (herror : error? settings.generation unit = some error) :
    ofUnits { settings with failFast := true } chain (front ++ unit :: back) =
      (ofUnits { settings with failFast := false } chain front).bind fun _ =>
        .error (.of settings.walk unit error) := by
  rw [ofUnits, ofUnits, List.foldlM_append, foldlM_of_none true hfront]
  refine bind_congr fun next => ?_
  have hend : add { settings with failFast := true } chain next unit =
      .error (.of settings.walk unit error) := add_of_failFast next rfl herror
  rw [List.foldlM_cons, hend]
  rfl

theorem ofUnits_failFast_eq_ok :
    ofUnits { settings with failFast := true } chain units = .ok batch ↔
      ofUnits { settings with failFast := false } chain units = .ok batch ∧
        batch.failures = [] := by
  have hfailures (hbatch : ofUnits { settings with failFast := false } chain units = .ok batch) :
      batch.failures = units.filterMap fun unit =>
        (error? settings.generation unit).map (UnitFailure.of settings.walk unit) := by
    rw [((ofUnits_eq_ok rfl).mp hbatch).2, failures_sharesOf]
  by_cases hnone : ∀ unit ∈ units, error? settings.generation unit = none
  · rw [ofUnits, foldlM_of_none true hnone]
    refine ⟨fun hbatch => ⟨hbatch, ?_⟩, And.left⟩
    rw [hfailures hbatch, List.filterMap_eq_nil_iff]
    exact fun unit hunit => by rw [hnone unit hunit, Option.map_none]
  · obtain ⟨front, unit, back, error, rfl, hfront, herror⟩ := exists_first_error hnone
    constructor
    · rw [ofUnits_failFast_of_some hfront herror]
      cases ofUnits { settings with failFast := false } chain front <;>
        exact fun hbatch => absurd hbatch (by simp [Except.bind])
    · rintro ⟨hbatch, hempty⟩
      rw [hfailures hbatch, List.filterMap_eq_nil_iff] at hempty
      have := hempty unit (by simp)
      simp [herror] at this

/-- The first failure that a batch would hold ends it if failures are to end it. -/
theorem exists_blames {failure : UnitFailure} {others : List UnitFailure}
    (hbatch : ofUnits { settings with failFast := false } chain units = .ok batch)
    (hfailures : batch.failures = failure :: others) :
    ∃ cause, ofUnits { settings with failFast := true } chain units = .error cause ∧
      cause.Blames failure.path := by
  rw [((ofUnits_eq_ok rfl).mp hbatch).2, failures_sharesOf] at hfailures
  have hfails : ¬ ∀ unit ∈ units, error? settings.generation unit = none := by
    intro hnone
    obtain ⟨unit, hunit, hfailure⟩ := List.mem_filterMap.mp
      (hfailures ▸ List.mem_cons_self : failure ∈ units.filterMap _)
    change (error? settings.generation unit).map _ = _ at hfailure
    simp [hnone unit hunit] at hfailure
  obtain ⟨front, unit, back, error, rfl, hfront, herror⟩ := exists_first_error hfails
  have hskipped : (front.filterMap fun unit =>
      (error? settings.generation unit).map (UnitFailure.of settings.walk unit)) = [] :=
    List.filterMap_eq_nil_iff.mpr fun other hother => by rw [hfront other hother, Option.map_none]
  obtain rfl : UnitFailure.of settings.walk unit error = failure := by
    change (List.filterMap (fun unit =>
      (error? settings.generation unit).map (UnitFailure.of settings.walk unit)) _) = _ at hfailures
    rw [List.filterMap_append, hskipped, List.nil_append, List.filterMap_cons, herror] at hfailures
    exact (List.cons.inj hfailures).1
  refine ⟨.of settings.walk unit error, ?_, BatchError.blames_of settings.walk unit error⟩
  rw [ofUnits, List.foldlM_append] at hbatch
  rw [ofUnits_failFast_of_some hfront herror, ofUnits]
  cases hstart : front.foldlM (add { settings with failFast := false } chain) empty with
  | error cause => simp [hstart, bind, Except.bind] at hbatch
  | ok before => rfl

end Batch

/-- That two reports differ in nothing but what is told: the diagnostics, and why units failed. -/
structure RunReport.SameOutput (report other : RunReport) : Prop where
  units : report.units = other.units
  artifacts : report.artifacts = other.artifacts
  written : report.written = other.written
  failures : report.failures.map UnitFailure.path = other.failures.map UnitFailure.path

namespace Production

variable {settings : Settings} {formatter : Option Formatter} {tree : FileTree}

/-- That two runs leave the same tree, and end with the same error or with the same output. -/
inductive Agree : FileTree × Except RunError RunReport → FileTree × Except RunError RunReport → Prop
  | error (later : FileTree) (cause : RunError) : Agree (later, .error cause) (later, .error cause)
  | ok (later : FileTree) {report other : RunReport} (hsame : report.SameOutput other) :
    Agree (later, .ok report) (later, .ok other)

/-- Writes what was generated for so many units, and reports it. -/
def finish (settings : Settings) (formatter : Option Formatter) (tree : FileTree) (units : Nat)
    (batch : Batch) : FileTree × Except RunError RunReport :=
  let artifacts := batch.products.map Product.artifact
  let formatter := if settings.rustfmt then formatter else none
  match Writing.writeArtifacts formatter settings.outputRoot tree artifacts with
  | (tree, .error cause) => (tree, .error (.write cause))
  | (tree, .ok written) =>
    (tree, .ok ⟨units, artifacts, written, batch.diagnostics, batch.failures⟩)

/-- A run loads units, generates a batch of them, and finishes with it. -/
theorem run_eq (settings : Settings) (formatter : Option Formatter) (tree : FileTree) :
    run settings formatter tree =
      match units settings tree with
      | .error cause => (tree, .error cause)
      | .ok loaded =>
        match Batch.ofUnits settings chain loaded with
        | .error cause => (tree, .error (.batch cause))
        | .ok batch => finish settings formatter tree loaded.length batch := by
  rw [run, plan, graph_artifact]
  cases units settings tree with
  | error cause => rfl
  | ok loaded =>
    simp only [bind, Except.bind, pure, Except.pure, Except.mapError]
    cases Batch.ofUnits settings chain loaded <;> rfl

theorem failures_of_finish {units : Nat} {batch : Batch} {later : FileTree} {report : RunReport}
    (hfinish : finish settings formatter tree units batch = (later, .ok report)) :
    report.failures = batch.failures := by
  simp only [finish] at hfinish
  split at hfinish
  · exact absurd hfinish (by simp)
  · exact (Except.ok.inj (Prod.mk.inj hfinish).2) ▸ rfl

theorem agree_finish (settings : Settings) (walk : WalkOptions) (formatter : Option Formatter)
    (tree : FileTree) (units : Nat) {batch batch' : Batch}
    (hessence : batch.essence = batch'.essence) :
    Agree (finish settings formatter tree units batch)
      (finish { settings with walk } formatter tree units batch') := by
  have hproducts : batch.products = batch'.products := congrArg Prod.fst hessence
  have hroot : ({ settings with walk } : Settings).outputRoot = settings.outputRoot := rfl
  simp only [finish, hproducts, hroot]
  cases Writing.writeArtifacts (if settings.rustfmt then formatter else none)
    settings.outputRoot tree (batch'.products.map Product.artifact) with
  | mk later answer =>
    cases answer with
    | error cause => exact .error later _
    | ok written => exact .ok later ⟨rfl, rfl, rfl, congrArg Prod.snd hessence⟩

/-- However the analyzers walk, a run does the same. -/
theorem run_agree (hfast : settings.failFast = false) (walk : WalkOptions) :
    Agree (run settings formatter tree) (run { settings with walk } formatter tree) := by
  have hunits : units { settings with walk } tree = units settings tree := rfl
  rw [run_eq, run_eq, hunits]
  cases units settings tree with
  | error cause => exact .error tree cause
  | ok loaded =>
    have hbatch : (Batch.ofUnits settings chain loaded).map Batch.essence =
        (Batch.ofUnits { settings with walk } chain loaded).map Batch.essence :=
      Batch.foldlM_congr hfast walk rfl
    cases hleft : Batch.ofUnits settings chain loaded with
    | error cause =>
      cases hright : Batch.ofUnits { settings with walk } chain loaded with
      | error cause' =>
        rw [hleft, hright] at hbatch
        obtain rfl : cause = cause' := Except.error.inj hbatch
        simp only [hleft, hright]
        exact .error tree _
      | ok batch' => simp [hleft, hright, Except.map] at hbatch
    | ok batch =>
      cases hright : Batch.ofUnits { settings with walk } chain loaded with
      | error cause => simp [hleft, hright, Except.map] at hbatch
      | ok batch' =>
        rw [hleft, hright] at hbatch
        simp only [hleft, hright]
        exact agree_finish settings walk formatter tree loaded.length (Except.ok.inj hbatch)

section failFast

variable {later : FileTree} {report : RunReport}

/-- A run that ends with the first failure succeeds exactly if it would have succeeded without
failures, and then it has done the same. -/
theorem run_failFast_eq_ok :
    run { settings with failFast := true } formatter tree = (later, .ok report) ↔
      run { settings with failFast := false } formatter tree = (later, .ok report) ∧
        report.failures = [] := by
  have hunits (failFast : Bool) : units { settings with failFast } tree = units settings tree := rfl
  have hfinish (failFast : Bool) :
      finish { settings with failFast } formatter tree = finish settings formatter tree := rfl
  rw [run_eq, run_eq, hunits true, hunits false, hfinish true, hfinish false]
  cases units settings tree with
  | error cause => simp
  | ok loaded =>
    constructor
    · intro hrun
      cases hstrict : Batch.ofUnits { settings with failFast := true } chain loaded with
      | error cause => simp [hstrict] at hrun
      | ok batch =>
        obtain ⟨hlenient, hempty⟩ := Batch.ofUnits_failFast_eq_ok.mp hstrict
        simp only [hstrict] at hrun
        simp only [hlenient]
        exact ⟨hrun, (failures_of_finish hrun).trans hempty⟩
    · rintro ⟨hrun, hempty⟩
      cases hlenient : Batch.ofUnits { settings with failFast := false } chain loaded with
      | error cause => simp [hlenient] at hrun
      | ok batch =>
        simp only [hlenient] at hrun
        have hbatch : batch.failures = [] := (failures_of_finish hrun).symm.trans hempty
        simp only [Batch.ofUnits_failFast_eq_ok.mpr ⟨hlenient, hbatch⟩]
        exact hrun

/-- Where a run reports failures, one that ends with the first failure blames its unit, and leaves
the tree as it is. -/
theorem run_failFast_blames {failure : UnitFailure} {others : List UnitFailure}
    (hrun : run { settings with failFast := false } formatter tree = (later, .ok report))
    (hfailures : report.failures = failure :: others) :
    ∃ cause, run { settings with failFast := true } formatter tree =
      (tree, .error (.batch cause)) ∧ cause.Blames failure.path := by
  have hunits (failFast : Bool) : units { settings with failFast } tree = units settings tree := rfl
  rw [run_eq, hunits false] at hrun
  rw [run_eq, hunits true]
  cases hloaded : units settings tree with
  | error cause => simp [hloaded] at hrun
  | ok loaded =>
    simp only [hloaded] at hrun ⊢
    cases hbatch : Batch.ofUnits { settings with failFast := false } chain loaded with
    | error cause => simp [hbatch] at hrun
    | ok batch =>
      simp only [hbatch] at hrun
      obtain ⟨cause, hcause, hblames⟩ :=
        Batch.exists_blames hbatch ((failures_of_finish hrun).symm.trans hfailures)
      exact ⟨cause, by rw [hcause], hblames⟩

end failFast

/-- The modes of a run change what is told, but not what is generated. However the analyzers walk,
the same is done; to end with the first failure only refuses runs that would report one, with an
error that blames the unit of the first and without having written anything. -/
theorem modes_keep_output (settings : Settings) (formatter : Option Formatter) (tree : FileTree) :
    (settings.failFast = false → ∀ walk,
      Agree (run settings formatter tree) (run { settings with walk } formatter tree)) ∧
    (∀ later report,
      run { settings with failFast := true } formatter tree = (later, .ok report) ↔
        run { settings with failFast := false } formatter tree = (later, .ok report) ∧
          report.failures = []) ∧
    ∀ later report failure others,
      run { settings with failFast := false } formatter tree = (later, .ok report) →
      report.failures = failure :: others →
      ∃ cause, run { settings with failFast := true } formatter tree =
        (tree, .error (.batch cause)) ∧ cause.Blames failure.path :=
  ⟨fun hfast walk => run_agree hfast walk, fun _ _ => run_failFast_eq_ok,
    fun _ _ _ _ hrun hfailures => run_failFast_blames hrun hfailures⟩

/-- A tree with one source file, whose workflow lacks an operation that executes it. -/
def draftTree : FileTree :=
  { shopTree with entries := [(["shop"], .directory), (["shop", "src"], .directory),
      (["shop", "src", "a.rs"], .file "/// weft:workflow\npub trait A {}\n".toUTF8)] }

/-- The draft is reported as a failure, or refused. -/
theorem draft_modes : ∃ later report failure,
    run { shopSettings ["src/*.rs"] with failFast := false } none draftTree = (later, .ok report) ∧
      report.failures = [failure] ∧
      ∃ cause, run { shopSettings ["src/*.rs"] with failFast := true } none draftTree =
        (draftTree, .error (.batch cause)) ∧ cause.Blames failure.path := by
  obtain ⟨report, hrun, hlength⟩ := exists_of_told (fun report => report.failures.length)
    (by decide +kernel : (run { shopSettings ["src/*.rs"] with failFast := false } none
      draftTree).2.toOption.map (fun report => report.failures.length) = some 1)
  obtain ⟨failure, hfailures⟩ := List.length_eq_one_iff.mp hlength
  obtain ⟨-, -, hblames⟩ := modes_keep_output (shopSettings ["src/*.rs"]) none draftTree
  exact ⟨_, report, failure, hrun, hfailures, hblames _ report failure [] hrun hfailures⟩

end Production

end ServiceGen
