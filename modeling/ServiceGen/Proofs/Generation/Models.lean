import ServiceGen.Proofs.Generation.Modes

/-!
The packages that are emitted and the code that is generated. They come of different graphs, one
that ends with the services and one that goes on to the artifact, and what is left out of either is
decided in different places. But the same services are extracted in both, and a unit has services
exactly if a run has something to record of it, be it an artifact or a failure.
-/
namespace ServiceGen

open Analysis Files

namespace Generation

/-- The graph that ends with the services. -/
def shortChain : Stage.Graph :=
  ⟨[⟨.services, .services, "services", [1]⟩, ⟨.decorations, .decorations, "decorators", []⟩],
    [[1], [0]]⟩

theorem graph_services (options : GenerationOptions) :
    graph options .services = .ok shortChain := by
  cbv

section

variable (options : GenerationOptions) (unit : SourceUnit)

/-- What is extracted does not depend on the stages behind it, and its extraction does not fail. -/
theorem execute_shortChain (walkOptions : WalkOptions) :
    shortChain.execute (catalog options) unit walkOptions =
      .ok ⟨earlierResults options unit, earlierDiagnostics options unit, []⟩ := by
  have hbatches : Walk.batches shortChain walkOptions = shortChain.nodes.reverse.map ([·]) := by
    simp [Walk.batches, shortChain, Walk.pieces_singleton]
  rw [Graph.execute, Graph.walk, hbatches]
  rfl

/-- The package of a unit, if it has services. -/
def package? : Option Package :=
  (some (extracted options unit)).filter (!·.services.isEmpty)

end

variable {options : GenerationOptions} {unit : SourceUnit}

theorem generated_of_none (hnone : package? options unit = none) :
    generated options unit = ⟨[], .value none⟩ := by
  have hempty : (extracted options unit).services.isEmpty = true := by
    simpa [package?, Option.filter] using hnone
  rw [generated, Generation.artifact, if_pos hempty]

/-- Nothing is passed over in silence: the services of a unit have an artifact, or fail. -/
theorem artifact_or_error {package : Package} (hsome : package? options unit = some package) :
    (∃ artifact, artifact? options unit = some artifact ∧ artifact.package = package.name) ∨
      ∃ error, error? options unit = some error := by
  obtain ⟨hpackage, hservices⟩ := Option.filter_eq_some_iff.mp hsome
  obtain rfl := Option.some.inj hpackage
  have hfilled : ¬ (extracted options unit).services.isEmpty = true := by simpa using hservices
  simp only [artifact?, error?, generated, Generation.artifact, if_neg hfilled]
  cases plan options (extracted options unit) with
  | error cause => exact .inr ⟨_, rfl⟩
  | ok plan =>
    cases hrender : Render.Package.render options plan with
    | error cause => exact .inr ⟨_, by simp only [hrender]; rfl⟩
    | ok text => exact .inl ⟨_, by simp only [hrender]; rfl, rfl⟩

end Generation

open Generation

/-- What a run records of a unit that has services. -/
inductive Record where
  | artifact (artifact : Artifact)
  | failure (reason : String)
  deriving Repr, DecidableEq

/-- A unit with its package and with what a run records of it. A unit that has no package has no
record either. -/
structure Row where
  unit : SourceUnit
  entry : Option (Package × Record)
  deriving Repr, DecidableEq

namespace Row

def package? (row : Row) : Option Package := row.entry.map Prod.fst

def product? (row : Row) : Option Product :=
  match row.entry with
  | some (_, .artifact artifact) => some ⟨artifact, row.unit.path⟩
  | _ => none

def failure? (row : Row) : Option UnitFailure :=
  match row.entry with
  | some (_, .failure reason) => some ⟨row.unit.path, reason⟩
  | _ => none

/-- That the package is what the unit offers, and that the artifact is for this package. -/
structure Fits (options : GenerationOptions) (row : Row) : Prop where
  offers : row.package? = Generation.package? options row.unit
  named : ∀ package artifact, row.entry = some (package, .artifact artifact) →
    artifact.package = package.name

/-- What a unit adds to a batch makes a row with its package. -/
theorem exists_row (settings : Settings) (unit : SourceUnit) :
    ∃ row : Row, row.unit = unit ∧ row.Fits settings.generation ∧
      (Batch.shareOf settings unit).products = row.product?.toList ∧
      (Batch.shareOf settings unit).failures = row.failure?.toList := by
  cases hpackage : Generation.package? settings.generation unit with
  | none =>
    have hgenerated := generated_of_none hpackage
    refine ⟨⟨unit, none⟩, rfl, ⟨hpackage.symm, by simp⟩, ?_, ?_⟩
    · simp [Batch.shareOf, artifact?, hgenerated, Run.value?, product?]
    · simp [Batch.shareOf, error?, hgenerated, Account.errorOf?, failure?]
  | some package =>
    cases herror : error? settings.generation unit with
    | some error =>
      refine ⟨⟨unit, some (package, .failure (UnitFailure.of settings.walk unit error).reason)⟩,
        rfl, ⟨hpackage.symm, by simp⟩, ?_, ?_⟩
      · simp [Batch.shareOf, artifact?_of_error? herror, product?]
      · simp [Batch.shareOf, herror, failure?, UnitFailure.of]
    | none =>
      rcases artifact_or_error hpackage with ⟨artifact, hartifact, hname⟩ | ⟨error, hsome⟩
      · refine ⟨⟨unit, some (package, .artifact artifact)⟩, rfl, ⟨hpackage.symm, ?_⟩, ?_, ?_⟩
        · rintro _ _ ⟨⟩
          exact hname
        · simp [Batch.shareOf, hartifact, product?]
        · simp [Batch.shareOf, herror, failure?]
      · exact absurd (herror.symm.trans hsome) (by simp)

/-- The shares of units make rows with their packages. -/
theorem exists_rows (settings : Settings) (units : List SourceUnit) :
    ∃ rows : List Row, rows.map Row.unit = units ∧ (∀ row ∈ rows, row.Fits settings.generation) ∧
      (Batch.sharesOf settings units).products = rows.filterMap product? ∧
      (Batch.sharesOf settings units).failures = rows.filterMap failure? := by
  induction units with
  | nil => exact ⟨[], rfl, by simp, rfl, rfl⟩
  | cons unit rest ih =>
    obtain ⟨row, rfl, hfits, hproducts, hfailures⟩ := exists_row settings unit
    obtain ⟨rows, rfl, hrows, hproducts', hfailures'⟩ := ih
    refine ⟨row :: rows, rfl, ?_, ?_, ?_⟩
    · exact List.forall_mem_cons.mpr ⟨hfits, hrows⟩
    · rw [Batch.sharesOf, Batch.append, hproducts, hproducts', List.filterMap_cons]
      cases row.product? <;> rfl
    · rw [Batch.sharesOf, Batch.append, hfailures, hfailures', List.filterMap_cons]
      cases row.failure? <;> rfl

theorem filterMap_package? {options : GenerationOptions} {rows : List Row}
    (hfits : ∀ row ∈ rows, row.Fits options) :
    rows.filterMap Row.package? = (rows.map Row.unit).filterMap (Generation.package? options) := by
  rw [List.filterMap_map]
  exact List.filterMap_congr fun row hrow => (hfits row hrow).offers

end Row

namespace Production

variable {settings : Settings} {formatter : Option Formatter} {tree later : FileTree}
  {units : List SourceUnit} {report : RunReport}

theorem model?_eq (settings : Settings) (unit : SourceUnit) :
    model? settings shortChain unit = .ok (package? settings.generation unit) := by
  rw [model?, execute_shortChain]
  rfl

/-- The packages of all units that have services are emitted, and no unit fails. -/
theorem models_eq (hunits : Production.units settings tree = .ok units) :
    models settings tree = .ok (units.filterMap (package? settings.generation)) := by
  have hmodels : units.mapM (model? settings shortChain) =
      .ok (units.map (package? settings.generation)) := by
    rw [show model? settings shortChain = fun unit => .ok (package? settings.generation unit) from
      funext (model?_eq settings)]
    exact List.mapM_pure
  simp only [models, hunits, graph_services, bind, Except.bind, Except.mapError, hmodels]
  exact congrArg Except.ok (by rw [List.filterMap_map]; rfl)

theorem plan_eq_ofUnits (hunits : Production.units settings tree = .ok units) :
    plan settings tree = match Batch.ofUnits settings chain units with
      | .error cause => .error (.batch cause)
      | .ok batch => .ok (units.length, batch) := by
  simp only [plan, hunits, graph_artifact, bind, Except.bind, Except.mapError, pure, Except.pure]
  cases Batch.ofUnits settings chain units <;> rfl

/-- What a run reports of its units is what was planned for them. -/
theorem report_of_run {count : Nat} {batch : Batch}
    (hplan : plan settings tree = .ok (count, batch))
    (hrun : run settings formatter tree = (later, .ok report)) :
    report.artifacts = batch.products.map Product.artifact ∧
      report.failures = batch.failures := by
  simp only [run, hplan] at hrun
  split at hrun
  · exact absurd hrun (by simp)
  · obtain rfl := Except.ok.inj (Prod.mk.inj hrun).2
    exact ⟨rfl, rfl⟩

/-- The emitted packages and the generated code are of the same units. No unit fails to have its
package emitted, and the packages are those of the units of which a run that goes on after failures
records one artifact, for the package of that name, or one failure. Of all other units it records
neither. The run comes to that unless two units have artifacts of one path. -/
theorem models_match_run (settings : Settings) (formatter : Option Formatter) (tree : FileTree)
    (units : List SourceUnit) (hunits : Production.units settings tree = .ok units) :
    ∃ rows : List Row, rows.map Row.unit = units ∧ (∀ row ∈ rows, row.Fits settings.generation) ∧
      models settings tree = .ok (rows.filterMap Row.package?) ∧
      (settings.failFast = false →
        (∃ cause, plan settings tree = .error (.batch cause) ∧
          Batch.FirstCollision settings.generation units cause) ∨
        ∃ batch, plan settings tree = .ok (units.length, batch) ∧
          batch.products = rows.filterMap Row.product? ∧
          batch.failures = rows.filterMap Row.failure? ∧
          ∀ later report, run settings formatter tree = (later, .ok report) →
            report.artifacts = (rows.filterMap Row.product?).map Product.artifact ∧
            report.failures = rows.filterMap Row.failure?) := by
  obtain ⟨rows, hrows, hfits, hproducts, hfailures⟩ := Row.exists_rows settings units
  refine ⟨rows, hrows, hfits, ?_, fun hfast => ?_⟩
  · rw [models_eq hunits, Row.filterMap_package? hfits, hrows]
  · have hplan := plan_eq_ofUnits hunits
    by_cases hnodup : (units.filterMap (target? settings.generation)).Nodup
    · rw [Batch.ofUnits_of_nodup hfast hnodup] at hplan
      refine .inr ⟨_, hplan, hproducts, hfailures, fun later report hrun => ?_⟩
      rw [← hproducts, ← hfailures]
      exact report_of_run hplan hrun
    · obtain ⟨cause, hcause, hfirst⟩ := Batch.exists_firstCollision hfast hnodup
      rw [hcause] at hplan
      exact .inl ⟨cause, hplan, hfirst⟩

/-- A tree with three source files: an activity, a workflow that lacks an operation that executes
it, and a trait that is no service. -/
def mixedTree : FileTree :=
  { shopTree with entries := [(["shop"], .directory), (["shop", "src"], .directory),
      (["shop", "src", "a.rs"], .file "/// weft:activity\npub trait A {}\n".toUTF8),
      (["shop", "src", "b.rs"], .file "/// weft:workflow\npub trait B {}\n".toUTF8),
      (["shop", "src", "c.rs"], .file "pub trait C {}\n".toUTF8)] }

def mixedSettings : Settings := shopSettings ["src/a.rs", "src/b.rs", "src/c.rs"]

/-- The source files of the mixed tree. -/
def mixedFound : List Found :=
  ["a.rs", "b.rs", "c.rs"].map fun name => ⟨"/shop/src/" ++ name, ["shop", "src", name]⟩

theorem files_mixed :
    Loading.files mixedTree mixedSettings.directory mixedSettings.patterns = .ok mixedFound := by
  have htold : ((Loading.meant mixedSettings.patterns).mapM
      (Loading.matching mixedTree mixedSettings.directory)).toOption =
        some (mixedFound.map ([·])) := by decide +kernel
  cases hmatched : (Loading.meant mixedSettings.patterns).mapM
      (Loading.matching mixedTree mixedSettings.directory) with
  | error cause => simp [hmatched, Except.toOption] at htold
  | ok matched =>
    rw [hmatched] at htold
    obtain rfl : matched = mixedFound.map ([·]) := Option.some.inj htold
    exact Loading.files_of_sorted hmatched (by decide +kernel) (by decide +kernel)

/-- Of three units two have packages, of which one has an artifact and the other a failure. -/
theorem mixed_models_match : ∃ (units : List SourceUnit) (rows : List Row),
    Production.units mixedSettings mixedTree = .ok units ∧
      rows.map Row.unit = units ∧ rows.length = 3 ∧
      models mixedSettings mixedTree = .ok (rows.filterMap Row.package?) ∧
      (rows.filterMap Row.package?).length = 2 ∧ (rows.filterMap Row.product?).length = 1 ∧
      (rows.filterMap Row.failure?).length = 1 := by
  have htold : (mixedFound.mapM (Loading.unit mixedTree mixedSettings.directory)).toOption.map
      (fun units => (units.length, (units.filterMap (package? mixedSettings.generation)).length,
        (Batch.ofUnits mixedSettings chain units).toOption.map fun batch =>
          (batch.products.length, batch.failures.length))) = some (3, 2, some (1, 1)) := by
    decide +kernel
  have hmap := Loading.units_of_files files_mixed
  cases hunits : mixedFound.mapM (Loading.unit mixedTree mixedSettings.directory) with
  | error cause => simp [hunits, Except.toOption] at htold
  | ok units =>
    rw [hunits] at htold hmap
    obtain ⟨hlength, hpackages, hrecords⟩ : units.length = 3 ∧
        (units.filterMap (package? mixedSettings.generation)).length = 2 ∧
        (Batch.ofUnits mixedSettings chain units).toOption.map (fun batch =>
          (batch.products.length, batch.failures.length)) = some (1, 1) := by
      simpa [Except.toOption] using htold
    have hloaded : Production.units mixedSettings mixedTree = .ok units := by
      rw [Production.units, hmap]
      rfl
    obtain ⟨rows, rfl, hfits, hmodels, hplan⟩ :=
      models_match_run mixedSettings none mixedTree units hloaded
    refine ⟨_, rows, hloaded, rfl, by simpa using hlength, hmodels, ?_, ?_⟩
    · rwa [Row.filterMap_package? hfits]
    · have hplanned := plan_eq_ofUnits hloaded
      rcases hplan rfl with ⟨cause, hcause, -⟩ | ⟨batch, hbatch, hproducts, hfailures, -⟩
      · cases hof : Batch.ofUnits mixedSettings chain (rows.map Row.unit) with
        | error other => simp [hof, Except.toOption] at hrecords
        | ok batch => simp [hof, hcause] at hplanned
      · cases hof : Batch.ofUnits mixedSettings chain (rows.map Row.unit) with
        | error other => simp [hof, hbatch] at hplanned
        | ok planned =>
          rw [hof, hbatch] at hplanned
          obtain rfl : batch = planned := by simpa using hplanned
          rw [hof] at hrecords
          rw [← hproducts, ← hfailures]
          exact Prod.mk.inj (Option.some.inj hrecords)

end Production

end ServiceGen
