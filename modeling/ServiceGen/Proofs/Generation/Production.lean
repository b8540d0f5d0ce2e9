import ServiceGen.Generation.Production
import ServiceGen.Proofs.Generation.Marker
import ServiceGen.Proofs.Generation.Writing

/-!
What a run does to a tree of files. The plan depends on nothing but the units that are loaded, and
its artifacts have different paths, each beside its source. So writing them overwrites no source,
and a second run plans the same, as long as it loads the same units.
-/
namespace ServiceGen

open Analysis Files FileTree

namespace Batch

variable {settings : Settings} {batch later : Batch} {unit : SourceUnit}

/-- What holds of the artifacts of a batch at any time. -/
structure Proper (batch : Batch) : Prop where
  distinct : (batch.products.map fun product => components product.artifact.path).Nodup
  stands : ∀ product ∈ batch.products, product.artifact.Stands

theorem proper_of_products (hproper : batch.Proper) (hsame : later.products = batch.products) :
    later.Proper :=
  ⟨hsame ▸ hproper.distinct, hsame ▸ hproper.stands⟩

theorem proper_addArtifact (hproper : batch.Proper) {artifact : Option Artifact}
    (hstands : ∀ given, artifact = some given → given.Stands)
    (hadd : batch.addArtifact unit artifact = .ok later) : later.Proper := by
  cases artifact with
  | none => exact Except.ok.inj hadd ▸ hproper
  | some artifact =>
    rw [addArtifact] at hadd
    split at hadd
    · exact absurd hadd (by simp)
    · next hrival =>
      obtain rfl := Except.ok.inj hadd
      refine ⟨?_, ?_⟩
      · rw [List.map_append, List.map_singleton, List.nodup_append]
        refine ⟨hproper.distinct, List.nodup_singleton _, ?_⟩
        intro path hpath other hother heq
        obtain ⟨product, hproduct, rfl⟩ := List.mem_map.mp hpath
        rw [List.mem_singleton] at hother
        have hnot := List.find?_eq_none.mp hrival product hproduct
        exact hnot (by simpa using heq.trans hother)
      · intro product hproduct
        rcases List.mem_append.mp hproduct with hproduct | hproduct
        · exact hproper.stands product hproduct
        · exact List.mem_singleton.mp hproduct ▸ hstands artifact rfl

theorem products_addFailed {failed : List String} {failFast : Bool}
    (hadd : batch.addFailed failFast unit failed = .ok later) :
    later.products = batch.products := by
  rw [addFailed] at hadd
  split at hadd
  · exact congrArg products (Except.ok.inj hadd).symm
  · split at hadd
    · exact absurd hadd (by simp)
    · obtain rfl := Except.ok.inj hadd
      rfl

end Batch

namespace Generation

variable {options : GenerationOptions} {unit : SourceUnit} {artifact : Artifact}

/-- The artifact of a unit is for the package of the unit and stands beside its source. -/
theorem exists_text_of_generated (hvalue : (generated options unit).value? = some (some artifact)) :
    ∃ text, artifact = .of unit.dir unit.package text := by
  rw [generated, Generation.artifact] at hvalue
  split at hvalue
  · exact absurd hvalue (by simp [Run.value?])
  · split at hvalue
    · exact absurd hvalue (by simp [Run.value?])
    · split at hvalue
      · exact absurd hvalue (by simp [Run.value?])
      · next text _ =>
        exact ⟨text, (Option.some.inj (Option.some.inj hvalue)).symm⟩

theorem exists_text_of_execute {walkOptions : WalkOptions} {outcome : Outcome Stage.Result}
    (hexecute : chain.execute (catalog options) unit walkOptions = .ok outcome)
    (hresult : outcome.results.get? .artifact = some (some artifact)) :
    ∃ text, artifact = .of unit.dir unit.package text := by
  have hverdict := execute_chain options unit walkOptions
  rw [hexecute] at hverdict
  simp only [Except.map, Verdict.ofRun] at hverdict
  split at hverdict
  · exact absurd hverdict (by simp)
  · have hvalue := congrArg Verdict.result (Except.ok.inj hverdict)
    exact exists_text_of_generated (hvalue.symm.trans hresult)

end Generation

open Generation

namespace Batch

variable {settings : Settings} {batch later : Batch} {unit : SourceUnit}

theorem proper_add (hproper : batch.Proper) (hunit : unit.IsLoaded)
    (hadd : batch.add settings chain unit = .ok later) : later.Proper := by
  rw [add] at hadd
  split at hadd
  · next outcome hexecute =>
    simp only [addOutcome, bind, Except.bind] at hadd
    split at hadd
    · exact absurd hadd (by simp)
    · next noted hnoted =>
      have hproducts := products_addFailed hnoted
      refine proper_addArtifact (proper_of_products hproper hproducts) ?_ hadd
      intro artifact hartifact
      obtain ⟨result, hresult, hsome⟩ := Option.bind_eq_some_iff.mp hartifact
      obtain ⟨text, rfl⟩ := exists_text_of_execute hexecute (hresult.trans (congrArg some hsome))
      exact Artifact.stands_of hunit text
  · split at hadd
    · exact absurd hadd (by simp)
    · obtain rfl := Except.ok.inj hadd
      exact proper_of_products hproper rfl

theorem proper_foldlM {units : List SourceUnit} (hproper : batch.Proper)
    (hunits : ∀ unit ∈ units, unit.IsLoaded)
    (hbatch : units.foldlM (add settings chain) batch = .ok later) : later.Proper := by
  induction units generalizing batch with
  | nil => exact Except.ok.inj hbatch ▸ hproper
  | cons unit rest ih =>
    rw [List.foldlM_cons] at hbatch
    cases hadd : batch.add settings chain unit with
    | error cause => simp [hadd, bind, Except.bind] at hbatch
    | ok next =>
      rw [hadd] at hbatch
      exact ih (proper_add hproper (hunits unit List.mem_cons_self) hadd)
        (fun other hother => hunits other (List.mem_cons_of_mem _ hother)) hbatch

theorem proper_empty : empty.Proper := ⟨List.nodup_nil, by simp [empty]⟩

end Batch

namespace Production

variable {settings : Settings} {formatter : Option Formatter} {tree later : FileTree}
  {report : RunReport}

/-- What is planned comes of the units that are loaded. -/
theorem exists_of_plan {count : Nat} {batch : Batch}
    (hplan : plan settings tree = .ok (count, batch)) :
    ∃ loaded, Loading.units tree settings.directory settings.patterns = .ok loaded ∧
      loaded.length = count ∧ Batch.ofUnits settings chain loaded = .ok batch := by
  simp only [plan, units, graph_artifact, bind, Except.bind, pure, Except.pure] at hplan
  cases hunits : Loading.units tree settings.directory settings.patterns with
  | error cause => simp [hunits, Except.mapError] at hplan
  | ok loaded =>
    simp only [hunits, Except.mapError] at hplan
    cases hbatch : Batch.ofUnits settings chain loaded with
    | error cause => simp [hbatch] at hplan
    | ok generated =>
      simp only [hbatch, Except.ok.injEq, Prod.mk.injEq] at hplan
      obtain ⟨hcount, rfl⟩ := hplan
      exact ⟨loaded, rfl, hcount, hbatch⟩

/-- The artifacts that are planned have different paths. -/
theorem proper_of_plan {count : Nat} {batch : Batch}
    (hplan : plan settings tree = .ok (count, batch)) : batch.Proper := by
  obtain ⟨loaded, hunits, -, hbatch⟩ := exists_of_plan hplan
  exact Batch.proper_foldlM Batch.proper_empty
    (fun _ => Loading.isLoaded_of_mem_units hunits) hbatch

/-- Every file that is loaded counts as a unit. -/
theorem length_of_plan {count : Nat} {batch : Batch}
    (hplan : plan settings tree = .ok (count, batch)) {found : List Found}
    (hfiles : Loading.files tree settings.directory settings.patterns = .ok found) :
    found.length = count := by
  obtain ⟨loaded, hunits, hlength, -⟩ := exists_of_plan hplan
  obtain ⟨found', hfiles', hmap⟩ := Loading.exists_files_of_units hunits
  obtain rfl := Except.ok.inj (hfiles.symm.trans hfiles')
  rw [← Loading.length_of_mapM hmap, hlength]

theorem plan_eq
    (hunits : Loading.units later settings.directory settings.patterns =
      Loading.units tree settings.directory settings.patterns) :
    plan settings later = plan settings tree := by
  rw [plan, plan, units, units, hunits]

/-- What a run that succeeds has done to a tree. -/
structure Done (settings : Settings) (tree later : FileTree) (report : RunReport) : Prop where
  distinct : (report.artifacts.map Artifact.path).Nodup
  written : report.written = report.artifacts.map (Writing.target settings.outputRoot)
  /-- The file of each artifact holds its text. -/
  content : ∀ artifact ∈ report.artifacts,
    later.content? (join settings.outputRoot artifact.path) = some artifact.text.toUTF8
  /-- Beside these files, all that is new is directories on the way to them. -/
  other : ∀ place, later.entry? place = tree.entry? place ∨
    (∃ artifact ∈ report.artifacts,
      later.resolve (join settings.outputRoot artifact.path) = some place) ∨
    (tree.entry? place = none ∧ later.entry? place = some .directory ∧
      ∃ artifact ∈ report.artifacts,
        Writing.OnWayTo later (join settings.outputRoot artifact.path) place)
  /-- No source file is the file of an artifact. -/
  sources : ∀ loaded,
    Loading.files tree settings.directory settings.patterns = .ok loaded → ∀ found ∈ loaded,
      later.content? found.path = tree.content? found.path ∧
      ∀ artifact ∈ report.artifacts,
        later.resolve found.path ≠ later.resolve (join settings.outputRoot artifact.path)

/-- What is written is what is planned. -/
theorem exists_of_run (hrustfmt : settings.rustfmt = false)
    (hrun : run settings formatter tree = (later, .ok report)) :
    ∃ batch, plan settings tree = .ok (report.units, batch) ∧
      report = ⟨report.units, batch.products.map Product.artifact, report.written,
        batch.diagnostics, batch.failures⟩ ∧
      Writing.writeArtifacts none settings.outputRoot tree (batch.products.map Product.artifact) =
        (later, .ok report.written) := by
  simp only [run, hrustfmt, Bool.false_eq_true, if_false] at hrun
  split at hrun
  · exact absurd hrun (by simp)
  · next count batch hplan =>
    split at hrun
    · exact absurd hrun (by simp)
    · next written paths hwrite =>
      obtain ⟨rfl, hreport⟩ := Prod.mk.inj hrun
      obtain rfl := Except.ok.inj hreport
      exact ⟨batch, hplan, rfl, hwrite⟩

theorem run_of_error {cause : RunError} (hrustfmt : settings.rustfmt = false)
    (hrun : run settings formatter tree = (later, .error cause)) :
    (∃ failure, cause = .write failure) ∨ later = tree := by
  simp only [run, hrustfmt, Bool.false_eq_true, if_false] at hrun
  split at hrun
  · exact .inr (Prod.mk.inj hrun).1.symm
  · split at hrun
    · next failure _ =>
      exact .inl ⟨failure, (Except.error.inj (Prod.mk.inj hrun).2).symm⟩
    · exact absurd hrun (by simp)

/-- The file of an artifact has the name of a generated file. -/
theorem isGenerated_target {artifact : Artifact} (hstands : artifact.Stands) {root : String}
    {place : Place} (hplace : tree.resolve (Writing.target root artifact) = some place) :
    Loading.IsGenerated place := by
  obtain ⟨names, hnames⟩ := hstands
  obtain ⟨top, -, rfl⟩ := exists_of_resolve_join hnames hplace
  refine ⟨top ++ names, artifact.package ++ Artifact.ending, by simp, ?_⟩
  rw [String.endsWith_eq_endsWith_toSlice, String.Slice.endsWith_string_iff]
  simp

theorem addsGenerated_of_holding {artifacts : List Artifact} {root : String}
    (hstands : ∀ artifact ∈ artifacts, artifact.Stands)
    (hholding : Writing.Holding root artifacts tree later) :
    Loading.AddsGenerated tree later := by
  refine ⟨hholding.sound, hholding.grows, fun place => ?_⟩
  rcases hholding.other place with hsame | ⟨artifact, hartifact, htarget⟩ | ⟨-, hmade, -⟩
  · exact .inl hsame
  · exact .inr (.inr (isGenerated_target (hstands artifact hartifact) htarget))
  · exact .inr (.inl (isDirectory_iff.mpr hmade))

/-- A run that succeeds has written the artifacts that were planned, and could write them again. -/
theorem holding_of_run (hrustfmt : settings.rustfmt = false) (hsound : Sound tree)
    (hrun : run settings formatter tree = (later, .ok report)) :
    (report.artifacts.map fun artifact => components artifact.path).Nodup ∧
      (∀ artifact ∈ report.artifacts, artifact.Stands) ∧
      report.written = report.artifacts.map (Writing.target settings.outputRoot) ∧
      Writing.Holding settings.outputRoot report.artifacts tree later ∧
      Writing.writeArtifacts none settings.outputRoot later report.artifacts =
        (later, .ok report.written) := by
  obtain ⟨batch, hplan, hreport, hwrite⟩ := exists_of_run hrustfmt hrun
  have hartifacts : report.artifacts = batch.products.map Product.artifact := by rw [hreport]
  have hproper := proper_of_plan hplan
  have hstands : ∀ artifact ∈ report.artifacts, artifact.Stands := by
    intro artifact hartifact
    rw [hartifacts] at hartifact
    obtain ⟨product, hproduct, rfl⟩ := List.mem_map.mp hartifact
    exact hproper.stands product hproduct
  have hdistinct : (report.artifacts.map fun artifact => components artifact.path).Nodup := by
    rw [hartifacts, List.map_map]
    exact hproper.distinct
  rw [← hartifacts] at hwrite
  obtain ⟨hanswers, hholding, hagain⟩ :=
    Writing.holding_writeArtifacts hsound hstands hdistinct hwrite
  refine ⟨hdistinct, hstands, hanswers, hholding, ?_⟩
  rw [hanswers]
  exact hagain later (.refl later) hholding.content

/-- A tree with one source file. -/
def shopTree : FileTree :=
  { entries := [(["shop"], .directory), (["shop", "src"], .directory),
      (["shop", "src", "a.rs"], .file "/// weft:activity\npub trait A {}\n".toUTF8)]
    base := ["shop"]
    journal := [] }

def shopSettings (patterns : List String) : Settings :=
  { Settings.initial "/shop" 1 with output := some "out", patterns }

theorem sound_shopTree : Sound shopTree := by decide +kernel

/-- A run of which something is known that it reports has a report. -/
theorem exists_of_told {settings : Settings} {tree : FileTree} {α : Type} (told : RunReport → α)
    {a : α} (htold : (run settings none tree).2.toOption.map told = some a) :
    ∃ report, run settings none tree = ((run settings none tree).1, .ok report) ∧
      told report = a := by
  cases hrun : run settings none tree with
  | mk later answer =>
    rw [hrun] at htold
    cases answer with
    | error cause => exact absurd htold (by simp [Except.toOption])
    | ok report => exact ⟨report, rfl, Option.some.inj htold⟩

/-- A run of which the numbers of units and artifacts are known has a report. -/
theorem exists_of_counts (settings : Settings) (tree : FileTree) (units artifacts : Nat)
    (hcounts : (run settings none tree).2.toOption.map
      (fun report => (report.units, report.artifacts.length)) = some (units, artifacts)) :
    ∃ report, run settings none tree = ((run settings none tree).1, .ok report) ∧
      report.units = units ∧ report.artifacts.length = artifacts := by
  obtain ⟨report, hrun, htold⟩ := exists_of_told _ hcounts
  exact ⟨report, hrun, Prod.mk.inj htold⟩

theorem run_shop : ∃ report, run (shopSettings ["src/*.rs"]) none shopTree =
      ((run (shopSettings ["src/*.rs"]) none shopTree).1, .ok report) ∧
    report.units = 1 ∧ report.artifacts.length = 1 :=
  exists_of_counts _ _ 1 1 (by decide +kernel)

/-- To run once more does nothing and reports the same, unless patterns climb out of directories
that the first run made. -/
theorem run_again (settings : Settings) (formatter : Option Formatter) (tree later : FileTree)
    (report : RunReport) (hrustfmt : settings.rustfmt = false) (hsound : Sound tree)
    (hrun : run settings formatter tree = (later, .ok report))
    (hdirectory : later.content? settings.directory = none)
    (hclimbed : ∀ place ∈ Loading.climbed later settings.directory settings.patterns,
      tree.has place = true) :
    run settings formatter later = (later, .ok report) := by
  obtain ⟨-, hstands, -, hholding, hagain⟩ := holding_of_run hrustfmt hsound hrun
  obtain ⟨batch, hplan, hreport, -⟩ := exists_of_run hrustfmt hrun
  have hadds := addsGenerated_of_holding hstands hholding
  have hplan' : plan settings later = .ok (report.units, batch) := by
    rw [plan_eq (Loading.units_eq hsound hadds hdirectory hclimbed), hplan]
  have hartifacts : report.artifacts = batch.products.map Product.artifact := by rw [hreport]
  rw [hartifacts] at hagain
  simp only [run, hplan', hrustfmt, Bool.false_eq_true, if_false, hagain]
  rw [← hreport]

/-- The pattern of the shop climbs out of nothing, so that its artifact is not written twice. -/
theorem run_again_shop : ∃ later report,
    run (shopSettings ["src/*.rs"]) none shopTree = (later, .ok report) ∧
      report.artifacts.length = 1 ∧
      run (shopSettings ["src/*.rs"]) none later = (later, .ok report) := by
  obtain ⟨report, hrun, -, hlength⟩ := run_shop
  have hclimbed (tree : FileTree) : Loading.climbed tree "/shop" ["src/*.rs"] = [] :=
    Loading.climbed_of_not_climbs (by decide +kernel)
  refine ⟨_, report, hrun, hlength, ?_⟩
  exact run_again (shopSettings ["src/*.rs"]) none shopTree _ report rfl sound_shopTree hrun
    (by decide +kernel) fun place hplace =>
      absurd (hclimbed _ ▸ hplace : place ∈ []) List.not_mem_nil

/-- A pattern that climbs out of the directory for output finds the source file once more when that
directory is there. -/
theorem run_again_climbing : ∃ later report,
    run (shopSettings ["src/*.rs", "out/../src/*.rs"]) none shopTree = (later, .ok report) ∧
      ∀ last, run (shopSettings ["src/*.rs", "out/../src/*.rs"]) none later ≠
        (last, .ok report) := by
  obtain ⟨report, hrun, hunits, -⟩ := exists_of_counts
    (shopSettings ["src/*.rs", "out/../src/*.rs"]) shopTree 1 1 (by decide +kernel)
  refine ⟨_, report, hrun, fun last hagain => ?_⟩
  obtain ⟨batch, hplan, -⟩ := exists_of_run rfl hagain
  have hpaths : ((Loading.meant ["src/*.rs", "out/../src/*.rs"]).mapM (Loading.matching
      (run (shopSettings ["src/*.rs", "out/../src/*.rs"]) none shopTree).1 "/shop")).toOption.map
        (fun matched => matched.flatten.map fun each => components each.path) =
      some [components "/shop/src/a.rs", components "/shop/out/../src/a.rs"] := by
    decide +kernel
  cases hmatched : (Loading.meant ["src/*.rs", "out/../src/*.rs"]).mapM (Loading.matching
    (run (shopSettings ["src/*.rs", "out/../src/*.rs"]) none shopTree).1 "/shop") with
  | error cause => exact absurd hpaths (by simp [hmatched, Except.toOption])
  | ok matched =>
    rw [hmatched] at hpaths
    have hcomponents : matched.flatten.map (fun each => components each.path) =
      [components "/shop/src/a.rs", components "/shop/out/../src/a.rs"] := Option.some.inj hpaths
    obtain ⟨loaded, hfiles, hloaded⟩ := Loading.exists_files_of_nodup hmatched
      (by rw [hcomponents]; decide +kernel)
    have hlength := congrArg List.length hcomponents
    rw [List.length_map, ← hloaded, length_of_plan hplan hfiles, hunits] at hlength
    exact absurd hlength (by decide)

end Production

end ServiceGen
