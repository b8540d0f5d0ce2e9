import Mathlib.Data.List.Basic
import Mathlib.Data.List.Nodup
import ServiceGen.Generation.Batch
import ServiceGen.Proofs.Generation.Marker

/-!
What a batch consists of. Every unit has a share of its own, with an artifact or a failure but not
with both, and the batch of many units holds their shares one behind the other. It ends early only
where a unit has an artifact of the same path as an earlier one, and the first such unit ends it.
-/
namespace ServiceGen

open Analysis Files

theorem Analysis.Account.value?_of_errorOf? {ε α : Type} {name : String} {run : Run ε α}
    {error : WalkError ε} (herror : errorOf? name run = some error) : run.value? = none := by
  unfold errorOf? at herror
  unfold Run.value?
  cases hending : run.ending with
  | value result => simp [hending] at herror
  | failure cause => rfl
  | panic message => rfl

namespace Generation

section

variable (options : GenerationOptions) (unit : SourceUnit)

/-- The artifact of a unit, if code is generated for it. -/
def artifact? : Option Artifact := (generated options unit).value?.join

/-- Why no code is generated for a unit, if that fails. -/
def error? : Option (WalkError StageError) :=
  Account.errorOf? Stage.artifact.name (generated options unit)

/-- What the path of the artifact of a unit means, if it has one. -/
def target? : Option (List Component) :=
  (artifact? options unit).map fun artifact => components artifact.path

end

variable {options : GenerationOptions} {unit : SourceUnit} {walkOptions : WalkOptions}
  {error : WalkError StageError}

/-- A unit that fails has no artifact. -/
theorem artifact?_of_error? (herror : error? options unit = some error) :
    artifact? options unit = none := by
  rw [artifact?, Account.value?_of_errorOf? herror]
  rfl

/-- The walk for a unit that does not fail comes to its end, and leaves its artifact. -/
theorem execute_of_none (walkOptions : WalkOptions) (hnone : error? options unit = none) :
    ∃ outcome, chain.execute (catalog options) unit walkOptions = .ok outcome ∧
      outcome.failed = [] ∧
      (outcome.results.get? .artifact).bind id = artifact? options unit := by
  obtain ⟨visits, hwalk⟩ := walk_chain options unit walkOptions
  have hresult := Walk.get?_record_map (rfl : (earlierResults options unit).get? .artifact = none)
    (generated options unit)
  rw [Account.note_of_none _ _ hnone] at hwalk
  exact ⟨_, (congrArg Walk.outcome hwalk).trans (Walk.outcome_of_none rfl), rfl,
    congrArg Option.join hresult⟩

/-- The walk for a unit that fails ends with its error, or leaves the name of what failed. -/
theorem execute_of_some (walkOptions : WalkOptions) (herror : error? options unit = some error) :
    if walkOptions.continueOnError then
      ∃ outcome, chain.execute (catalog options) unit walkOptions = .ok outcome ∧
        outcome.failed = [error.analyzer] ∧ (outcome.results.get? .artifact).bind id = none
    else chain.execute (catalog options) unit walkOptions = .error error := by
  obtain ⟨visits, hwalk⟩ := walk_chain options unit walkOptions
  obtain ⟨parallelism, continueOnError⟩ := walkOptions
  cases continueOnError with
  | false =>
    rw [Account.note_stopping _ _ herror] at hwalk
    rw [if_neg (by simp), Graph.execute, hwalk, Walk.outcome_of_error rfl]
  | true =>
    have hresult := Walk.get?_record_map
      (rfl : (earlierResults options unit).get? .artifact = none) (generated options unit)
    rw [Account.value?_of_errorOf? herror] at hresult
    have hname := congrArg (Option.map WalkError.analyzer) herror
    rw [Account.note_going] at hwalk
    rw [if_pos rfl]
    exact ⟨_, (congrArg Walk.outcome hwalk).trans (Walk.outcome_of_none rfl),
      congrArg Option.toList hname, congrArg Option.join hresult⟩

end Generation

open Generation

/-- What is noted of a unit that fails: the names of the analyzers if the walk goes on, and the
causes if it ends. -/
def UnitFailure.of (walkOptions : WalkOptions) (unit : SourceUnit)
    (error : WalkError StageError) : UnitFailure :=
  ⟨unit.path, if walkOptions.continueOnError then "analyzers failed: " ++ error.analyzer
    else String.intercalate ": " error.reasons⟩

/-- The error that a unit ends a batch with, if failures are to end it. -/
def BatchError.of (walkOptions : WalkOptions) (unit : SourceUnit)
    (error : WalkError StageError) : BatchError :=
  if walkOptions.continueOnError then .analyzers unit.path [error.analyzer]
  else .unit unit.path error

namespace Batch

variable {settings : Settings} {batch later share : Batch} {unit : SourceUnit}
  {units : List SourceUnit} {artifact : Artifact}

/-- A batch with another one behind it. -/
def append (batch later : Batch) : Batch :=
  ⟨batch.products ++ later.products, batch.diagnostics ++ later.diagnostics,
    batch.failures ++ later.failures⟩

theorem append_empty (batch : Batch) : batch.append empty = batch := by
  simp [append, empty]

theorem empty_append (batch : Batch) : empty.append batch = batch := by
  simp [append, empty]

theorem append_assoc (first second third : Batch) :
    (first.append second).append third = first.append (second.append third) := by
  simp [append]

/-- What the paths of the artifacts of a batch mean. -/
def targets (batch : Batch) : List (List Component) :=
  batch.products.map fun product => components product.artifact.path

theorem targets_append (batch later : Batch) :
    (batch.append later).targets = batch.targets ++ later.targets :=
  List.map_append

/-- Nothing but its products decides what is in the way of an artifact. -/
theorem rival?_mk (batch : Batch) (diagnostics : List Diagnostic) (failures : List UnitFailure)
    (artifact : Artifact) :
    rival? ⟨batch.products, diagnostics, failures⟩ artifact = batch.rival? artifact := rfl

theorem rival?_eq_none : batch.rival? artifact = none ↔
    components artifact.path ∉ batch.targets := by
  simp [rival?, targets]

/-! Shares -/

/-- What a unit adds to a batch that goes on after failures. -/
def shareOf (settings : Settings) (unit : SourceUnit) : Batch where
  products := ((artifact? settings.generation unit).map (Product.mk · unit.path)).toList
  diagnostics :=
    match chain.execute (catalog settings.generation) unit settings.walk with
    | .ok outcome => outcome.diagnostics
    | .error _ => []
  failures := ((error? settings.generation unit).map (UnitFailure.of settings.walk unit)).toList

theorem targets_shareOf (settings : Settings) (unit : SourceUnit) :
    (shareOf settings unit).targets = (target? settings.generation unit).toList := by
  rw [targets, shareOf, target?]
  cases artifact? settings.generation unit <;> rfl

/-- Takes the share of a unit into a batch, unless another artifact is in the way. -/
def take (batch share : Batch) : Except BatchError Batch :=
  match share.products.findSome? fun product => (batch.rival? product.artifact).map fun rival =>
    BatchError.collision product.artifact.path rival.source product.source with
  | some collision => .error collision
  | none => .ok (batch.append share)

theorem take_of_artifact? (batch : Batch) :
    batch.take (shareOf settings unit) =
      match artifact? settings.generation unit with
      | none => .ok (batch.append (shareOf settings unit))
      | some artifact =>
        match batch.rival? artifact with
        | some rival => .error (.collision artifact.path rival.source unit.path)
        | none => .ok (batch.append (shareOf settings unit)) := by
  cases hartifact : artifact? settings.generation unit with
  | none => simp [take, shareOf, hartifact]
  | some artifact =>
    cases hrival : batch.rival? artifact <;> simp [take, shareOf, hartifact, hrival]

/-- A unit has its share taken into the batch if it does not fail, and also if it does, as long as
failures do not end the batch. -/
theorem add_eq_take (batch : Batch)
    (hgoes : settings.failFast = false ∨ error? settings.generation unit = none) :
    add settings chain batch unit = batch.take (shareOf settings unit) := by
  rw [take_of_artifact?]
  cases herror : error? settings.generation unit with
  | none =>
    obtain ⟨outcome, hexecute, hfailed, hresult⟩ := execute_of_none settings.walk herror
    simp only [add, hexecute, addOutcome, hfailed, addFailed, List.isEmpty_nil, if_true, bind,
      Except.bind, hresult]
    cases hartifact : artifact? settings.generation unit with
    | none => simp [addArtifact, append, shareOf, hexecute, hartifact, herror]
    | some artifact =>
      cases hrival : batch.rival? artifact <;>
        simp [addArtifact, rival?_mk, hrival, append, shareOf, hexecute, hartifact, herror]
  | some error =>
    have hfast : settings.failFast = false := hgoes.resolve_right (by simp [herror])
    have hartifact := artifact?_of_error? herror
    have hexecute := execute_of_some settings.walk herror
    rw [hartifact]
    split at hexecute
    · next hgoing =>
      obtain ⟨outcome, hexecute, hfailed, hresult⟩ := hexecute
      simp only [add, hexecute, addOutcome, hfailed, addFailed, hfast, Bool.false_eq_true, if_false,
        List.isEmpty_cons, bind, Except.bind, hresult]
      simp [addArtifact, addFailure, append, shareOf, hexecute, hartifact, herror, UnitFailure.of,
        hgoing]
    · next hending =>
      simp [add, hexecute, hfast, append, shareOf, hartifact, herror, UnitFailure.of, hending,
        addFailure]

/-- A unit that fails ends a batch that failures are to end. -/
theorem add_of_failFast (batch : Batch) (hfast : settings.failFast = true)
    {error : WalkError StageError} (herror : error? settings.generation unit = some error) :
    add settings chain batch unit = .error (.of settings.walk unit error) := by
  have hexecute := execute_of_some settings.walk herror
  split at hexecute
  · next hgoing =>
    obtain ⟨outcome, hexecute, hfailed, -⟩ := hexecute
    simp [add, hexecute, addOutcome, addFailed, hfailed, hfast, BatchError.of, hgoing, bind,
      Except.bind]
  · next hending => simp [add, hexecute, hfast, BatchError.of, hending]

/-! Many units -/

/-- The shares of units, one behind the other. -/
def sharesOf (settings : Settings) : List SourceUnit → Batch
  | [] => empty
  | unit :: rest => (shareOf settings unit).append (sharesOf settings rest)

theorem sharesOf_append (settings : Settings) (us vs : List SourceUnit) :
    sharesOf settings (us ++ vs) = (sharesOf settings us).append (sharesOf settings vs) := by
  induction us with
  | nil => exact (empty_append _).symm
  | cons unit rest ih => rw [List.cons_append, sharesOf, sharesOf, ih, append_assoc]

theorem targets_sharesOf (settings : Settings) (units : List SourceUnit) :
    (sharesOf settings units).targets = units.filterMap (target? settings.generation) := by
  induction units with
  | nil => rfl
  | cons unit rest ih =>
    rw [sharesOf, targets_append, targets_shareOf, ih, List.filterMap_cons]
    cases target? settings.generation unit <;> rfl

theorem exists_of_mem_products {product : Product}
    (hproduct : product ∈ (sharesOf settings units).products) :
    ∃ unit ∈ units, artifact? settings.generation unit = some product.artifact ∧
      product.source = unit.path := by
  induction units with
  | nil => exact absurd hproduct List.not_mem_nil
  | cons unit rest ih =>
    rcases List.mem_append.mp hproduct with hproduct | hproduct
    · obtain ⟨artifact, hartifact, rfl⟩ :=
        Option.map_eq_some_iff.mp (Option.mem_toList.mp hproduct)
      exact ⟨unit, List.mem_cons_self, hartifact, rfl⟩
    · obtain ⟨other, hother, hartifact⟩ := ih hproduct
      exact ⟨other, List.mem_cons_of_mem _ hother, hartifact⟩

theorem take_of_disjoint (hdisjoint : batch.targets.Disjoint (shareOf settings unit).targets) :
    batch.take (shareOf settings unit) = .ok (batch.append (shareOf settings unit)) := by
  rw [take_of_artifact?]
  cases hartifact : artifact? settings.generation unit with
  | none => rfl
  | some artifact =>
    have hrival : batch.rival? artifact = none := by
      refine rival?_eq_none.mpr fun hmem => hdisjoint hmem ?_
      simp [targets_shareOf, target?, hartifact]
    simp only [hrival]

/-- Units of which no two have artifacts of one path have all of their shares taken in. -/
theorem foldlM_add_of_nodup (hfast : settings.failFast = false)
    (hnodup : (batch.append (sharesOf settings units)).targets.Nodup) :
    units.foldlM (add settings chain) batch = .ok (batch.append (sharesOf settings units)) := by
  induction units generalizing batch with
  | nil => rw [sharesOf, append_empty]; rfl
  | cons unit rest ih =>
    rw [sharesOf, ← append_assoc] at hnodup ⊢
    have hdisjoint : batch.targets.Disjoint (shareOf settings unit).targets := by
      rw [targets_append, List.nodup_append', targets_append, List.nodup_append'] at hnodup
      exact hnodup.1.2.2
    rw [List.foldlM_cons, add_eq_take batch (.inl hfast), take_of_disjoint hdisjoint]
    exact ih hnodup

theorem ofUnits_of_nodup (hfast : settings.failFast = false)
    (hnodup : (units.filterMap (target? settings.generation)).Nodup) :
    ofUnits settings chain units = .ok (sharesOf settings units) := by
  rw [← targets_sharesOf, ← empty_append (sharesOf settings units)] at hnodup
  have hok := foldlM_add_of_nodup hfast hnodup
  rwa [empty_append] at hok

/-- Where values repeat, there is a first one that repeats an earlier one. -/
theorem exists_first_repeat {α β : Type} {f : α → Option β} {as : List α}
    (hrepeats : ¬ (as.filterMap f).Nodup) :
    ∃ front a back b, as = front ++ a :: back ∧ (front.filterMap f).Nodup ∧ f a = some b ∧
      b ∈ front.filterMap f := by
  induction as using List.reverseRecOn with
  | nil => exact absurd List.nodup_nil hrepeats
  | append_singleton front last ih =>
    by_cases hfront : (front.filterMap f).Nodup
    · rw [List.filterMap_append, List.nodup_append'] at hrepeats
      cases hlast : f last with
      | none => simp [hlast, hfront] at hrepeats
      | some b =>
        refine ⟨front, last, [], b, rfl, hfront, hlast, ?_⟩
        simpa [hlast, hfront] using hrepeats
    · obtain ⟨before, a, back, b, rfl, hbefore, ha, hmem⟩ := ih hfront
      exact ⟨before, a, back ++ [last], b, by simp, hbefore, ha, hmem⟩

/-- That an error tells of the first two units, in order, that have artifacts of one path. -/
def FirstCollision (options : GenerationOptions) (units : List SourceUnit)
    (error : BatchError) : Prop :=
  ∃ before first between second after artifact,
    units = before ++ first :: (between ++ second :: after) ∧
    error = .collision artifact.path first.path second.path ∧
    artifact? options second = some artifact ∧
    target? options first = some (components artifact.path) ∧
    ((before ++ first :: between).filterMap (target? options)).Nodup

/-- Units of which two have artifacts of one path end the batch with the first two of them. -/
theorem exists_firstCollision (hfast : settings.failFast = false)
    (hrepeats : ¬ (units.filterMap (target? settings.generation)).Nodup) :
    ∃ error, ofUnits settings chain units = .error error ∧
      FirstCollision settings.generation units error := by
  obtain ⟨front, second, after, target, rfl, hnodup, hsecond, hmem⟩ :=
    exists_first_repeat hrepeats
  obtain ⟨artifact, hartifact, rfl⟩ := Option.map_eq_some_iff.mp hsecond
  rw [← targets_sharesOf] at hmem
  obtain ⟨rival, hrival⟩ : ∃ rival, (sharesOf settings front).rival? artifact = some rival := by
    rw [← Option.ne_none_iff_exists']
    exact fun hnone => rival?_eq_none.mp hnone hmem
  -- The rival belongs to one of the units in front, and it is the only one with this path.
  obtain ⟨first, hfirst, hproduct, hsource⟩ :=
    exists_of_mem_products (List.mem_of_find?_eq_some hrival)
  have hsame : components rival.artifact.path = components artifact.path := by
    simpa using List.find?_some hrival
  obtain ⟨before, between, rfl⟩ := List.append_of_mem hfirst
  refine ⟨.collision artifact.path first.path second.path, ?_, before, first, between, second,
    after, artifact, by simp, rfl, hartifact, ?_, hnodup⟩
  · have hfront : (before ++ first :: between).foldlM (add settings chain) empty =
        .ok (sharesOf settings (before ++ first :: between)) := ofUnits_of_nodup hfast hnodup
    have hstep : add settings chain (sharesOf settings (before ++ first :: between)) second =
        .error (.collision artifact.path first.path second.path) := by
      rw [add_eq_take _ (.inl hfast), take_of_artifact?, hartifact, ← hsource]
      simp only [hrival]
    rw [ofUnits, List.foldlM_append, hfront]
    change (second :: after).foldlM (add settings chain) _ = _
    rw [List.foldlM_cons, hstep]
    rfl
  · rw [target?, hproduct, Option.map_some, hsame]

/-- A batch comes to its end exactly if no two of its units have artifacts of one path, and then it
holds their shares. -/
theorem ofUnits_eq_ok (hfast : settings.failFast = false) :
    ofUnits settings chain units = .ok batch ↔
      (units.filterMap (target? settings.generation)).Nodup ∧ batch = sharesOf settings units := by
  constructor
  · intro hbatch
    by_cases hnodup : (units.filterMap (target? settings.generation)).Nodup
    · exact ⟨hnodup, Except.ok.inj (hbatch.symm.trans (ofUnits_of_nodup hfast hnodup))⟩
    · obtain ⟨error, herror, -⟩ := exists_firstCollision hfast hnodup
      exact absurd (hbatch.symm.trans herror) (by simp)
  · rintro ⟨hnodup, rfl⟩
    exact ofUnits_of_nodup hfast hnodup

/-- How a batch is made up of its units, if failures do not end it. -/
structure Divides (settings : Settings) (stages : Stage.Graph) : Prop where
  /-- Units are taken in behind others as they are by themselves, if no two paths are the same. -/
  append : ∀ us vs batch, ofUnits settings stages (us ++ vs) = .ok batch ↔
    ∃ front back, ofUnits settings stages us = .ok front ∧ ofUnits settings stages vs = .ok back ∧
      front.targets.Disjoint back.targets ∧ batch = front.append back
  /-- Nothing else ends a batch. -/
  collision : ∀ units error, ofUnits settings stages units = .error error →
    FirstCollision settings.generation units error
  /-- A unit by itself has an artifact or a failure, or neither of them. -/
  single : ∀ unit, ∃ share, ofUnits settings stages [unit] = .ok share ∧
    share.products.length + share.failures.length ≤ 1 ∧
    share.targets = (target? settings.generation unit).toList

/-- Units are generated independently: what comes of units is what comes of each by itself, one
behind the other, unless two of them have artifacts of one path. -/
theorem ofUnits_divides (settings : Settings) (hfast : settings.failFast = false) :
    ∃ stages, graph settings.generation .artifact = .ok stages ∧ Divides settings stages := by
  refine ⟨chain, graph_artifact _, ?_, ?_, ?_⟩
  · intro us vs batch
    rw [ofUnits_eq_ok hfast, List.filterMap_append, List.nodup_append', sharesOf_append]
    constructor
    · rintro ⟨⟨hus, hvs, hdisjoint⟩, rfl⟩
      refine ⟨_, _, ofUnits_of_nodup hfast hus, ofUnits_of_nodup hfast hvs, ?_, rfl⟩
      rwa [targets_sharesOf, targets_sharesOf]
    · rintro ⟨front, back, hfront, hback, hdisjoint, rfl⟩
      obtain ⟨hus, rfl⟩ := (ofUnits_eq_ok hfast).mp hfront
      obtain ⟨hvs, rfl⟩ := (ofUnits_eq_ok hfast).mp hback
      rw [targets_sharesOf, targets_sharesOf] at hdisjoint
      exact ⟨⟨hus, hvs, hdisjoint⟩, rfl⟩
  · intro units error herror
    by_cases hnodup : (units.filterMap (target? settings.generation)).Nodup
    · exact absurd (herror.symm.trans (ofUnits_of_nodup hfast hnodup)) (by simp)
    · obtain ⟨error', herror', hfirst⟩ := exists_firstCollision hfast hnodup
      exact Except.error.inj (herror'.symm.trans herror) ▸ hfirst
  · intro unit
    have hshare : sharesOf settings [unit] = shareOf settings unit := by
      rw [sharesOf, sharesOf, append_empty]
    refine ⟨shareOf settings unit, (ofUnits_eq_ok hfast).mpr ⟨?_, hshare.symm⟩, ?_,
      targets_shareOf settings unit⟩
    · cases htarget : target? settings.generation unit <;> simp [htarget]
    · cases herror : error? settings.generation unit with
      | none => cases artifact? settings.generation unit <;> simp [shareOf, *]
      | some error => simp [shareOf, herror, artifact?_of_error? herror]

/-- Two units of one package, in one directory, are in the way of each other. -/
theorem payments_divide : (Settings.initial "/shop" 1).failFast = false ∧
    ∃ stages, graph {} .artifact = .ok stages ∧ Divides (Settings.initial "/shop" 1) stages ∧
      (∃ batch, ofUnits (Settings.initial "/shop" 1) stages [terse] = .ok batch) ∧
      ∀ batch, ofUnits (Settings.initial "/shop" 1) stages ([terse] ++ [wordy]) ≠ .ok batch := by
  obtain ⟨stages, hgraph, hdivides⟩ := ofUnits_divides (Settings.initial "/shop" 1) rfl
  obtain ⟨first, hfirst, -, htargets⟩ := hdivides.single terse
  obtain ⟨second, hsecond, -, htargets'⟩ := hdivides.single wordy
  have hsame : target? {} terse = target? {} wordy ∧ (target? {} terse).isSome = true := by
    decide +kernel
  obtain ⟨target, htarget⟩ := Option.isSome_iff_exists.mp hsame.2
  refine ⟨rfl, stages, hgraph, hdivides, ⟨first, hfirst⟩, fun batch hbatch => ?_⟩
  obtain ⟨front, back, hfront, hback, hdisjoint, -⟩ := (hdivides.append _ _ _).mp hbatch
  obtain rfl := Except.ok.inj (hfirst.symm.trans hfront)
  obtain rfl := Except.ok.inj (hsecond.symm.trans hback)
  change first.targets = (target? {} terse).toList at htargets
  change second.targets = (target? {} wordy).toList at htargets'
  rw [← hsame.1, htarget] at htargets'
  rw [htarget] at htargets
  exact hdisjoint (a := target) (by simp [htargets]) (by simp [htargets'])

end Batch

end ServiceGen
