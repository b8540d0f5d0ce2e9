import Mathlib.Data.List.Permutation
import ServiceGen.Proofs.Analysis.Execution

/-!
What comes of a walk. Whatever its batches are and in whatever order its tasks take their steps, a
walk that is over has had a chronicle of the nodes of its graph, or so much of it as ends with the
first failure that ends the walk. Its outcome is therefore that of the chronicle.
-/
namespace ServiceGen.Analysis

variable {ι υ ε κ : Type} {ρ : κ → Type}

namespace Walk

theorem outcome_of_error {walk : Walk ε ρ} {error : WalkError ε}
    (herror : walk.account.error = some error) : walk.outcome = .error error := by
  rw [outcome, herror]

theorem outcome_of_none {walk : Walk ε ρ} (hnone : walk.account.error = none) :
    walk.outcome = .ok ⟨walk.results, walk.account.diagnostics, walk.account.failed⟩ := by
  rw [outcome, hnone]

theorem eq_of_outcome {walk : Walk ε ρ} {outcome : Outcome ρ} (h : walk.outcome = .ok outcome) :
    walk.account.error = none ∧
      outcome = ⟨walk.results, walk.account.diagnostics, walk.account.failed⟩ := by
  cases herror : walk.account.error with
  | some error =>
    rw [outcome_of_error herror] at h
    exact absurd h (by simp)
  | none =>
    rw [outcome_of_none herror] at h
    exact ⟨rfl, (Except.ok.inj h).symm⟩

variable [DecidableEq κ]

/-- Whether two walks came to the same: the same error, or the same result of every analyzer with
the same diagnostics and failures in the same order. -/
def Agree (first second : Except (WalkError ε) (Outcome ρ)) : Prop :=
  match first, second with
  | .error error, .error other => error = other
  | .ok outcome, .ok other =>
    outcome.results.Same other.results ∧ outcome.diagnostics = other.diagnostics ∧
      outcome.failed = other.failed
  | _, _ => False

namespace Agree

variable {first second third : Except (WalkError ε) (Outcome ρ)}

theorem symm (h : Agree first second) : Agree second first := by
  match first, second with
  | .error error, .error other => exact Eq.symm h
  | .ok outcome, .ok other => exact ⟨h.1.symm, h.2.1.symm, h.2.2.symm⟩
  | .error _, .ok _ => exact h
  | .ok _, .error _ => exact h

theorem trans (h : Agree first second) (h' : Agree second third) : Agree first third := by
  match first, second, third with
  | .error _, .error _, .error _ => exact Eq.trans h h'
  | .ok _, .ok _, .ok _ => exact ⟨h.1.trans h'.1, h.2.1.trans h'.2.1, h.2.2.trans h'.2.2⟩
  | .error _, .ok _, _ => exact absurd h id
  | .ok _, .error _, _ => exact absurd h id
  | .error _, .error _, .ok _ => exact absurd h' id
  | .ok _, .ok _, .error _ => exact absurd h' id

end Agree

variable [Explained ε]

/-- The walk in which each node has its turn after all that stand before it. -/
def oneByOne (catalog : Catalog ι υ ε ρ) (graph : Graph ι κ) (unit : υ) (options : WalkOptions) :
    Walk ε ρ :=
  let turns := chronicle catalog graph.nodes unit .empty (order graph)
  ⟨turns.map Turn.visit, replay .empty turns, tally options .start turns⟩

/-- How many analyzers may run at the same time has no part in it. -/
theorem oneByOne_congr (catalog : Catalog ι υ ε ρ) (graph : Graph ι κ) (unit : υ)
    {first second : WalkOptions} (hmode : first.continueOnError = second.continueOnError) :
    oneByOne catalog graph unit first = oneByOne catalog graph unit second := by
  rw [oneByOne, oneByOne, tally_congr hmode]

end Walk

variable [DecidableEq κ] [Explained ε] {catalog : Catalog ι υ ε ρ} {graph : Graph ι κ} {unit : υ}
  {options : WalkOptions} {moment : Moment ι ε ρ}

namespace Moment.Coherent

/-- When nothing is left to do, every node has had its turn. -/
theorem turns_of_nil (h : Coherent catalog graph unit options moment) (htasks : moment.tasks = [])
    (hahead : moment.ahead = []) :
    moment.turns = Walk.chronicle catalog graph.nodes unit .empty (Walk.order graph) := by
  have horder := h.order_eq
  rw [htasks, hahead, List.map_nil, List.append_nil, List.flatten_nil, List.append_nil] at horder
  rw [← horder]
  exact h.past

/-- The turns so far are the first of the chronicle. -/
theorem exists_append (h : Coherent catalog graph unit options moment) :
    ∃ more, Walk.chronicle catalog graph.nodes unit .empty (Walk.order graph) =
      moment.turns ++ more := by
  rw [← h.order_eq, List.append_assoc, Walk.chronicle_append, ← h.past]
  exact ⟨_, rfl⟩

theorem results_of_nil (h : Coherent catalog graph unit options moment)
    (htasks : moment.tasks = []) : moment.walk.results.Same moment.base := by
  have hresults := h.results
  rw [htasks, List.filterMap_nil] at hresults
  exact hresults

/-- A failure that ends a walk is the first one of the chronicle that does, and without one the
chronicle was gone through to its end. -/
theorem outcome_agree (h : Coherent catalog graph unit options moment) (hover : moment.Over) :
    Walk.Agree moment.walk.outcome (Walk.oneByOne catalog graph unit options).outcome := by
  cases herror : moment.walk.account.error with
  | some error =>
    obtain ⟨more, hmore⟩ := h.exists_append
    have hfirst : (Walk.oneByOne catalog graph unit options).account.error = some error := by
      rw [Walk.oneByOne, hmore, Walk.tally_append, ← h.account]
      exact Walk.error_tally options herror more
    rw [Walk.outcome_of_error herror, Walk.outcome_of_error hfirst]
    rfl
  | none =>
    have hahead : moment.ahead = [] := hover.2.resolve_left (by simp [herror])
    have hturns := h.turns_of_nil hover.1 hahead
    have haccount : (Walk.oneByOne catalog graph unit options).account = moment.walk.account := by
      rw [h.account, hturns, Walk.oneByOne]
    rw [Walk.outcome_of_none herror, Walk.outcome_of_none (haccount ▸ herror), haccount]
    refine ⟨?_, rfl, rfl⟩
    have hresults := h.results_of_nil hover.1
    rwa [base, hturns] at hresults

variable (h : Coherent catalog graph unit options moment) (hbuilt : Graph.Built catalog graph)

include h hbuilt

theorem own_turns {turn : Turn ι ε ρ} (hturn : turn ∈ moment.turns) : turn.Own := by
  rw [h.past] at hturn
  apply Walk.own_of_mem_chronicle _ hturn
  intro node hnode
  exact h.faithful hbuilt (List.mem_append_left _ hnode)

theorem nodup_turns : (moment.turns.map Turn.kind).Nodup :=
  (List.nodup_append.mp (h.nodup_kinds hbuilt)).1

/-- What was recorded before the batch are the results that the turns before it gave. -/
theorem get?_base (kind : κ) (result : ρ kind) :
    moment.base.get? kind = some result ↔ ∃ turn ∈ moment.turns, turn.Gave kind result := by
  rw [base, Walk.get?_replay_iff (fun _ hturn => h.own_turns hbuilt hturn) (h.nodup_turns hbuilt)
    (fun _ _ => Results.get?_empty _)]
  simp

theorem failed_iff {turn : Turn ι ε ρ} (hturn : turn ∈ moment.turns) :
    turn.Failed ↔ moment.base.get? turn.kind = none := by
  constructor
  · intro hfailed
    by_contra hsome
    obtain ⟨result, hresult⟩ := Option.ne_none_iff_exists'.mp hsome
    obtain ⟨other, hother, hgave⟩ := (h.get?_base hbuilt turn.kind result).mp hresult
    have hkind : turn.kind = other.kind := h.own_turns hbuilt hother _ hgave
    have hsame : turn = other :=
      List.inj_on_of_nodup_map (h.nodup_turns hbuilt) hturn hother hkind
    subst hsame
    exact hgave.not_failed hfailed
  · intro hnone
    rcases Walk.gave_or_failed turn with ⟨kind, result, hgave⟩ | hfailed
    · have hkind : kind = turn.kind := h.own_turns hbuilt hturn _ hgave
      subst hkind
      rw [(h.get?_base hbuilt turn.kind result).mpr ⟨turn, hturn, hgave⟩] at hnone
      exact absurd hnone (by simp)
    · exact hfailed

theorem nodup_visits : (moment.walk.visits.map Visit.kind).Nodup := by
  rw [(h.visits.map Visit.kind).nodup_iff, List.map_append, List.map_map]
  apply List.Nodup.sublist _ (h.nodup_kinds hbuilt)
  exact (List.Sublist.refl _).append (Task.sublist_visits _)

/-- What a task that was started can see are the results of what its analyzer requires. -/
theorem get?_seen {task : Task ι ε ρ} (htask : task ∈ moment.tasks) {visit : Visit ρ}
    (hvisit : task.visit? = some visit) (kind : κ) (result : ρ kind) :
    visit.seen.get? kind = some result ↔
      kind ∈ catalog.requiredKinds task.node.analyzer ∧
        ∃ turn ∈ moment.turns, turn.Gave kind result := by
  have hseen : visit.seen = Walk.view graph.nodes moment.base task.node :=
    Task.seen_of_fits (h.fits task htask) hvisit
  have hnode := h.mem_nodes hbuilt (List.mem_append_right _ (List.mem_map_of_mem htask))
  have hrequired := hbuilt.collected.mem_required_iff hnode kind
  rw [hseen, Walk.view, Results.get?_restrict, ← hrequired]
  by_cases hkind : kind ∈ Walk.required graph.nodes task.node
  · rw [if_pos hkind, h.get?_base hbuilt]
    simp [hkind]
  · rw [if_neg hkind]
    simp [hkind]

theorem length_tasks_le : moment.tasks.length ≤ max 1 options.parallelism := by
  by_cases htasks : moment.tasks = []
  · simp [htasks]
  · have hmem : moment.tasks.map Task.node ∈ Walk.batches graph options := by
      rw [← h.plan, current_of_ne_nil htasks]
      simp
    have hbound := ((hbuilt.scheduled options).bounded _ hmem).2
    rwa [List.length_map] at hbound

theorem exists_turn {task : Task ι ε ρ} (htask : task ∈ moment.tasks) {kind : κ}
    (hkind : kind ∈ catalog.requiredKinds task.node.analyzer) :
    ∃ turn ∈ moment.turns, turn.kind = kind := by
  have hnode := h.mem_nodes hbuilt (List.mem_append_right _ (List.mem_map_of_mem htask))
  have hdone := (h.ready hbuilt htask).mem_kinds
    ((hbuilt.collected.mem_required_iff hnode kind).mpr hkind)
  rw [List.map_map] at hdone
  exact List.mem_map.mp hdone

/-- The failures of a walk that was not ended by one are the nodes without a result. -/
theorem failed_eq (hnone : moment.walk.account.error = none) :
    moment.walk.account.failed =
      ((moment.turns.map Turn.node).filter fun node =>
        (moment.base.get? node.kind).isNone).map Node.name := by
  have haccount := h.account
  rw [haccount] at hnone
  have hfilter : moment.turns.filter (·.Failed) =
      moment.turns.filter fun turn => (moment.base.get? turn.kind).isNone := by
    apply List.filter_congr
    intro turn hturn
    rw [Bool.eq_iff_iff]
    simp [h.failed_iff hbuilt hturn]
  rw [haccount, Walk.failed_tally options hnone, hfilter, List.filter_map, List.map_map]
  rfl

theorem size_add_failed (hnone : moment.walk.account.error = none) :
    moment.base.size + moment.walk.account.failed.length = moment.turns.length := by
  have haccount := h.account
  rw [haccount] at hnone
  have hsize := Walk.size_replay (fun _ hturn => h.own_turns hbuilt hturn) (h.nodup_turns hbuilt)
    (fun turn _ => Results.get?_empty (ρ := ρ) turn.kind)
  rw [haccount, Walk.failed_tally options hnone]
  simpa [base, Results.size, Results.empty, Account.start] using hsize

end Moment.Coherent

namespace Graph

/-- The walk whose batches run one after the other is one of the ways in which it can run. -/
theorem Built.exists_reached (hbuilt : Built catalog graph) (unit : υ) (options : WalkOptions) :
    ∃ last : Moment ι ε ρ, Moment.Reached catalog graph unit options last ∧ last.Over ∧
      last.walk = graph.walk catalog unit options := by
  apply Moment.batches_reached
  intro batch hbatch
  exact List.length_pos_iff.mp ((hbuilt.scheduled options).bounded batch hbatch).1

theorem Built.execute_agree (hbuilt : Built catalog graph) (unit : υ) (options : WalkOptions) :
    Walk.Agree (graph.execute catalog unit options)
      (Walk.oneByOne catalog graph unit options).outcome := by
  obtain ⟨last, hreached, hover, hwalk⟩ := hbuilt.exists_reached unit options
  rw [execute, ← hwalk]
  exact (Moment.coherent_of_reached hbuilt hreached).outcome_agree hover

/-- Neither how many analyzers may run at the same time nor the order in which they take their steps
has a part in what comes of a walk. Every walk comes to an end: it can go on until it is over, and
not forever. -/
theorem interleavings_agree {roots : List ι} (hbuild : build catalog roots = .ok graph) (unit : υ)
    (continueOnError : Bool) (parallelism parallelism' : Nat) :
    (∀ moment : Moment ι ε ρ, ¬ moment.Over →
      ∃ next, Moment.Step catalog graph.nodes unit ⟨parallelism, continueOnError⟩ moment next) ∧
    (WellFounded fun next moment : Moment ι ε ρ =>
      Moment.Step catalog graph.nodes unit ⟨parallelism, continueOnError⟩ moment next) ∧
    (∀ moment other : Moment ι ε ρ,
      Moment.Reached catalog graph unit ⟨parallelism, continueOnError⟩ moment → moment.Over →
      Moment.Reached catalog graph unit ⟨parallelism', continueOnError⟩ other → other.Over →
      Walk.Agree moment.walk.outcome other.walk.outcome) ∧
    ∀ moment : Moment ι ε ρ,
      Moment.Reached catalog graph unit ⟨parallelism, continueOnError⟩ moment → moment.Over →
      Walk.Agree moment.walk.outcome
        (graph.execute catalog unit ⟨parallelism', continueOnError⟩) := by
  have hbuilt := built_of_build hbuild
  have hmode : Walk.oneByOne catalog graph unit ⟨parallelism, continueOnError⟩ =
      Walk.oneByOne catalog graph unit ⟨parallelism', continueOnError⟩ :=
    Walk.oneByOne_congr catalog graph unit rfl
  refine ⟨fun moment hgoing => Moment.exists_step _ _ _ _ hgoing,
    Moment.wellFounded_step _ _ _ _, ?_, ?_⟩
  · intro moment other hreached hover hreached' hover'
    have hfirst := (Moment.coherent_of_reached hbuilt hreached).outcome_agree hover
    have hsecond := (Moment.coherent_of_reached hbuilt hreached').outcome_agree hover'
    rw [hmode] at hfirst
    exact hfirst.trans hsecond.symm
  · intro moment hreached hover
    have hfirst := (Moment.coherent_of_reached hbuilt hreached).outcome_agree hover
    rw [hmode] at hfirst
    exact hfirst.trans (hbuilt.execute_agree unit _).symm

instance : Explained String := ⟨fun cause => [cause]⟩

/-- An analyzer that counts, and one that doubles its count. -/
def doubling : Catalog Bool Nat String fun _ : Bool => Nat where
  analyzer
    | false =>
      { kind := false
        name := "count"
        requires := []
        run := fun pass => ⟨[], .value pass.unit⟩ }
    | true =>
      { kind := true
        name := "double"
        requires := [false]
        run := fun pass =>
          ⟨[], match pass.resultOf false with
            | some count => .value (2 * count)
            | none => .failure (pass.missing "count")⟩ }
  kinds := [false, true]
  complete := by decide

def doublingGraph : Graph Bool Bool :=
  ⟨[⟨true, true, "double", [1]⟩, ⟨false, false, "count", []⟩], [[1], [0]]⟩

theorem build_doubling : build doubling [true] = .ok doublingGraph := by cbv

theorem built_doubling : Built doubling doublingGraph := built_of_build build_doubling

theorem doubling_agrees :
    build doubling [true] = .ok doublingGraph ∧
      ∃ last : Moment Bool String fun _ : Bool => Nat,
        (Moment.Reached doubling doublingGraph 3 ⟨0, false⟩ last ∧ last.Over) ∧
          Walk.Agree last.walk.outcome (doublingGraph.execute doubling 3 ⟨4, false⟩) := by
  obtain ⟨last, hreached, hover, -⟩ := built_doubling.exists_reached 3 ⟨0, false⟩
  have hagree := (interleavings_agree build_doubling 3 false 0 4).2.2.2 last hreached hover
  exact ⟨build_doubling, last, ⟨hreached, hover⟩, hagree⟩

/-- In every walk no analyzer is started twice, each starts after all that it requires has ended in
an earlier batch and sees just the results that came of it, and no more analyzers are in flight than
may be. A walk that leaves an outcome has started every analyzer, each of which has either a result
or failed. -/
theorem every_walk_in_order {roots : List ι} (hbuild : build catalog roots = .ok graph)
    {moment : Moment ι ε ρ} (hreached : Moment.Reached catalog graph unit options moment) :
    (moment.walk.visits.map Visit.kind).Nodup ∧
    (∀ task ∈ moment.tasks, ∀ visit, task.visit? = some visit →
      (∀ kind ∈ catalog.requiredKinds task.node.analyzer,
        ∃ batch ∈ moment.past, ∃ turn ∈ batch, turn.kind = kind) ∧
      ∀ kind result,
        Pass.resultOf ⟨unit, task.node.name, visit.seen⟩ kind = some result ↔
          kind ∈ catalog.requiredKinds task.node.analyzer ∧
            ∃ batch ∈ moment.past, ∃ turn ∈ batch, turn.Gave kind result) ∧
    (moment.tasks.countP fun task => task.phase.inFlight) ≤ max 1 options.parallelism ∧
    ∀ outcome, moment.Over → moment.walk.outcome = .ok outcome →
      (moment.walk.visits.map Visit.kind).Perm (graph.nodes.map Node.kind) ∧
      (∀ kind, (outcome.results.get? kind).isSome → kind ∈ graph.nodes.map Node.kind) ∧
      outcome.failed = ((Walk.order graph).filter fun node =>
        (outcome.results.get? node.kind).isNone).map Node.name ∧
      outcome.results.size + outcome.failed.length = graph.size := by
  have hbuilt := built_of_build hbuild
  have h := Moment.coherent_of_reached hbuilt hreached
  refine ⟨h.nodup_visits hbuilt, ?_, ?_, ?_⟩
  · intro task htask visit hvisit
    refine ⟨?_, ?_⟩
    · intro kind hkind
      obtain ⟨turn, hturn, hsame⟩ := h.exists_turn hbuilt htask hkind
      obtain ⟨batch, hbatch, hmem⟩ := List.mem_flatten.mp hturn
      exact ⟨batch, hbatch, turn, hmem, hsame⟩
    · intro kind result
      rw [Pass.resultOf, h.get?_seen hbuilt htask hvisit]
      apply and_congr_right
      intro _
      constructor
      · rintro ⟨turn, hturn, hgave⟩
        obtain ⟨batch, hbatch, hmem⟩ := List.mem_flatten.mp hturn
        exact ⟨batch, hbatch, turn, hmem, hgave⟩
      · rintro ⟨batch, hbatch, turn, hmem, hgave⟩
        exact ⟨turn, List.mem_flatten.mpr ⟨batch, hbatch, hmem⟩, hgave⟩
  · exact List.countP_le_length.trans (h.length_tasks_le hbuilt)
  · intro outcome hover houtcome
    obtain ⟨hnone, rfl⟩ := Walk.eq_of_outcome houtcome
    have hahead : moment.ahead = [] := hover.2.resolve_left (by simp [hnone])
    have horder : moment.turns.map Turn.node = Walk.order graph := by
      have hall := h.order_eq
      rwa [hover.1, hahead, List.map_nil, List.append_nil, List.flatten_nil,
        List.append_nil] at hall
    have hsame := h.results_of_nil hover.1
    have hkinds : (moment.turns.map Turn.kind).Perm (graph.nodes.map Node.kind) := by
      have hperm := hbuilt.perm_order.map Node.kind
      rw [← horder, List.map_map] at hperm
      exact hperm
    refine ⟨?_, ?_, ?_, ?_⟩
    · have hvisits := h.visits.map Visit.kind
      rw [hover.1, List.filterMap_nil, List.append_nil, List.map_map] at hvisits
      exact hvisits.trans hkinds
    · intro kind hsome
      obtain ⟨result, hresult⟩ := Option.isSome_iff_exists.mp hsome
      rw [hsame kind, h.get?_base hbuilt] at hresult
      obtain ⟨turn, hturn, hgave⟩ := hresult
      have hkind : kind = turn.kind := h.own_turns hbuilt hturn _ hgave
      rw [hkind]
      exact hkinds.mem_iff.mp (List.mem_map_of_mem hturn)
    · have hfailed := h.failed_eq hbuilt hnone
      rw [horder] at hfailed
      apply hfailed.trans
      congr 1
      apply List.filter_congr
      intro node _
      rw [hsame]
    · have hsize := h.size_add_failed hbuilt hnone
      rw [← hsame.size_eq] at hsize
      rw [hsize, size, ← hbuilt.perm_order.length_eq, ← horder, List.length_map]

theorem doubling_in_order :
    build doubling [true] = .ok doublingGraph ∧
      ∃ last : Moment Bool String fun _ : Bool => Nat,
        (Moment.Reached doubling doublingGraph 3 ⟨2, true⟩ last ∧ last.Over) ∧
          (last.walk.visits.map Visit.kind).Nodup ∧
          ∀ outcome, last.walk.outcome = .ok outcome →
            outcome.results.size + outcome.failed.length = 2 := by
  obtain ⟨last, hreached, hover, -⟩ := built_doubling.exists_reached 3 ⟨2, true⟩
  have hwalk := every_walk_in_order build_doubling hreached
  exact ⟨build_doubling, last, ⟨hreached, hover⟩, hwalk.1, fun outcome houtcome =>
    (hwalk.2.2.2 outcome hover houtcome).2.2.2⟩

end Graph

end ServiceGen.Analysis
