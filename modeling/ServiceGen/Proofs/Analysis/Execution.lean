import ServiceGen.Proofs.Analysis.Interleaving

/-!
What every walk of a graph keeps, in whatever order its tasks take their steps. At each moment the
turns of the batches that have ended are a chronicle of their nodes, and the tasks of the batch that
has begun have, as far as they have come, the turns that follow it. So neither the order of steps
nor the cut into batches has a part in what comes of a walk.
-/
namespace ServiceGen.Analysis

variable {ι υ ε κ : Type} {ρ : κ → Type} [DecidableEq κ]

/-- Whether a task, as far as it has come, has the turn that its node would have first. -/
def Task.Fits (catalog : Catalog ι υ ε ρ) (nodes : List (Node ι κ)) (unit : υ) (base : Results ρ)
    (task : Task ι ε ρ) : Prop :=
  match task.phase with
  | .waiting => True
  | .started seen => seen = Walk.view nodes base task.node
  | .ran seen run => ⟨task.node, seen, run⟩ = Walk.turn catalog nodes unit base task.node
  | .finished seen run => ⟨task.node, seen, run⟩ = Walk.turn catalog nodes unit base task.node

theorem Task.seen_of_fits {catalog : Catalog ι υ ε ρ} {nodes : List (Node ι κ)} {unit : υ}
    {base : Results ρ} {task : Task ι ε ρ} (hfits : task.Fits catalog nodes unit base)
    {visit : Visit ρ} (hvisit : task.visit? = some visit) :
    visit.seen = Walk.view nodes base task.node := by
  obtain ⟨node, phase⟩ := task
  cases phase with
  | waiting => exact absurd hvisit (by simp [Task.visit?])
  | started seen =>
    obtain rfl := Option.some.inj hvisit
    exact hfits
  | ran seen run =>
    obtain rfl := Option.some.inj hvisit
    exact congrArg Turn.seen hfits
  | finished seen run =>
    obtain rfl := Option.some.inj hvisit
    exact congrArg Turn.seen hfits

variable [Explained ε]

/-- What holds at every moment of a walk. -/
structure Moment.Coherent (catalog : Catalog ι υ ε ρ) (graph : Graph ι κ) (unit : υ)
    (options : WalkOptions) (moment : Moment ι ε ρ) : Prop where
  plan : moment.past.map (·.map Turn.node) ++ moment.current ++ moment.ahead =
    Walk.batches graph options
  past : moment.turns =
    Walk.chronicle catalog graph.nodes unit .empty (moment.turns.map Turn.node)
  fits : ∀ task ∈ moment.tasks, task.Fits catalog graph.nodes unit moment.base
  results : moment.walk.results.Same
    (Walk.replay moment.base (moment.tasks.filterMap Task.turn?))
  account : moment.walk.account = Walk.tally options .start moment.turns
  visits : moment.walk.visits.Perm
    (moment.turns.map Turn.visit ++ moment.tasks.filterMap Task.visit?)

namespace Moment

variable {catalog : Catalog ι υ ε ρ} {graph : Graph ι κ} {unit : υ} {options : WalkOptions}
  {moment : Moment ι ε ρ}

namespace Coherent

variable (h : Coherent catalog graph unit options moment)

include h

/-- The nodes that had their turns, those of the batch that has begun, and those ahead are all. -/
theorem order_eq :
    moment.turns.map Turn.node ++ moment.tasks.map Task.node ++ moment.ahead.flatten =
      Walk.order graph := by
  rw [← Walk.flatten_batches graph options, ← h.plan, List.flatten_append, List.flatten_append,
    flatten_current, turns, List.map_flatten]

variable (hbuilt : Graph.Built catalog graph)

include hbuilt

theorem mem_nodes {node : Node ι κ}
    (hnode : node ∈ moment.turns.map Turn.node ++ moment.tasks.map Task.node) :
    node ∈ graph.nodes := by
  apply hbuilt.perm_order.mem_iff.mp
  rw [← h.order_eq]
  exact List.mem_append_left _ hnode

theorem faithful {node : Node ι κ}
    (hnode : node ∈ moment.turns.map Turn.node ++ moment.tasks.map Task.node) :
    Discovery.Faithful catalog node :=
  hbuilt.collected.faithful node (h.mem_nodes hbuilt hnode)

theorem nodup_kinds :
    (moment.turns.map Turn.kind ++ moment.tasks.map (·.node.kind)).Nodup := by
  have hall := hbuilt.nodup_kinds_order
  rw [← h.order_eq, List.map_append, List.nodup_append] at hall
  have hkinds := hall.1
  rw [List.map_append, List.map_map, List.map_map] at hkinds
  exact hkinds

/-- What a task requires had its turn in a batch that has ended. -/
theorem ready {task : Task ι ε ρ} (htask : task ∈ moment.tasks) :
    Walk.Ready graph.nodes (moment.turns.map Turn.node) task.node := by
  have hstaged := (hbuilt.scheduled options).staged
  rw [← h.plan, current_of_ne_nil (List.ne_nil_of_mem htask), List.append_assoc, Walk.staged_append,
    List.singleton_append, Walk.Staged] at hstaged
  have hready := hstaged.2.1 task.node (List.mem_map_of_mem htask)
  rwa [List.nil_append, ← List.map_flatten] at hready

theorem required_not_mem {task other : Task ι ε ρ} (htask : task ∈ moment.tasks)
    (hother : other ∈ moment.tasks) {kind : κ}
    (hkind : kind ∈ Walk.required graph.nodes task.node) : kind ≠ other.node.kind := by
  intro hsame
  have hdone := (h.ready hbuilt htask).mem_kinds hkind
  rw [List.map_map] at hdone
  have hdisjoint := (List.nodup_append.mp (h.nodup_kinds hbuilt)).2.2
  exact hdisjoint kind hdone other.node.kind (List.mem_map.mpr ⟨other, hother, rfl⟩) hsame

theorem own {turn : Turn ι ε ρ} (hturn : turn ∈ moment.tasks.filterMap Task.turn?) : turn.Own := by
  obtain ⟨task, htask, hturn⟩ := List.mem_filterMap.mp hturn
  have hfits := h.fits task htask
  obtain ⟨node, phase⟩ := task
  cases phase with
  | finished seen run =>
    obtain rfl := Option.some.inj hturn
    have hturn' : (⟨node, seen, run⟩ : Turn ι ε ρ) =
        Walk.turn catalog graph.nodes unit moment.base node := hfits
    rw [hturn']
    exact Walk.own_turn (h.faithful hbuilt
      (List.mem_append_right _ (List.mem_map_of_mem htask))) _
  | waiting => exact absurd hturn (by simp [Task.turn?])
  | started seen => exact absurd hturn (by simp [Task.turn?])
  | ran seen run => exact absurd hturn (by simp [Task.turn?])

/-- What the tasks of a batch record is not what any of them looks for. -/
theorem get?_results {task : Task ι ε ρ} (htask : task ∈ moment.tasks) {kind : κ}
    (hkind : kind ∈ Walk.required graph.nodes task.node) :
    moment.walk.results.get? kind = moment.base.get? kind := by
  rw [h.results kind]
  apply Walk.get?_replay_of_notMem fun turn hturn => h.own hbuilt hturn
  intro hmem
  obtain ⟨turn, hturn, rfl⟩ := List.mem_map.mp hmem
  obtain ⟨other, hother, hturn⟩ := List.mem_filterMap.mp hturn
  apply h.required_not_mem hbuilt htask hother hkind
  rw [Turn.kind, Task.node_of_turn? hturn]

theorem view_eq {task : Task ι ε ρ} (htask : task ∈ moment.tasks) :
    Walk.view graph.nodes moment.walk.results task.node =
      Walk.view graph.nodes moment.base task.node :=
  Results.restrict_congr fun _ hkind => h.get?_results hbuilt htask hkind

/-- The turns of the batch that has begun, once all have ended, follow those before. -/
theorem chronicle_tasks :
    Walk.chronicle catalog graph.nodes unit moment.base (moment.tasks.map Task.node) =
      (moment.tasks.map Task.node).map (Walk.turn catalog graph.nodes unit moment.base) := by
  apply Walk.chronicle_of_free
  · intro node hnode
    exact h.faithful hbuilt (List.mem_append_right _ hnode)
  · intro node hnode kind hkind hmem
    obtain ⟨task, htask, rfl⟩ := List.mem_map.mp hnode
    obtain ⟨found, hfound, rfl⟩ := List.mem_map.mp hmem
    obtain ⟨other, hother, rfl⟩ := List.mem_map.mp hfound
    exact h.required_not_mem hbuilt htask hother hkind rfl

end Coherent

section

variable {past : List (List (Turn ι ε ρ))} {before after : List (Task ι ε ρ)} {node : Node ι κ}
  {phase phase' : Phase ε ρ} {ahead : List (List (Node ι κ))} {walk walk' : Walk ε ρ}

/-- A step of one task changes nothing of the others. -/
theorem Coherent.advance
    (h : Coherent catalog graph unit options ⟨past, before ++ ⟨node, phase⟩ :: after, ahead, walk⟩)
    (hfits : Task.Fits catalog graph.nodes unit (Walk.replay .empty past.flatten) ⟨node, phase'⟩)
    (hresults : walk'.results.Same (Walk.replay (Walk.replay .empty past.flatten)
      ((before ++ ⟨node, phase'⟩ :: after).filterMap Task.turn?)))
    (haccount : walk'.account = walk.account)
    (hvisits : walk'.visits.Perm (past.flatten.map Turn.visit ++
      (before ++ ⟨node, phase'⟩ :: after).filterMap Task.visit?)) :
    Coherent catalog graph unit options
      ⟨past, before ++ ⟨node, phase'⟩ :: after, ahead, walk'⟩ where
  plan := by
    have hplan := h.plan
    rw [current_of_ne_nil (by simp)] at hplan ⊢
    simpa using hplan
  past := h.past
  fits := by
    intro task htask
    rcases List.mem_append.mp htask with htask | htask
    · exact h.fits task (List.mem_append_left _ htask)
    · rcases List.mem_cons.mp htask with rfl | htask
      · exact hfits
      · exact h.fits task (List.mem_append_right _ (List.mem_cons_of_mem _ htask))
  results := hresults
  account := haccount.trans h.account
  visits := hvisits

/-- A task that starts sees what it would see first, whatever was recorded meanwhile. -/
theorem Coherent.start (hbuilt : Graph.Built catalog graph)
    (h : Coherent catalog graph unit options
      ⟨past, before ++ ⟨node, .waiting⟩ :: after, ahead, walk⟩) :
    Coherent catalog graph unit options
      ⟨past, before ++ ⟨node, .started (Walk.view graph.nodes walk.results node)⟩ :: after, ahead,
        { walk with
          visits := walk.visits ++ [⟨node.kind, Walk.view graph.nodes walk.results node⟩] }⟩ := by
  have hresults := h.results
  have hvisits := h.visits
  apply h.advance
  · exact h.view_eq hbuilt (List.mem_append_right _ (List.mem_cons_self ..))
  · rw [Task.turns_middle] at hresults ⊢
    exact hresults
  · rfl
  · rw [Task.visits_middle] at hvisits ⊢
    rw [← List.append_assoc] at hvisits ⊢
    exact (hvisits.append_right _).trans
      ((List.perm_append_singleton _ _).trans List.perm_middle.symm)

theorem Coherent.run {seen : Results ρ}
    (h : Coherent catalog graph unit options
      ⟨past, before ++ ⟨node, .started seen⟩ :: after, ahead, walk⟩) :
    Coherent catalog graph unit options
      ⟨past, before ++ ⟨node, .ran seen (Walk.runOf catalog unit node seen)⟩ :: after, ahead,
        walk⟩ := by
  have hseen : seen = Walk.view graph.nodes (Walk.replay .empty past.flatten) node :=
    h.fits ⟨node, .started seen⟩ (List.mem_append_right _ (List.mem_cons_self ..))
  have hresults := h.results
  have hvisits := h.visits
  apply h.advance
  · rw [hseen]
    rfl
  · rw [Task.turns_middle] at hresults ⊢
    exact hresults
  · rfl
  · rw [Task.visits_middle] at hvisits ⊢
    exact hvisits

/-- What a task records is added to what the others have recorded, in no order among them. -/
theorem Coherent.record (hbuilt : Graph.Built catalog graph) {seen : Results ρ}
    {run : Run ε (Entry ρ)}
    (h : Coherent catalog graph unit options
      ⟨past, before ++ ⟨node, .ran seen run⟩ :: after, ahead, walk⟩) :
    Coherent catalog graph unit options
      ⟨past, before ++ ⟨node, .finished seen run⟩ :: after, ahead,
        { walk with results := Walk.record walk.results run }⟩ := by
  have hmem : (⟨node, .ran seen run⟩ : Task ι ε ρ) ∈ before ++ ⟨node, .ran seen run⟩ :: after :=
    List.mem_append_right _ (List.mem_cons_self ..)
  have hturn : (⟨node, seen, run⟩ : Turn ι ε ρ) =
      Walk.turn catalog graph.nodes unit (Walk.replay .empty past.flatten) node := h.fits _ hmem
  have hresults := Walk.same_record h.results run
  have hvisits := h.visits
  apply h.advance
  · exact hturn
  · have hown : ∀ turn ∈ (before ++ (⟨node, .finished seen run⟩ : Task ι ε ρ) :: after).filterMap
        Task.turn?, turn.Own := by
      intro turn hmem'
      rw [Task.turns_middle, List.mem_append, List.mem_append] at hmem'
      have hothers : turn ∈ (before ++ (⟨node, .ran seen run⟩ : Task ι ε ρ) :: after).filterMap
          Task.turn? → turn.Own := h.own hbuilt
      rw [Task.turns_middle, List.mem_append, List.mem_append] at hothers
      rcases hmem' with hbefore | hself | hafter
      · exact hothers (.inl hbefore)
      · obtain rfl := Option.some.inj (Option.mem_toList.mp hself)
        rw [hturn]
        exact Walk.own_turn (h.faithful hbuilt
          (List.mem_append_right _ (List.mem_map_of_mem hmem))) _
      · exact hothers (.inr (.inr hafter))
    have hdistinct : (((before ++ (⟨node, .finished seen run⟩ : Task ι ε ρ) :: after).filterMap
        Task.turn?).map Turn.kind).Nodup := by
      have hkinds := (List.nodup_append.mp (h.nodup_kinds hbuilt)).2.1
      apply List.Nodup.sublist (Task.sublist_kinds _)
      simpa using hkinds
    have hperm : ((before ++ (⟨node, .finished seen run⟩ : Task ι ε ρ) :: after).filterMap
        Task.turn?).Perm
        ((before ++ (⟨node, .ran seen run⟩ : Task ι ε ρ) :: after).filterMap Task.turn? ++
          [⟨node, seen, run⟩]) := by
      rw [Task.turns_middle, Task.turns_middle, List.append_assoc]
      exact List.perm_append_comm.append_left _
    have hreplay := Walk.same_replay_of_perm hperm hown hdistinct
      (Walk.replay .empty past.flatten)
    rw [Walk.replay_append] at hreplay
    exact hresults.trans hreplay.symm
  · rfl
  · rw [Task.visits_middle] at hvisits ⊢
    exact hvisits

theorem coherent_start (catalog : Catalog ι υ ε ρ) (graph : Graph ι κ) (unit : υ)
    (options : WalkOptions) :
    Coherent catalog graph unit options ⟨[], [], Walk.batches graph options, .start⟩ where
  plan := rfl
  past := rfl
  fits := by simp
  results := .refl _
  account := rfl
  visits := .refl _

theorem Coherent.begin (hbuilt : Graph.Built catalog graph) {batch : List (Node ι κ)}
    (h : Coherent catalog graph unit options ⟨past, [], batch :: ahead, walk⟩) :
    Coherent catalog graph unit options ⟨past, batch.map Task.wait, ahead, walk⟩ := by
  have hplan := h.plan
  have hbatch : batch ≠ [] := by
    have hmem : batch ∈ Walk.batches graph options := by
      rw [← hplan]
      simp
    exact List.length_pos_iff.mp ((hbuilt.scheduled options).bounded batch hmem).1
  have hnode : (batch.map (Task.wait : Node ι κ → Task ι ε ρ)).map Task.node = batch := by
    rw [List.map_map]
    exact List.map_id batch
  have hturns : (batch.map (Task.wait : Node ι κ → Task ι ε ρ)).filterMap Task.turn? = [] := by
    rw [List.filterMap_map]
    exact List.filterMap_eq_nil_iff.mpr fun _ _ => rfl
  have hvisits : (batch.map (Task.wait : Node ι κ → Task ι ε ρ)).filterMap Task.visit? = [] := by
    rw [List.filterMap_map]
    exact List.filterMap_eq_nil_iff.mpr fun _ _ => rfl
  refine ⟨?_, h.past, ?_, ?_, h.account, ?_⟩
  · rw [current_of_ne_nil (by simpa using hbatch), hnode]
    rw [← hplan, current, if_pos rfl, List.append_nil, List.append_assoc, List.singleton_append]
  · intro task htask
    obtain ⟨node, -, rfl⟩ := List.mem_map.mp htask
    trivial
  · rw [hturns]
    exact h.results
  · rw [hvisits]
    exact h.visits

/-- The turns of a batch that ends follow those of the batches before it. -/
theorem Coherent.join (hbuilt : Graph.Built catalog graph) {turns : List (Turn ι ε ρ)}
    (hturns : turns ≠ [])
    (h : Coherent catalog graph unit options ⟨past, turns.map Turn.task, ahead, walk⟩) :
    Coherent catalog graph unit options
      ⟨past ++ [turns], [], ahead,
        { walk with account := Walk.tally options walk.account turns }⟩ := by
  have hnode : (turns.map Turn.task).map Task.node = turns.map Turn.node := by
    rw [List.map_map]
    rfl
  have hall : (past ++ [turns]).flatten = past.flatten ++ turns := by simp
  have hchronicle : Walk.chronicle catalog graph.nodes unit (Walk.replay .empty past.flatten)
      (turns.map Turn.node) = turns := by
    have hbatch := h.chronicle_tasks hbuilt
    rw [hnode] at hbatch
    apply hbatch.trans
    rw [List.map_map]
    conv_rhs => rw [← List.map_id turns]
    apply List.map_congr_left
    intro turn hturn
    exact (h.fits turn.task (List.mem_map_of_mem hturn)).symm
  have hpast : past.flatten = Walk.chronicle catalog graph.nodes unit .empty
      (past.flatten.map Turn.node) := h.past
  have hresults := h.results
  have haccount := h.account
  have hvisits := h.visits
  rw [Task.filterMap_turn?_task] at hresults
  rw [Task.filterMap_visit?_task] at hvisits
  refine ⟨?_, ?_, by simp, ?_, ?_, ?_⟩
  · have hplan := h.plan
    rw [current_of_ne_nil (by simpa using hturns), hnode] at hplan
    rw [current, if_pos rfl, List.append_nil, List.map_append]
    exact hplan
  · change (past ++ [turns]).flatten = Walk.chronicle catalog graph.nodes unit .empty
      ((past ++ [turns]).flatten.map Turn.node)
    rw [hall, List.map_append, Walk.chronicle_append, ← hpast, hchronicle]
  · change walk.results.Same (Walk.replay (Walk.replay .empty (past ++ [turns]).flatten) [])
    rw [hall, Walk.replay_append]
    exact hresults
  · change Walk.tally options walk.account turns =
      Walk.tally options .start (past ++ [turns]).flatten
    rw [hall, Walk.tally_append]
    exact congrArg (Walk.tally options · turns) haccount
  · change walk.visits.Perm ((past ++ [turns]).flatten.map Turn.visit ++ [])
    rw [hall, List.append_nil, List.map_append]
    exact hvisits

theorem Coherent.step (hbuilt : Graph.Built catalog graph) {next : Moment ι ε ρ}
    (h : Coherent catalog graph unit options moment)
    (hstep : Step catalog graph.nodes unit options moment next) :
    Coherent catalog graph unit options next := by
  cases hstep with
  | begin past batch ahead walk hgoing => exact h.begin hbuilt
  | start past before after node ahead walk => exact h.start hbuilt
  | run past before after node seen ahead walk => exact h.run
  | record past before after node seen run ahead walk => exact h.record hbuilt
  | join past turns ahead walk hturns => exact h.join hbuilt hturns

theorem coherent_of_reached (hbuilt : Graph.Built catalog graph)
    (hreached : Reached catalog graph unit options moment) :
    Coherent catalog graph unit options moment := by
  induction hreached with
  | refl => exact coherent_start catalog graph unit options
  | tail _ hstep ih => exact ih.step hbuilt hstep

end

end Moment

end ServiceGen.Analysis
