import Mathlib.Algebra.GroupWithZero.Nat
import Mathlib.Logic.Relation
import ServiceGen.Proofs.Analysis.Chronicle

/-!
Walks whose analyzers run at the same time. The analyzers of a batch are tasks. Each takes what it
sees from the recorded results, runs, and records its result, in any order among the others; when
all have finished, the next batch begins. What is recorded meanwhile is never what a task of the
same batch looks for, so that every task has the turn that it would have first.
-/
namespace ServiceGen.Analysis

variable {ι υ ε κ : Type} {ρ : κ → Type}

/-- How far the analyzer of a task has come. -/
inductive Phase (ε : Type) {κ : Type} (ρ : κ → Type) where
  | waiting
  /-- It has taken what it sees, and runs. -/
  | started (seen : Results ρ)
  /-- Its run has ended, but nothing of it was recorded. -/
  | ran (seen : Results ρ) (run : Run ε (Entry ρ))
  | finished (seen : Results ρ) (run : Run ε (Entry ρ))

/-- Whether the analyzer was started and has not finished. -/
def Phase.inFlight : Phase ε ρ → Bool
  | .waiting => false
  | .started _ => true
  | .ran .. => true
  | .finished .. => false

def Phase.remaining : Phase ε ρ → Nat
  | .waiting => 3
  | .started _ => 2
  | .ran .. => 1
  | .finished .. => 0

/-- A node whose batch has begun. -/
structure Task (ι ε : Type) {κ : Type} (ρ : κ → Type) where
  node : Node ι κ
  phase : Phase ε ρ

/-- A walk at some moment: the batches that have ended, the tasks of the one that has begun, the
batches ahead, and what the walk has come to. -/
structure Moment (ι ε : Type) {κ : Type} (ρ : κ → Type) where
  past : List (List (Turn ι ε ρ))
  tasks : List (Task ι ε ρ)
  ahead : List (List (Node ι κ))
  walk : Walk ε ρ

def Turn.visit (turn : Turn ι ε ρ) : Visit ρ := ⟨turn.kind, turn.seen⟩

/-- The task that has had the turn. -/
def Turn.task (turn : Turn ι ε ρ) : Task ι ε ρ := ⟨turn.node, .finished turn.seen turn.run⟩

namespace Task

def wait (node : Node ι κ) : Task ι ε ρ := ⟨node, .waiting⟩

/-- The visit of a task that was started. -/
def visit? (task : Task ι ε ρ) : Option (Visit ρ) :=
  match task.phase with
  | .waiting => none
  | .started seen => some ⟨task.node.kind, seen⟩
  | .ran seen _ => some ⟨task.node.kind, seen⟩
  | .finished seen _ => some ⟨task.node.kind, seen⟩

/-- The turn of a task that has finished. -/
def turn? (task : Task ι ε ρ) : Option (Turn ι ε ρ) :=
  match task.phase with
  | .finished seen run => some ⟨task.node, seen, run⟩
  | _ => none

theorem node_of_turn? {task : Task ι ε ρ} {turn : Turn ι ε ρ} (h : task.turn? = some turn) :
    turn.node = task.node := by
  obtain ⟨node, phase⟩ := task
  cases phase with
  | finished seen run =>
    obtain rfl := Option.some.inj h
    rfl
  | waiting => exact absurd h (by simp [turn?])
  | started seen => exact absurd h (by simp [turn?])
  | ran seen run => exact absurd h (by simp [turn?])

theorem kind_of_visit? {task : Task ι ε ρ} {visit : Visit ρ} (h : task.visit? = some visit) :
    visit.kind = task.node.kind := by
  obtain ⟨node, phase⟩ := task
  cases phase with
  | waiting => exact absurd h (by simp [visit?])
  | started seen =>
    obtain rfl := Option.some.inj h
    rfl
  | ran seen run =>
    obtain rfl := Option.some.inj h
    rfl
  | finished seen run =>
    obtain rfl := Option.some.inj h
    rfl

/-- Only the task in the middle tells the turns of some tasks from those of others. -/
theorem turns_middle {task : Task ι ε ρ} (before after : List (Task ι ε ρ)) :
    (before ++ task :: after).filterMap turn? =
      before.filterMap turn? ++ (task.turn?.toList ++ after.filterMap turn?) := by
  rw [List.filterMap_append, List.filterMap_cons]
  cases task.turn? <;> rfl

theorem visits_middle {task : Task ι ε ρ} (before after : List (Task ι ε ρ)) :
    (before ++ task :: after).filterMap visit? =
      before.filterMap visit? ++ (task.visit?.toList ++ after.filterMap visit?) := by
  rw [List.filterMap_append, List.filterMap_cons]
  cases task.visit? <;> rfl

theorem sublist_kinds (tasks : List (Task ι ε ρ)) :
    ((tasks.filterMap turn?).map Turn.kind).Sublist (tasks.map (·.node.kind)) := by
  induction tasks with
  | nil => exact .slnil
  | cons task rest ih =>
    rw [List.map_cons]
    cases hturn : task.turn? with
    | none =>
      rw [List.filterMap_cons_none hturn]
      exact ih.cons _
    | some turn =>
      rw [List.filterMap_cons_some hturn, List.map_cons, Turn.kind, node_of_turn? hturn]
      exact ih.cons_cons _

theorem sublist_visits (tasks : List (Task ι ε ρ)) :
    ((tasks.filterMap visit?).map Visit.kind).Sublist (tasks.map (·.node.kind)) := by
  induction tasks with
  | nil => exact .slnil
  | cons task rest ih =>
    rw [List.map_cons]
    cases hvisit : task.visit? with
    | none =>
      rw [List.filterMap_cons_none hvisit]
      exact ih.cons _
    | some visit =>
      rw [List.filterMap_cons_some hvisit, List.map_cons, kind_of_visit? hvisit]
      exact ih.cons_cons _

theorem filterMap_turn?_task (turns : List (Turn ι ε ρ)) :
    (turns.map Turn.task).filterMap turn? = turns := by
  rw [List.filterMap_map]
  exact List.filterMap_some

theorem filterMap_visit?_task (turns : List (Turn ι ε ρ)) :
    (turns.map Turn.task).filterMap visit? = turns.map Turn.visit := by
  rw [List.filterMap_map]
  exact congrFun List.filterMap_eq_map turns

theorem map_task_turn? {tasks : List (Task ι ε ρ)}
    (hfinished : ∀ task ∈ tasks, task.turn?.isSome) :
    (tasks.filterMap Task.turn?).map Turn.task = tasks := by
  induction tasks with
  | nil => rfl
  | cons task rest ih =>
    have hrest := ih fun other hother => hfinished other (List.mem_cons_of_mem _ hother)
    have htask := hfinished task (List.mem_cons_self ..)
    obtain ⟨node, phase⟩ := task
    cases phase with
    | finished seen run =>
      have hturn : Task.turn? ⟨node, .finished seen run⟩ = some ⟨node, seen, run⟩ := rfl
      rw [List.filterMap_cons_some hturn, List.map_cons, hrest, Turn.task]
    | waiting => simp [Task.turn?] at htask
    | started seen => simp [Task.turn?] at htask
    | ran seen run => simp [Task.turn?] at htask

end Task

namespace Moment

/-- The turns of the batches that have ended. -/
def turns (moment : Moment ι ε ρ) : List (Turn ι ε ρ) := moment.past.flatten

/-- The batch that has begun, if there is one. -/
def current (moment : Moment ι ε ρ) : List (List (Node ι κ)) :=
  if moment.tasks = [] then [] else [moment.tasks.map Task.node]

theorem flatten_current (moment : Moment ι ε ρ) :
    moment.current.flatten = moment.tasks.map Task.node := by
  unfold current
  split
  · next hnil => simp [hnil]
  · simp

theorem current_of_ne_nil {moment : Moment ι ε ρ} (htasks : moment.tasks ≠ []) :
    moment.current = [moment.tasks.map Task.node] := if_neg htasks

/-- The number of steps that a walk can have before it. -/
def work (moment : Moment ι ε ρ) : Nat :=
  (moment.ahead.map fun batch => 3 * batch.length + 2).sum +
    (moment.tasks.map fun task => task.phase.remaining).sum +
    if moment.tasks = [] then 0 else 1

theorem work_wait (batch : List (Node ι κ)) :
    ((batch.map (Task.wait : Node ι κ → Task ι ε ρ)).map fun task => task.phase.remaining).sum =
      3 * batch.length := by
  induction batch with
  | nil => rfl
  | cons node rest ih =>
    rw [List.map_cons, List.map_cons, List.sum_cons, ih, List.length_cons, Nat.mul_succ,
      Nat.add_comm]
    rfl

variable [DecidableEq κ] [Explained ε]

/-- What can happen next. The tasks take these steps each for itself, and the first task that can
take one does not come before the others. -/
inductive Step (catalog : Catalog ι υ ε ρ) (nodes : List (Node ι κ)) (unit : υ)
    (options : WalkOptions) : Moment ι ε ρ → Moment ι ε ρ → Prop
  | begin (past : List (List (Turn ι ε ρ))) (batch : List (Node ι κ))
      (ahead : List (List (Node ι κ))) (walk : Walk ε ρ) (hgoing : walk.account.error = none) :
      Step catalog nodes unit options ⟨past, [], batch :: ahead, walk⟩
        ⟨past, batch.map Task.wait, ahead, walk⟩
  | start (past : List (List (Turn ι ε ρ))) (before after : List (Task ι ε ρ)) (node : Node ι κ)
      (ahead : List (List (Node ι κ))) (walk : Walk ε ρ) :
      Step catalog nodes unit options ⟨past, before ++ ⟨node, .waiting⟩ :: after, ahead, walk⟩
        ⟨past, before ++ ⟨node, .started (Walk.view nodes walk.results node)⟩ :: after, ahead,
          { walk with visits := walk.visits ++ [⟨node.kind, Walk.view nodes walk.results node⟩] }⟩
  | run (past : List (List (Turn ι ε ρ))) (before after : List (Task ι ε ρ)) (node : Node ι κ)
      (seen : Results ρ) (ahead : List (List (Node ι κ))) (walk : Walk ε ρ) :
      Step catalog nodes unit options ⟨past, before ++ ⟨node, .started seen⟩ :: after, ahead, walk⟩
        ⟨past, before ++ ⟨node, .ran seen (Walk.runOf catalog unit node seen)⟩ :: after, ahead,
          walk⟩
  | record (past : List (List (Turn ι ε ρ))) (before after : List (Task ι ε ρ)) (node : Node ι κ)
      (seen : Results ρ) (run : Run ε (Entry ρ)) (ahead : List (List (Node ι κ)))
      (walk : Walk ε ρ) :
      Step catalog nodes unit options ⟨past, before ++ ⟨node, .ran seen run⟩ :: after, ahead, walk⟩
        ⟨past, before ++ ⟨node, .finished seen run⟩ :: after, ahead,
          { walk with results := Walk.record walk.results run }⟩
  | join (past : List (List (Turn ι ε ρ))) (turns : List (Turn ι ε ρ))
      (ahead : List (List (Node ι κ))) (walk : Walk ε ρ) (hturns : turns ≠ []) :
      Step catalog nodes unit options ⟨past, turns.map Turn.task, ahead, walk⟩
        ⟨past ++ [turns], [], ahead,
          { walk with account := Walk.tally options walk.account turns }⟩

/-- Nothing is left to do, or the walk has been ended by a failure. -/
def Over (moment : Moment ι ε ρ) : Prop :=
  moment.tasks = [] ∧ (moment.walk.account.error.isSome ∨ moment.ahead = [])

/-- The moments that a walk of a graph can come to. -/
def Reached (catalog : Catalog ι υ ε ρ) (graph : Graph ι κ) (unit : υ) (options : WalkOptions) :
    Moment ι ε ρ → Prop :=
  Relation.ReflTransGen (Step catalog graph.nodes unit options)
    ⟨[], [], Walk.batches graph options, .start⟩

/-- The results that all tasks of a batch see: those of the batches before it. -/
def base (moment : Moment ι ε ρ) : Results ρ := Walk.replay .empty moment.turns

section

variable (catalog : Catalog ι υ ε ρ) (nodes : List (Node ι κ)) (unit : υ) (options : WalkOptions)

theorem exists_step {moment : Moment ι ε ρ} (hgoing : ¬ moment.Over) :
    ∃ next, Step catalog nodes unit options moment next := by
  obtain ⟨past, tasks, ahead, walk⟩ := moment
  by_cases hunfinished : ∃ task ∈ tasks, task.turn? = none
  · obtain ⟨⟨node, phase⟩, htask, hturn⟩ := hunfinished
    obtain ⟨before, after, rfl⟩ := List.append_of_mem htask
    cases phase with
    | waiting => exact ⟨_, .start past before after node ahead walk⟩
    | started seen => exact ⟨_, .run past before after node seen ahead walk⟩
    | ran seen run => exact ⟨_, .record past before after node seen run ahead walk⟩
    | finished seen run => simp [Task.turn?] at hturn
  · cases tasks with
    | nil =>
      cases ahead with
      | nil => exact absurd ⟨rfl, .inr rfl⟩ hgoing
      | cons batch rest =>
        cases herror : walk.account.error with
        | some error => exact absurd ⟨rfl, .inl (by simp [herror])⟩ hgoing
        | none => exact ⟨_, .begin past batch rest walk herror⟩
    | cons task rest =>
      have hfinished : ∀ other ∈ task :: rest, other.turn?.isSome := by
        intro other hother
        by_contra hnone
        exact hunfinished ⟨other, hother, by simpa using hnone⟩
      have htasks := Task.map_task_turn? hfinished
      have hturns : (task :: rest).filterMap Task.turn? ≠ [] := by
        intro hnil
        rw [hnil] at htasks
        exact absurd htasks (by simp)
      rw [← htasks]
      exact ⟨_, .join past _ ahead walk hturns⟩

/-- Every step leaves less to do, whichever task takes it. -/
theorem work_lt {catalog : Catalog ι υ ε ρ} {nodes : List (Node ι κ)} {unit : υ}
    {options : WalkOptions} {moment next : Moment ι ε ρ}
    (h : Step catalog nodes unit options moment next) : next.work < moment.work := by
  cases h with
  | begin past batch ahead walk hgoing =>
    simp only [work, work_wait, List.map_cons, List.sum_cons, List.map_nil, List.sum_nil]
    split <;> split <;> omega
  | start past before after node ahead walk => simp [work, Phase.remaining]
  | run past before after node seen ahead walk => simp [work, Phase.remaining]
  | record past before after node seen run ahead walk => simp [work, Phase.remaining]
  | join past turns ahead walk hturns =>
    simp only [work, List.map_nil, List.sum_nil, List.map_eq_nil_iff, hturns, if_true, if_false]
    omega

theorem wellFounded_step :
    WellFounded fun next moment : Moment ι ε ρ => Step catalog nodes unit options moment next :=
  Subrelation.wf (fun h => work_lt h) (measure work).wf

/-- From every moment on, a walk comes to its end. -/
theorem exists_over (moment : Moment ι ε ρ) :
    ∃ last, Relation.ReflTransGen (Step catalog nodes unit options) moment last ∧ last.Over := by
  induction moment using (wellFounded_step catalog nodes unit options).induction with
  | _ moment ih =>
    by_cases hover : moment.Over
    · exact ⟨moment, .refl, hover⟩
    · obtain ⟨next, hnext⟩ := exists_step catalog nodes unit options hover
      obtain ⟨last, hlast, hover⟩ := ih next hnext
      exact ⟨last, .head hnext hlast, hover⟩

theorem start_all (past : List (List (Turn ι ε ρ))) (before : List (Task ι ε ρ))
    (batch : List (Node ι κ)) (ahead : List (List (Node ι κ))) (walk : Walk ε ρ) :
    Relation.ReflTransGen (Step catalog nodes unit options)
      ⟨past, before ++ batch.map Task.wait, ahead, walk⟩
      ⟨past, before ++ batch.map fun node => ⟨node, .started (Walk.view nodes walk.results node)⟩,
        ahead, { walk with
          visits := walk.visits ++
            batch.map fun node => ⟨node.kind, Walk.view nodes walk.results node⟩ }⟩ := by
  induction batch generalizing before walk with
  | nil => simp [Relation.ReflTransGen.refl]
  | cons node rest ih =>
    have hrest := ih (before ++ [⟨node, .started (Walk.view nodes walk.results node)⟩])
      { walk with visits := walk.visits ++ [⟨node.kind, Walk.view nodes walk.results node⟩] }
    simp only [List.append_assoc, List.singleton_append] at hrest
    exact .head (.start past before (rest.map Task.wait) node ahead walk) hrest

theorem run_all (past : List (List (Turn ι ε ρ))) (before : List (Task ι ε ρ))
    (batch : List (Node ι κ)) (see : Node ι κ → Results ρ) (ahead : List (List (Node ι κ)))
    (walk : Walk ε ρ) :
    Relation.ReflTransGen (Step catalog nodes unit options)
      ⟨past, before ++ batch.map fun node => ⟨node, .started (see node)⟩, ahead, walk⟩
      ⟨past, before ++ batch.map fun node =>
        ⟨node, .ran (see node) (Walk.runOf catalog unit node (see node))⟩, ahead, walk⟩ := by
  induction batch generalizing before with
  | nil => exact .refl
  | cons node rest ih =>
    have hrest := ih (before ++ [⟨node, .ran (see node) (Walk.runOf catalog unit node (see node))⟩])
    simp only [List.append_assoc, List.singleton_append] at hrest
    exact .head (.run past before _ node (see node) ahead walk) hrest

theorem record_all (past : List (List (Turn ι ε ρ))) (before : List (Task ι ε ρ))
    (turns : List (Turn ι ε ρ)) (ahead : List (List (Node ι κ))) (walk : Walk ε ρ) :
    Relation.ReflTransGen (Step catalog nodes unit options)
      ⟨past, before ++ turns.map fun turn => ⟨turn.node, .ran turn.seen turn.run⟩, ahead, walk⟩
      ⟨past, before ++ turns.map Turn.task, ahead,
        { walk with results := Walk.replay walk.results turns }⟩ := by
  induction turns generalizing before walk with
  | nil => exact .refl
  | cons turn rest ih =>
    have hrest := ih (before ++ [turn.task])
      { walk with results := Walk.record walk.results turn.run }
    simp only [List.append_assoc, List.singleton_append] at hrest
    exact .head (.record past before _ turn.node turn.seen turn.run ahead walk) hrest

/-- What a batch comes to when its analyzers run one after the other. -/
theorem foldl_visit (recorded : Results ρ) (batch : List (Node ι κ)) (walk : Walk ε ρ) :
    batch.foldl (Walk.visit catalog nodes unit options recorded) walk =
      { visits := walk.visits ++
          batch.map fun node => ⟨node.kind, Walk.view nodes recorded node⟩
        results := Walk.replay walk.results (batch.map (Walk.turn catalog nodes unit recorded))
        account := Walk.tally options walk.account
          (batch.map (Walk.turn catalog nodes unit recorded)) } := by
  induction batch generalizing walk with
  | nil => simp [Walk.replay, Walk.tally]
  | cons node rest ih =>
    rw [List.foldl_cons, ih]
    simp only [Walk.visit, List.append_assoc, List.singleton_append, List.map_cons]
    rfl

/-- A batch whose analyzers run one after the other is one of the ways in which it can run. -/
theorem batch_reached (past : List (List (Turn ι ε ρ))) (batch : List (Node ι κ))
    (ahead : List (List (Node ι κ))) (walk : Walk ε ρ) (hbatch : batch ≠ [])
    (hgoing : walk.account.error = none) :
    Relation.ReflTransGen (Step catalog nodes unit options) ⟨past, [], batch :: ahead, walk⟩
      ⟨past ++ [batch.map (Walk.turn catalog nodes unit walk.results)], [], ahead,
        Walk.batch catalog nodes unit options walk batch⟩ := by
  have hstart := start_all catalog nodes unit options past [] batch ahead walk
  have hrun := run_all catalog nodes unit options past [] batch (Walk.view nodes walk.results) ahead
    { walk with
      visits := walk.visits ++
        batch.map fun node => ⟨node.kind, Walk.view nodes walk.results node⟩ }
  have hrecord := record_all catalog nodes unit options past []
    (batch.map (Walk.turn catalog nodes unit walk.results)) ahead
    { walk with
      visits := walk.visits ++
        batch.map fun node => ⟨node.kind, Walk.view nodes walk.results node⟩ }
  have hjoin : Step catalog nodes unit options _ _ :=
    .join past (batch.map (Walk.turn catalog nodes unit walk.results)) ahead
      { visits := walk.visits ++
          batch.map fun node => ⟨node.kind, Walk.view nodes walk.results node⟩
        results := Walk.replay walk.results (batch.map (Walk.turn catalog nodes unit walk.results))
        account := walk.account } (by simpa using hbatch)
  simp only [List.nil_append, List.map_map] at hstart hrun hrecord
  rw [Walk.batch, hgoing, Option.isSome_none, if_neg Bool.false_ne_true, foldl_visit]
  exact .head (.begin past batch ahead walk hgoing)
    (hstart.trans (hrun.trans (hrecord.trans (.single (by simpa using hjoin)))))

theorem foldl_batch_of_error {walk : Walk ε ρ} (herror : walk.account.error.isSome)
    (batches : List (List (Node ι κ))) :
    batches.foldl (Walk.batch catalog nodes unit options) walk = walk := by
  induction batches with
  | nil => rfl
  | cons batch rest ih => rw [List.foldl_cons, Walk.batch, if_pos herror, ih]

/-- The walk whose batches run one after the other is one of the ways in which it can run. -/
theorem batches_reached (past : List (List (Turn ι ε ρ))) (batches : List (List (Node ι κ)))
    (walk : Walk ε ρ) (hbatches : ∀ batch ∈ batches, batch ≠ []) :
    ∃ last : Moment ι ε ρ,
      Relation.ReflTransGen (Step catalog nodes unit options) ⟨past, [], batches, walk⟩ last ∧
        last.Over ∧ last.walk = batches.foldl (Walk.batch catalog nodes unit options) walk := by
  induction batches generalizing past walk with
  | nil => exact ⟨_, .refl, ⟨rfl, .inr rfl⟩, rfl⟩
  | cons batch rest ih =>
    cases herror : walk.account.error with
    | some error =>
      have hsome : walk.account.error.isSome := by simp [herror]
      exact ⟨_, .refl, ⟨rfl, .inl hsome⟩, (foldl_batch_of_error _ _ _ _ hsome _).symm⟩
    | none =>
      have hbatch := batch_reached catalog nodes unit options past batch rest walk
        (hbatches batch (List.mem_cons_self ..)) herror
      obtain ⟨last, hlast, hover, hwalk⟩ := ih
        (past ++ [batch.map (Walk.turn catalog nodes unit walk.results)])
        (Walk.batch catalog nodes unit options walk batch)
        fun other hother => hbatches other (List.mem_cons_of_mem _ hother)
      exact ⟨last, hbatch.trans hlast, hover, hwalk⟩

end

end Moment

end ServiceGen.Analysis
