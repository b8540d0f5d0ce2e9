import Mathlib.Data.List.Perm.Basic
import Mathlib.Data.List.Nodup
import Mathlib.Data.List.Range
import Mathlib.Data.List.Sort
import ServiceGen.Analysis.Layering
import ServiceGen.Proofs.Analysis.Cycle

/-!
Layers as what can run. The counts say how many dependencies of each node are still missing, so
that the next layer holds exactly the nodes whose dependencies have all been placed. Where the nodes
can be ordered, every node is placed once, and its dependencies stand in earlier layers.
-/
namespace ServiceGen.Analysis.Layering

open Cycle

variable {ι κ : Type} {nodes : List (Node ι κ)}

/-- Every node lists dependencies among the nodes, and none twice. -/
structure Proper (nodes : List (Node ι κ)) : Prop where
  inRange : ∀ node dep, Edge nodes node dep → dep < nodes.length
  distinct : ∀ node, (depsOf nodes node).Nodup

/-- A node that was not placed, though all its dependencies were. -/
def Due (nodes : List (Node ι κ)) (placed : List Nat) (node : Nat) : Prop :=
  node < nodes.length ∧ node ∉ placed ∧ ∀ dep ∈ depsOf nodes node, dep ∈ placed

def due (nodes : List (Node ι κ)) (placed : List Nat) : List Nat :=
  (List.range nodes.length).filter fun node =>
    node ∉ placed ∧ ∀ dep ∈ depsOf nodes node, dep ∈ placed

theorem mem_due (placed : List Nat) (node : Nat) :
    node ∈ due nodes placed ↔ Due nodes placed node := by
  simp [due, Due]

theorem nodup_due (placed : List Nat) : (due nodes placed).Nodup :=
  List.nodup_range.filter _

theorem sortedLT_due (placed : List Nat) : (due nodes placed).Pairwise (· < ·) :=
  List.pairwise_lt_range.filter _

/-- Nodes in ascending order are the ones that are due if they are so one by one. -/
theorem eq_due {placed layer : List Nat} (hsorted : layer.Pairwise (· < ·))
    (hmem : ∀ node, node ∈ layer ↔ Due nodes placed node) : layer = due nodes placed := by
  have hnodup : layer.Nodup := hsorted.imp fun hlt => Nat.ne_of_lt hlt
  have hperm : layer.Perm (due nodes placed) :=
    (List.perm_ext_iff_of_nodup hnodup (nodup_due placed)).mpr fun node => by
      rw [hmem, mem_due]
  apply hperm.eq_of_pairwise _ hsorted (sortedLT_due placed)
  intro first second _ _ hlt hgt
  exact absurd hlt (Nat.lt_asymm hgt)

/-- The number of dependencies that were not placed. -/
def missing (nodes : List (Node ι κ)) (placed : List Nat) (node : Nat) : Nat :=
  ((depsOf nodes node).filter (· ∉ placed)).length

theorem missing_eq_zero_iff (placed : List Nat) (node : Nat) :
    missing nodes placed node = 0 ↔ ∀ dep ∈ depsOf nodes node, dep ∈ placed := by
  simp [missing, List.filter_eq_nil_iff]

/-- How often a node is counted down for a layer: once for each dependency in the layer. -/
theorem count_dependents (hproper : Proper nodes) {layer : List Nat} (hlayer : layer.Nodup)
    (node : Nat) :
    (layer.flatMap (dependents nodes)).count node =
      ((depsOf nodes node).filter (· ∈ layer)).length := by
  have hone : ∀ dep, (dependents nodes dep).count node =
      if dep ∈ depsOf nodes node then 1 else 0 := by
    intro dep
    have hnodup : (dependents nodes dep).Nodup := List.nodup_range.filter _
    rw [hnodup.count]
    apply if_congr _ rfl rfl
    simp only [dependents, List.mem_filter, List.mem_range, List.contains_iff_mem]
    exact ⟨fun h => h.2, fun h => ⟨lt_of_edge h, h⟩⟩
  have hsum : (layer.flatMap (dependents nodes)).count node =
      (layer.filter (· ∈ depsOf nodes node)).length := by
    clear hlayer
    induction layer with
    | nil => rfl
    | cons dep rest ih =>
      rw [List.flatMap_cons, List.count_append, ih, hone]
      by_cases hdep : dep ∈ depsOf nodes node
      · simp [hdep, Nat.add_comm]
      · simp [hdep]
  rw [hsum]
  apply List.Perm.length_eq
  apply (List.perm_ext_iff_of_nodup (hlayer.filter _) ((hproper.distinct node).filter _)).mpr
  intro dep
  simp [and_comm]

/-- Placing a layer leaves fewer dependencies missing by those that are in the layer. -/
theorem missing_append {placed layer : List Nat} (hnew : ∀ node ∈ layer, node ∉ placed)
    (node : Nat) :
    missing nodes (placed ++ layer) node + ((depsOf nodes node).filter (· ∈ layer)).length =
      missing nodes placed node := by
  unfold missing
  induction depsOf nodes node with
  | nil => rfl
  | cons dep rest ih =>
    by_cases hlayer : dep ∈ layer
    · have hplaced := hnew dep hlayer
      simp only [List.mem_append, hlayer, hplaced, or_true, not_true_eq_false, decide_false,
        not_false_eq_true, decide_true, List.filter_cons_of_pos, Bool.false_eq_true,
        List.filter_cons_of_neg, List.length_cons]
      simp only [List.mem_append] at ih
      omega
    · by_cases hplaced : dep ∈ placed
      · simpa [hlayer, hplaced] using ih
      · simp only [List.mem_append, hlayer, hplaced, or_false, not_false_eq_true, decide_true,
          List.filter_cons_of_pos, decide_false, Bool.false_eq_true,
          List.filter_cons_of_neg, List.length_cons]
        simp only [List.mem_append] at ih
        omega

theorem getElem?_countDown (counts next : List Nat) (first node : Nat) :
    (countDown (counts, next) first).1[node]? =
      if first = node then counts[node]?.map (· - 1) else counts[node]? := by
  change (counts.modify first (· - 1))[node]? = _
  rw [List.getElem?_modify]
  by_cases hfirst : first = node
  · simp only [hfirst, if_true]
    rfl
  · simp [hfirst]

theorem getElem?_foldl_countDown (counted counts next : List Nat) (node : Nat) :
    (counted.foldl countDown (counts, next)).1[node]? =
      counts[node]?.map (· - counted.count node) := by
  induction counted generalizing counts next with
  | nil => simp
  | cons first rest ih =>
    rw [List.foldl_cons, ih, getElem?_countDown]
    by_cases hfirst : first = node
    · subst hfirst
      rw [if_pos rfl, List.count_cons_self, Option.map_map]
      congr 1
      funext count
      exact (Nat.sub_sub ..).trans (by rw [Nat.add_comm])
    · rw [if_neg hfirst, List.count_cons_of_ne hfirst]

theorem countDown_next {counts : List Nat} {first count : Nat} (next : List Nat)
    (hcount : counts[first]? = some (count + 1)) :
    (countDown (counts, next) first).2 = if count = 0 then next ++ [first] else next := by
  have hdown : (counts.modify first (· - 1))[first]? = some count := by
    have h := getElem?_countDown counts next first first
    rw [if_pos rfl, hcount] at h
    exact h
  rw [countDown]
  simp only [hdown, Option.some.injEq]

/-- The nodes that join the next layer while others are counted down are those of which nothing
is left. -/
theorem foldl_countDown_next (counted counts next : List Nat)
    (henough : ∀ node ∈ counted, ∃ count, counts[node]? = some count ∧ counted.count node ≤ count) :
    ∃ ready, (counted.foldl countDown (counts, next)).2 = next ++ ready ∧ ready.Nodup ∧
      ∀ node, node ∈ ready ↔ node ∈ counted ∧ counts[node]? = some (counted.count node) := by
  induction counted generalizing counts next with
  | nil => exact ⟨[], by simp, List.nodup_nil, by simp⟩
  | cons first rest ih =>
    obtain ⟨count, hcount, hle⟩ := henough first (List.mem_cons_self ..)
    rw [List.count_cons_self] at hle
    obtain ⟨count, rfl⟩ : ∃ more, count = more + 1 := ⟨count - 1, by omega⟩
    have hother : ∀ node, first ≠ node →
        (countDown (counts, next) first).1[node]? = counts[node]? := fun node hne => by
      rw [getElem?_countDown, if_neg hne]
    have hself : (countDown (counts, next) first).1[first]? = some count := by
      rw [getElem?_countDown, if_pos rfl, hcount]
      rfl
    obtain ⟨ready, hready, hnodup, hmem⟩ :=
      ih (countDown (counts, next) first).1 (countDown (counts, next) first).2 (by
        intro node hnode
        by_cases hne : first = node
        · subst hne
          exact ⟨count, hself, by omega⟩
        · obtain ⟨found, hfound, hfoundle⟩ := henough node (List.mem_cons_of_mem _ hnode)
          rw [List.count_cons_of_ne hne] at hfoundle
          exact ⟨found, (hother node hne).trans hfound, hfoundle⟩)
    have hlater : ∀ node, first ≠ node → (node ∈ ready ↔
        node ∈ first :: rest ∧ counts[node]? = some ((first :: rest).count node)) := by
      intro node hne
      rw [hmem, hother node hne, List.count_cons_of_ne hne, List.mem_cons]
      simp [Ne.symm hne]
    rw [countDown_next next hcount] at hready
    rw [List.foldl_cons, ← Prod.eta (countDown (counts, next) first), countDown_next next hcount,
      hready]
    by_cases hzero : count = 0
    · -- Nothing is left of it: it joins here, and is not counted again.
      have habsent : first ∉ rest := List.count_eq_zero.mp (by omega)
      rw [if_pos hzero]
      refine ⟨first :: ready, by simp, ?_, ?_⟩
      · exact List.nodup_cons.mpr ⟨fun hfirst => habsent ((hmem first).mp hfirst).1, hnodup⟩
      · intro node
        by_cases hne : first = node
        · subst hne
          simp [hcount, hzero, List.count_eq_zero.mpr habsent]
        · rw [List.mem_cons, ← hlater node hne]
          simp [Ne.symm hne]
    · rw [if_neg hzero]
      refine ⟨ready, rfl, hnodup, ?_⟩
      intro node
      by_cases hne : first = node
      · subst hne
        rw [hmem, hself, hcount, List.count_cons_self, Option.some.injEq, Option.some.injEq,
          Nat.add_right_cancel_iff]
        constructor
        · exact fun h => ⟨List.mem_cons_self .., h.2⟩
        · rintro ⟨-, hall⟩
          exact ⟨List.count_pos_iff.mp (by omega), hall⟩
      · exact hlater node hne

theorem sortedLT_mergeSort {layer : List Nat} (hnodup : layer.Nodup) :
    layer.mergeSort.Pairwise (· < ·) := by
  have hsorted : layer.mergeSort.Pairwise fun first second => decide (first ≤ second) = true :=
    List.pairwise_mergeSort (fun first second third hle hle' => by
      simp only [decide_eq_true_eq] at hle hle' ⊢
      exact Nat.le_trans hle hle')
      (fun first second => by simpa using Nat.le_total first second) layer
  have hdistinct : layer.mergeSort.Nodup := (List.mergeSort_perm layer _).nodup_iff.mpr hnodup
  exact (hsorted.and hdistinct).imp fun h => Nat.lt_of_le_of_ne (of_decide_eq_true h.1) h.2

/-- The counts say how much of each node is missing. -/
def Counted (nodes : List (Node ι κ)) (placed counts : List Nat) : Prop :=
  ∀ node, counts[node]? = if node < nodes.length then some (missing nodes placed node) else none

def Closed (nodes : List (Node ι κ)) (placed : List Nat) : Prop :=
  ∀ node ∈ placed, ∀ dep ∈ depsOf nodes node, dep ∈ placed

theorem Closed.append_due {placed : List Nat} (h : Closed nodes placed) :
    Closed nodes (placed ++ due nodes placed) := by
  intro node hnode dep hdep
  apply List.mem_append_left
  rcases List.mem_append.mp hnode with hplaced | hdue
  · exact h node hplaced dep hdep
  · exact ((mem_due placed node).mp hdue).2.2 dep hdep

theorem release_eq (counts layer : List Nat) :
    release nodes counts layer =
      (((layer.flatMap (dependents nodes)).foldl countDown (counts, [])).1,
        ((layer.flatMap (dependents nodes)).foldl countDown (counts, [])).2.mergeSort) := rfl

/-- No node is counted down more often than its count says, for it misses each dependency of the
layer. -/
theorem count_le_of_counted (hproper : Proper nodes) {placed counts : List Nat}
    (hcounted : Counted nodes placed counts) :
    ∀ node ∈ (due nodes placed).flatMap (dependents nodes), ∃ count, counts[node]? = some count ∧
      ((due nodes placed).flatMap (dependents nodes)).count node ≤ count := by
  intro node hnode
  obtain ⟨dep, -, hdep⟩ := List.mem_flatMap.mp hnode
  have hlt : node < nodes.length := List.mem_range.mp (List.mem_filter.mp hdep).1
  have hmissing := @missing_append ι κ nodes placed (due nodes placed)
    (fun node hnode => ((mem_due placed node).mp hnode).2.1) node
  refine ⟨missing nodes placed node, by rw [hcounted, if_pos hlt], ?_⟩
  rw [count_dependents hproper (nodup_due placed)]
  omega

/-- What is released by the nodes that were due is due once they have been placed. -/
theorem release_due (hproper : Proper nodes) {placed counts : List Nat}
    (hcounted : Counted nodes placed counts) (hclosed : Closed nodes placed) :
    Counted nodes (placed ++ due nodes placed) (release nodes counts (due nodes placed)).1 ∧
      (release nodes counts (due nodes placed)).2 = due nodes (placed ++ due nodes placed) := by
  have hnew : ∀ node ∈ due nodes placed, node ∉ placed := fun node hnode =>
    ((mem_due placed node).mp hnode).2.1
  have hdistinct : (due nodes placed).Nodup := nodup_due placed
  have hcount := count_dependents hproper hdistinct
  have hmissing : ∀ node, missing nodes (placed ++ due nodes placed) node +
      ((depsOf nodes node).filter (· ∈ due nodes placed)).length = missing nodes placed node :=
    missing_append hnew
  have hlt : ∀ node ∈ (due nodes placed).flatMap (dependents nodes), node < nodes.length := by
    intro node hnode
    obtain ⟨dep, -, hdep⟩ := List.mem_flatMap.mp hnode
    exact List.mem_range.mp (List.mem_filter.mp hdep).1
  obtain ⟨ready, hready, hnodup, hmem⟩ :=
    foldl_countDown_next ((due nodes placed).flatMap (dependents nodes)) counts []
      (count_le_of_counted hproper hcounted)
  refine ⟨?_, ?_⟩
  · intro node
    rw [release_eq, getElem?_foldl_countDown, hcounted, hcount]
    by_cases hnode : node < nodes.length
    · rw [if_pos hnode, if_pos hnode, Option.map_some, ← hmissing node, Nat.add_sub_cancel]
    · rw [if_neg hnode, if_neg hnode, Option.map_none]
  · rw [release_eq, hready, List.nil_append]
    apply eq_due
    · exact sortedLT_mergeSort hnodup
    · intro node
      rw [(List.mergeSort_perm ready _).mem_iff, hmem]
      constructor
      · rintro ⟨hnode, hall⟩
        rw [hcounted, if_pos (hlt node hnode), Option.some.injEq, hcount] at hall
        have hzero : missing nodes (placed ++ due nodes placed) node = 0 := by
          have := hmissing node
          omega
        refine ⟨hlt node hnode, ?_, (missing_eq_zero_iff _ _).mp hzero⟩
        intro hplaced
        have hearlier : missing nodes placed node = 0 := by
          rw [missing_eq_zero_iff]
          rcases List.mem_append.mp hplaced with hplaced | hdue
          · exact hclosed node hplaced
          · exact ((mem_due placed node).mp hdue).2.2
        have hpos := List.count_pos_iff.mpr hnode
        rw [hcount] at hpos
        omega
      · rintro ⟨hnode, hplaced, hdeps⟩
        have hzero : missing nodes (placed ++ due nodes placed) node = 0 :=
          (missing_eq_zero_iff _ node).mpr hdeps
        have hall := hmissing node
        rw [hzero, Nat.zero_add] at hall
        rw [List.mem_append, not_or] at hplaced
        have hearlier : missing nodes placed node ≠ 0 := by
          intro hearlier
          exact hplaced.2 ((mem_due placed node).mpr
            ⟨hnode, hplaced.1, (missing_eq_zero_iff _ _).mp hearlier⟩)
        refine ⟨List.count_pos_iff.mp ?_, ?_⟩
        · rw [hcount]
          omega
        · rw [hcounted, if_pos hnode, hcount, hall]

/-- Layers that hold, one after the other, exactly what is due, until nothing is. -/
def Stacked (nodes : List (Node ι κ)) : List Nat → List (List Nat) → Prop
  | placed, [] => due nodes placed = []
  | placed, layer :: rest =>
    layer = due nodes placed ∧ layer ≠ [] ∧ Stacked nodes (placed ++ layer) rest

theorem nodup_append_due {placed : List Nat} (hplaced : placed.Nodup) :
    (placed ++ due nodes placed).Nodup := by
  rw [List.nodup_append]
  refine ⟨hplaced, nodup_due placed, ?_⟩
  rintro node hnode other hother rfl
  exact ((mem_due placed node).mp hother).2.1 hnode

theorem lt_of_mem_append_due {placed : List Nat} (hplaced : ∀ node ∈ placed, node < nodes.length) :
    ∀ node ∈ placed ++ due nodes placed, node < nodes.length := by
  intro node hnode
  rcases List.mem_append.mp hnode with hnode | hnode
  · exact hplaced node hnode
  · exact ((mem_due placed node).mp hnode).1

theorem length_le_of_lt {placed : List Nat} {bound : Nat} (hplaced : placed.Nodup)
    (hlt : ∀ node ∈ placed, node < bound) : placed.length ≤ bound := by
  have hsubset : placed.Subperm (List.range bound) :=
    List.subperm_of_subset hplaced fun node hnode => List.mem_range.mpr (hlt node hnode)
  simpa using hsubset.length_le

theorem due_eq_nil {placed : List Nat} (hplaced : placed.Nodup)
    (hlt : ∀ node ∈ placed, node < nodes.length) (hall : nodes.length ≤ placed.length) :
    due nodes placed = [] := by
  have hle := length_le_of_lt (nodup_append_due hplaced) (lt_of_mem_append_due hlt)
  rw [List.length_append] at hle
  exact List.length_eq_zero_iff.mp (by omega)

theorem layersFrom_succ (fuel : Nat) (counts layer : List Nat) :
    layersFrom nodes (fuel + 1) counts layer =
      if layer.isEmpty then []
      else layer :: layersFrom nodes fuel (release nodes counts layer).1
        (release nodes counts layer).2 := rfl

/-- The fuel suffices, for every layer places a node. -/
theorem stacked_layersFrom (hproper : Proper nodes) (fuel : Nat) {placed counts : List Nat}
    (hcounted : Counted nodes placed counts) (hclosed : Closed nodes placed)
    (hplaced : placed.Nodup) (hlt : ∀ node ∈ placed, node < nodes.length)
    (hfuel : nodes.length ≤ fuel + placed.length) :
    Stacked nodes placed (layersFrom nodes fuel counts (due nodes placed)) := by
  induction fuel generalizing placed counts with
  | zero => exact due_eq_nil hplaced hlt (by omega)
  | succ fuel ih =>
    rw [layersFrom_succ]
    by_cases hempty : due nodes placed = []
    · rw [if_pos (by simpa using hempty)]
      exact hempty
    · rw [if_neg (by simpa using hempty)]
      obtain ⟨hcounted', hnext⟩ := release_due hproper hcounted hclosed
      have hpos := List.length_pos_iff.mpr hempty
      refine ⟨rfl, hempty, ?_⟩
      rw [hnext]
      apply ih hcounted' hclosed.append_due (nodup_append_due hplaced) (lt_of_mem_append_due hlt)
      rw [List.length_append]
      omega

/-- Before anything is placed, the counts are the numbers of dependencies. -/
theorem counted_start : Counted nodes [] (nodes.map (·.deps.length)) := by
  intro node
  rw [List.getElem?_map]
  by_cases hnode : node < nodes.length
  · rw [if_pos hnode, List.getElem?_eq_getElem hnode]
    simp [missing, depsOf, List.getElem?_eq_getElem hnode]
  · rw [if_neg hnode, List.getElem?_eq_none (by omega), Option.map_none]

theorem first_eq_due :
    (List.range nodes.length).filter (fun node => (nodes.map (·.deps.length))[node]? = some 0) =
      due nodes [] := by
  apply List.filter_congr
  intro node hnode
  apply decide_eq_decide.mpr
  rw [counted_start, if_pos (List.mem_range.mp hnode), Option.some.injEq, missing_eq_zero_iff]
  simp

theorem stacked_layers (hproper : Proper nodes) : Stacked nodes [] (layers nodes) := by
  have hstacked := stacked_layersFrom hproper nodes.length counted_start (by simp [Closed])
    List.nodup_nil (by simp) (by simp)
  rw [← first_eq_due] at hstacked
  exact hstacked

namespace Stacked

variable {placed : List Nat} {layers : List (List Nat)}

theorem nodup (h : Stacked nodes placed layers) (hplaced : placed.Nodup) :
    (placed ++ layers.flatten).Nodup := by
  induction layers generalizing placed with
  | nil => simpa using hplaced
  | cons layer rest ih =>
    obtain ⟨rfl, -, hrest⟩ := h
    rw [List.flatten_cons, ← List.append_assoc]
    exact ih hrest (nodup_append_due hplaced)

theorem lt (h : Stacked nodes placed layers) {node : Nat} (hnode : node ∈ layers.flatten) :
    node < nodes.length := by
  induction layers generalizing placed with
  | nil => simp at hnode
  | cons layer rest ih =>
    obtain ⟨rfl, -, hrest⟩ := h
    rcases List.mem_append.mp (List.flatten_cons ▸ hnode) with hnode | hnode
    · exact ((mem_due placed node).mp hnode).1
    · exact ih hrest hnode

/-- What a node requires was placed before its layer. -/
theorem mem_of_dep (h : Stacked nodes placed layers) {before after : List (List Nat)}
    {layer : List Nat} (hlayers : layers = before ++ layer :: after) {node dep : Nat}
    (hnode : node ∈ layer) (hdep : Edge nodes node dep) : dep ∈ placed ++ before.flatten := by
  induction before generalizing placed layers with
  | nil =>
    subst hlayers
    obtain ⟨rfl, -, -⟩ := h
    simpa using ((mem_due placed node).mp hnode).2.2 dep hdep
  | cons first rest ih =>
    subst hlayers
    have hmem := ih h.2.2 rfl
    rwa [List.flatten_cons, ← List.append_assoc]

/-- Where nothing is due any more, whatever can be ordered has been placed. -/
theorem mem_of_ordered (h : Stacked nodes placed layers) (hproper : Proper nodes)
    {order : List Nat} (hordered : Ordered nodes order) {node : Nat} (hnode : node ∈ order)
    (hlt : node < nodes.length) : node ∈ placed ++ layers.flatten := by
  induction layers generalizing placed with
  | cons layer rest ih =>
    rw [List.flatten_cons, ← List.append_assoc]
    exact ih h.2.2
  | nil =>
    rw [List.flatten_nil, List.append_nil]
    induction order generalizing node with
    | nil => simp at hnode
    | cons first rest ih =>
      rcases List.mem_cons.mp hnode with rfl | hnode
      · by_contra habsent
        have hdue : node ∈ due nodes placed :=
          (mem_due placed node).mpr ⟨hlt, habsent, fun dep hdep =>
            ih hordered.2 (hordered.1 dep hdep) (hproper.inRange node dep hdep)⟩
        rw [show due nodes placed = [] from h] at hdue
        exact absurd hdue List.not_mem_nil
      · exact ih hordered.2 hnode hlt

end Stacked

end ServiceGen.Analysis.Layering
