import Mathlib.Data.List.Permutation
import ServiceGen.Proofs.Analysis.Graph

/-!
How deep nodes stand. A node stands in the layer behind the last one that holds a dependency of it,
so that the number of its layer is the length of the longest way down from it. No count falls below
zero on the way: the layers are the same where counting a node down once too often is an error.
-/
namespace ServiceGen.Analysis

namespace Layering

open Cycle

variable {ι κ : Type} {nodes : List (Node ι κ)} {placed : List Nat}

/-! Counting with care -/

/-- Counts a node down of which something is left. -/
def countDown? (state : List Nat × List Nat) (position : Nat) : Option (List Nat × List Nat) :=
  if state.1[position]?.any (0 < ·) then some (countDown state position) else none

/-- Counts down whatever requires a node of the layer, unless a count would fall below zero. -/
def release? (nodes : List (Node ι κ)) (counts layer : List Nat) :
    Option (List Nat × List Nat) :=
  ((layer.flatMap (dependents nodes)).foldlM countDown? (counts, [])).map
    fun (counts, next) => (counts, next.mergeSort)

/-- The layers from the given one on, unless a count would fall below zero. -/
def layersFrom? (nodes : List (Node ι κ)) :
    Nat → List Nat → List Nat → Option (List (List Nat))
  | 0, _, _ => some []
  | fuel + 1, counts, layer =>
    if layer.isEmpty then some []
    else do
      let (counts, next) ← release? nodes counts layer
      let rest ← layersFrom? nodes fuel counts next
      some (layer :: rest)

/-- The layers of nodes, unless a count would fall below zero. -/
def layers? (nodes : List (Node ι κ)) : Option (List (List Nat)) :=
  let counts := nodes.map (·.deps.length)
  let first := (List.range nodes.length).filter fun position => counts[position]? = some 0
  layersFrom? nodes nodes.length counts first

/-- Nodes are counted down one after the other if none of them is counted too often. -/
theorem foldlM_countDown? (counted counts next : List Nat)
    (henough : ∀ node ∈ counted, ∃ count, counts[node]? = some count ∧ counted.count node ≤ count) :
    counted.foldlM countDown? (counts, next) = some (counted.foldl countDown (counts, next)) := by
  induction counted generalizing counts next with
  | nil => rfl
  | cons first rest ih =>
    obtain ⟨count, hcount, hle⟩ := henough first List.mem_cons_self
    rw [List.count_cons_self] at hle
    have hfirst : countDown? (counts, next) first = some (countDown (counts, next) first) :=
      if_pos (by simpa [hcount] using Nat.lt_of_lt_of_le (Nat.succ_pos _) hle)
    rw [List.foldlM_cons, hfirst, List.foldl_cons]
    refine ih _ _ fun node hnode => ?_
    obtain ⟨found, hfound, hfoundle⟩ := henough node (List.mem_cons_of_mem _ hnode)
    have hdown := getElem?_countDown counts next first node
    by_cases hsame : first = node
    · subst hsame
      rw [if_pos rfl, hcount, Option.map_some] at hdown
      exact ⟨count - 1, hdown, by omega⟩
    · rw [List.count_cons_of_ne hsame] at hfoundle
      rw [if_neg hsame, hfound] at hdown
      exact ⟨found, hdown, hfoundle⟩

theorem release?_due (hproper : Proper nodes) {counts : List Nat}
    (hcounted : Counted nodes placed counts) :
    release? nodes counts (due nodes placed) = some (release nodes counts (due nodes placed)) := by
  rw [release?, foldlM_countDown? _ _ _ (count_le_of_counted hproper hcounted), Option.map_some,
    release_eq]

theorem layersFrom?_due (hproper : Proper nodes) (fuel : Nat) {counts : List Nat}
    (hcounted : Counted nodes placed counts) (hclosed : Closed nodes placed) :
    layersFrom? nodes fuel counts (due nodes placed) =
      some (layersFrom nodes fuel counts (due nodes placed)) := by
  induction fuel generalizing placed counts with
  | zero => rfl
  | succ fuel ih =>
    obtain ⟨hcounted', hnext⟩ := release_due hproper hcounted hclosed
    have hrest := ih hcounted' hclosed.append_due
    rw [← hnext] at hrest
    rw [layersFrom?, layersFrom_succ, release?_due hproper hcounted]
    split
    · rfl
    · simp only [Option.bind_eq_bind, Option.bind_some, hrest]

/-- No count falls below zero while nodes are layered. -/
theorem layers?_eq (hproper : Proper nodes) : layers? nodes = some (layers nodes) := by
  rw [layers?, layers, first_eq_due]
  exact layersFrom?_due hproper _ counted_start (by simp [Closed])

/-! Where nodes stand -/

variable {layers : List (List Nat)}

/-- Whether a node stands in the layer of a number. -/
def Stands (layers : List (List Nat)) (node level : Nat) : Prop :=
  ∃ layer, layers[level]? = some layer ∧ node ∈ layer

theorem exists_stands {node : Nat} (hnode : node ∈ layers.flatten) :
    ∃ level, Stands layers node level := by
  obtain ⟨layer, hlayer, hmem⟩ := List.mem_flatten.mp hnode
  obtain ⟨level, hlevel⟩ := List.mem_iff_getElem?.mp hlayer
  exact ⟨level, layer, hlevel, hmem⟩

/-- What stands before a layer. -/
theorem mem_take_iff {node level : Nat} :
    node ∈ (layers.take level).flatten ↔ ∃ lower < level, Stands layers node lower := by
  simp only [List.mem_flatten, List.mem_take_iff_getElem, Stands]
  constructor
  · rintro ⟨layer, ⟨lower, hlower, rfl⟩, hnode⟩
    rw [Nat.lt_min] at hlower
    exact ⟨lower, hlower.1, _, List.getElem?_eq_getElem hlower.2, hnode⟩
  · rintro ⟨lower, hlower, layer, hlayer, hnode⟩
    obtain ⟨hlt, rfl⟩ := List.getElem?_eq_some_iff.mp hlayer
    exact ⟨_, ⟨lower, Nat.lt_min.mpr ⟨hlower, hlt⟩, rfl⟩, hnode⟩

namespace Stacked

/-- Every layer holds what is due once those before it have been placed. -/
theorem layer_eq (h : Stacked nodes placed layers) {level : Nat} {layer : List Nat}
    (hlayer : layers[level]? = some layer) :
    layer = due nodes (placed ++ (layers.take level).flatten) ∧ layer ≠ [] := by
  induction layers generalizing placed level with
  | nil => simp at hlayer
  | cons first rest ih =>
    obtain ⟨hfirst, hne, hrest⟩ := h
    cases level with
    | zero =>
      obtain rfl : first = layer := by simpa using hlayer
      exact ⟨by simpa using hfirst, hne⟩
    | succ level =>
      rw [List.take_succ_cons, List.flatten_cons, ← List.append_assoc]
      exact ih hrest (by simpa using hlayer)

variable {node dep level : Nat}

theorem due_of_stands (h : Stacked nodes [] layers) (hnode : Stands layers node level) :
    Due nodes (layers.take level).flatten node := by
  obtain ⟨layer, hlayer, hmem⟩ := hnode
  rw [← mem_due]
  simpa using (h.layer_eq hlayer).1 ▸ hmem

/-- A node stands in one layer only. -/
theorem stands_unique (h : Stacked nodes [] layers) {other : Nat}
    (hnode : Stands layers node level) (hother : Stands layers node other) : level = other := by
  have hle : ∀ {first second : Nat}, Stands layers node first → Stands layers node second →
      first ≤ second := by
    intro first second hfirst hsecond
    by_contra hlt
    exact (h.due_of_stands hfirst).2.1
      (mem_take_iff.mpr ⟨second, Nat.not_le.mp hlt, hsecond⟩)
  exact Nat.le_antisymm (hle hnode hother) (hle hother hnode)

/-- What a node requires stands below it. -/
theorem exists_below (h : Stacked nodes [] layers) (hnode : Stands layers node level)
    (hedge : Edge nodes node dep) : ∃ lower < level, Stands layers dep lower :=
  mem_take_iff.mp ((h.due_of_stands hnode).2.2 dep hedge)

/-- A node requires something that stands right below it, or it would stand there itself. -/
theorem exists_right_below (h : Stacked nodes [] layers)
    (hnode : Stands layers node (level + 1)) :
    ∃ dep, Edge nodes node dep ∧ Stands layers dep level := by
  have hdue := h.due_of_stands hnode
  by_contra hnone
  push Not at hnone
  -- All that the node requires would have been placed one layer earlier.
  have hearlier : ∀ dep ∈ depsOf nodes node, dep ∈ (layers.take level).flatten := by
    intro dep hdep
    obtain ⟨lower, hlower, hstands⟩ := h.exists_below hnode hdep
    refine mem_take_iff.mpr ⟨lower, ?_, hstands⟩
    exact Nat.lt_of_le_of_ne (Nat.le_of_lt_succ hlower) fun hsame =>
      hnone dep hdep (hsame ▸ hstands)
  have habsent : node ∉ (layers.take level).flatten := by
    intro hmem
    obtain ⟨lower, hlower, hstands⟩ := mem_take_iff.mp hmem
    exact hdue.2.1 (mem_take_iff.mpr ⟨lower, Nat.lt_succ_of_lt hlower, hstands⟩)
  obtain ⟨layer, hlayer, hmem⟩ := hnode
  have hlt : level < layers.length := Nat.lt_of_succ_lt (List.getElem?_eq_some_iff.mp hlayer).1
  have hlevel := List.getElem?_eq_getElem hlt
  have hearly : node ∈ layers[level] := by
    rw [(h.layer_eq hlevel).1, List.nil_append, mem_due]
    exact ⟨hdue.1, habsent, hearlier⟩
  exact Nat.succ_ne_self level
    (h.stands_unique ⟨layer, hlayer, hmem⟩ ⟨_, hlevel, hearly⟩)

/-- Whatever a node requires, directly or not, stands below it. -/
theorem exists_below_of_transGen (h : Stacked nodes [] layers)
    (hnode : Stands layers node level) (hway : Relation.TransGen (Edge nodes) node dep) :
    ∃ lower < level, Stands layers dep lower := by
  induction hway with
  | single hedge => exact h.exists_below hnode hedge
  | tail _ hedge ih =>
    obtain ⟨middle, hmiddle, hstands⟩ := ih
    obtain ⟨lower, hlower, hdep⟩ := h.exists_below hstands hedge
    exact ⟨lower, Nat.lt_trans hlower hmiddle, hdep⟩

theorem not_transGen (h : Stacked nodes [] layers) (hnode : Stands layers node level)
    (hdep : Stands layers dep level) : ¬ Relation.TransGen (Edge nodes) node dep := by
  intro hway
  obtain ⟨lower, hlower, hstands⟩ := h.exists_below_of_transGen hnode hway
  exact Nat.ne_of_lt hlower (h.stands_unique hstands hdep)

end Stacked

/-- A way down from a node, along as many dependencies as the number says. -/
inductive Descends (nodes : List (Node ι κ)) : Nat → Nat → Prop
  | stay (node : Nat) : Descends nodes node 0
  | down {node dep length : Nat} (hedge : Edge nodes node dep)
      (hrest : Descends nodes dep length) : Descends nodes node (length + 1)

/-- The number of the layer of a node is the length of the longest way down from it. -/
theorem Stacked.descends_iff (h : Stacked nodes [] layers) {node level : Nat}
    (hnode : Stands layers node level) (length : Nat) :
    Descends nodes node length ↔ length ≤ level := by
  constructor
  · intro hway
    induction hway generalizing level with
    | stay node => exact Nat.zero_le _
    | down hedge _ ih =>
      obtain ⟨lower, hlower, hdep⟩ := h.exists_below hnode hedge
      exact Nat.succ_le_of_lt (Nat.lt_of_le_of_lt (ih hdep) hlower)
  · intro hle
    induction length generalizing node level with
    | zero => exact .stay node
    | succ length ih =>
      obtain ⟨below, rfl⟩ : ∃ below, level = below + 1 := ⟨level - 1, by omega⟩
      obtain ⟨dep, hedge, hdep⟩ := h.exists_right_below hnode
      exact .down hedge (ih hdep (by omega))

end Layering

namespace Graph

open Layering Cycle

variable {ι υ ε κ : Type} {ρ : κ → Type} [DecidableEq κ] {catalog : Catalog ι υ ε ρ}

/-- The names in the layers are those of the nodes there. -/
theorem Built.levels_eq {graph : Graph ι κ} (h : Built catalog graph) :
    graph.levels.map (·.map some) =
      graph.layers.map (·.map fun node => (graph.nodes[node]?).map Node.name) := by
  rw [levels, List.map_map]
  refine List.map_congr_left fun layer hlayer => ?_
  rw [Function.comp_apply, List.map_map]
  refine List.map_congr_left fun node hnode => ?_
  exact (nameAt_eq (h.stacked.lt (List.mem_flatten.mpr ⟨layer, hlayer, hnode⟩))).symm

theorem Built.perm_flatten {graph : Graph ι κ} (h : Built catalog graph) :
    graph.layers.flatten.Perm (List.range graph.size) := by
  have hnodup : graph.layers.flatten.Nodup := by
    simpa using h.stacked.nodup List.nodup_nil
  refine (List.perm_ext_iff_of_nodup hnodup List.nodup_range).mpr fun node => ?_
  rw [List.mem_range]
  exact ⟨h.stacked.lt, h.complete node⟩

/-- The layers of a graph are those of longest ways. They divide the nodes among them, none is
empty, each is in the order in which the nodes were met, and no node requires another of its layer,
not even by way of others. A node that requires nothing stands in the first layer, and any other
right above the highest of those that it requires. To find this out no count was taken below
zero. -/
theorem layers_by_longest_way {roots : List ι} {graph : Graph ι κ}
    (hbuild : build catalog roots = .ok graph) :
    graph.levels.map (·.map some) =
      graph.layers.map (·.map fun node => (graph.nodes[node]?).map Node.name) ∧
    graph.layers.flatten.Perm (List.range graph.size) ∧
    (∀ layer ∈ graph.layers, layer ≠ [] ∧ layer.Pairwise (· < ·) ∧
      ∀ node ∈ layer, ∀ other ∈ layer,
        ¬ Relation.TransGen (Edge graph.nodes) node other) ∧
    (∀ node level, Stands graph.layers node level →
      (depsOf graph.nodes node = [] → level = 0) ∧
      (depsOf graph.nodes node ≠ [] → ∃ highest, level = highest + 1 ∧
        (∃ dep ∈ depsOf graph.nodes node, Stands graph.layers dep highest) ∧
        ∀ dep ∈ depsOf graph.nodes node, ∃ lower ≤ highest, Stands graph.layers dep lower) ∧
      ∀ length, Descends graph.nodes node length ↔ length ≤ level) ∧
    layers? graph.nodes = some graph.layers := by
  have hbuilt := built_of_build hbuild
  have hstacked := hbuilt.stacked
  refine ⟨hbuilt.levels_eq, hbuilt.perm_flatten, ?_, ?_, ?_⟩
  · intro layer hlayer
    obtain ⟨level, hlevel⟩ := List.mem_iff_getElem?.mp hlayer
    obtain ⟨hdue, hne⟩ := hstacked.layer_eq hlevel
    refine ⟨hne, hdue ▸ sortedLT_due _, fun node hnode other hother => ?_⟩
    exact hstacked.not_transGen ⟨layer, hlevel, hnode⟩ ⟨layer, hlevel, hother⟩
  · intro node level hnode
    refine ⟨fun hnone => ?_, fun hsome => ?_, hstacked.descends_iff hnode⟩
    · cases level with
      | zero => rfl
      | succ below =>
        obtain ⟨dep, hedge, -⟩ := hstacked.exists_right_below hnode
        rw [Edge, hnone] at hedge
        exact absurd hedge List.not_mem_nil
    · obtain ⟨dep, hdep⟩ := List.exists_mem_of_ne_nil _ hsome
      obtain ⟨lower, hlower, -⟩ := hstacked.exists_below hnode hdep
      obtain ⟨highest, rfl⟩ : ∃ highest, level = highest + 1 := ⟨level - 1, by omega⟩
      obtain ⟨last, hlast, hstands⟩ := hstacked.exists_right_below hnode
      refine ⟨highest, rfl, ⟨last, hlast, hstands⟩, fun dep hdep => ?_⟩
      obtain ⟨lower, hlower, hbelow⟩ := hstacked.exists_below hnode hdep
      exact ⟨lower, Nat.le_of_lt_succ hlower, hbelow⟩
  · obtain ⟨-, rfl⟩ := eq_of_build hbuild
    exact layers?_eq hbuilt.collected.proper

/-- Four analyzers, the first of which requires the last by itself and by way of the others. -/
def tower : Catalog (Fin 4) Nat String fun _ : Fin 4 => Nat where
  analyzer
    | 0 => ⟨0, "top", [1, 3], fun _ => ⟨[], .value 0⟩⟩
    | 1 => ⟨1, "middle", [2, 3], fun _ => ⟨[], .value 1⟩⟩
    | 2 => ⟨2, "low", [3], fun _ => ⟨[], .value 2⟩⟩
    | 3 => ⟨3, "base", [], fun _ => ⟨[], .value 3⟩⟩
  kinds := [0, 1, 2, 3]
  complete := by decide

def towerGraph : Graph (Fin 4) (Fin 4) :=
  ⟨[⟨0, 0, "top", [1, 2]⟩, ⟨1, 1, "middle", [3, 2]⟩, ⟨3, 3, "base", []⟩, ⟨2, 2, "low", [2]⟩],
    [[2], [3], [1], [0]]⟩

theorem build_tower : build tower [0] = .ok towerGraph := by cbv

/-- The longest way down from the top leads by all others, although the base is required at once. -/
theorem tower_by_longest_way :
    build tower [0] = .ok towerGraph ∧
      (∀ length, Descends towerGraph.nodes 0 length ↔ length ≤ 3) ∧
      layers? towerGraph.nodes = some [[2], [3], [1], [0]] := by
  have h := layers_by_longest_way build_tower
  exact ⟨build_tower, (h.2.2.2.1 0 3 ⟨[0], rfl, by simp⟩).2.2, h.2.2.2.2⟩

end Graph

end ServiceGen.Analysis
