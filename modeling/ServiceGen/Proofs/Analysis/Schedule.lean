import ServiceGen.Analysis.Walk
import ServiceGen.Proofs.Analysis.Graph

/-!
The batches of a graph. However many analyzers may run at the same time, the batches hold every node
once and in the same order, and what a node of a batch depends on stands in earlier batches.
-/
namespace ServiceGen.Analysis

variable {ι υ ε κ : Type} {ρ : κ → Type}

namespace Walk

theorem flatten_pieces {α : Type} (length : Nat) (hpos : 0 < length) (list : List α) :
    (pieces length hpos list).flatten = list := by
  fun_induction pieces length hpos list with
  | case1 => rfl
  | case2 first rest ih => rw [List.flatten_cons, ih, List.take_append_drop]

theorem length_of_mem_pieces {α : Type} {length : Nat} (hpos : 0 < length) {list piece : List α}
    (hpiece : piece ∈ pieces length hpos list) : 0 < piece.length ∧ piece.length ≤ length := by
  fun_induction pieces length hpos list with
  | case1 => simp at hpiece
  | case2 first rest ih =>
    rcases List.mem_cons.mp hpiece with rfl | hpiece
    · rw [List.length_take, List.length_cons]
      omega
    · exact ih hpiece

def nodesAt (nodes : List (Node ι κ)) (positions : List Nat) : List (Node ι κ) :=
  positions.filterMap (nodes[·]?)

theorem nodesAt_range (nodes : List (Node ι κ)) :
    nodesAt nodes (List.range nodes.length) = nodes := by
  induction nodes with
  | nil => rfl
  | cons first rest ih =>
    have hfirst : (first :: rest)[0]? = some first := rfl
    rw [List.length_cons, List.range_succ_eq_map, nodesAt, List.filterMap_cons, hfirst,
      List.filterMap_map]
    exact congrArg (first :: ·) ih

/-- What a node depends on is among other nodes. -/
def Ready (nodes done : List (Node ι κ)) (node : Node ι κ) : Prop :=
  ∀ dep ∈ node.deps, ∃ required ∈ done, nodes[dep]? = some required

theorem Ready.append {nodes done : List (Node ι κ)} {node : Node ι κ} (h : Ready nodes done node)
    (more : List (Node ι κ)) : Ready nodes (done ++ more) node := by
  intro dep hdep
  obtain ⟨required, hrequired, hnode⟩ := h dep hdep
  exact ⟨required, List.mem_append_left _ hrequired, hnode⟩

theorem Ready.mem_kinds {nodes done : List (Node ι κ)} {node : Node ι κ} (h : Ready nodes done node)
    {kind : κ} (hkind : kind ∈ required nodes node) : kind ∈ done.map Node.kind := by
  obtain ⟨found, hfound, rfl⟩ := List.mem_map.mp hkind
  obtain ⟨dep, hdep, hnode⟩ := List.mem_filterMap.mp hfound
  obtain ⟨other, hother, hnode'⟩ := h dep hdep
  rw [hnode] at hnode'
  rw [Option.some.inj hnode']
  exact List.mem_map_of_mem hother

/-- The nodes of each batch depend on what is done before it. -/
def Staged (nodes : List (Node ι κ)) : List (Node ι κ) → List (List (Node ι κ)) → Prop
  | _, [] => True
  | done, batch :: rest =>
    (∀ node ∈ batch, Ready nodes done node) ∧ Staged nodes (done ++ batch) rest

theorem staged_append {nodes done : List (Node ι κ)} {first second : List (List (Node ι κ))} :
    Staged nodes done (first ++ second) ↔
      Staged nodes done first ∧ Staged nodes (done ++ first.flatten) second := by
  induction first generalizing done with
  | nil => simp [Staged]
  | cons batch rest ih =>
    rw [List.cons_append, Staged, Staged, ih, List.flatten_cons, ← List.append_assoc, and_assoc]

theorem staged_pieces {nodes done : List (Node ι κ)} (length : Nat) (hpos : 0 < length)
    {list : List (Node ι κ)} (hready : ∀ node ∈ list, Ready nodes done node) :
    Staged nodes done (pieces length hpos list) := by
  fun_induction pieces length hpos list generalizing done with
  | case1 => trivial
  | case2 first rest ih =>
    refine ⟨fun node hnode => hready node (List.mem_of_mem_take hnode), ih ?_⟩
    intro node hnode
    exact (hready node (List.mem_of_mem_drop hnode)).append _

/-- A layer is due as soon as what is placed is done, also in pieces. -/
theorem staged_of_stacked {nodes : List (Node ι κ)} {placed : List Nat} {layers : List (List Nat)}
    (length : Nat) (hpos : 0 < length) (hproper : Layering.Proper nodes)
    (h : Layering.Stacked nodes placed layers) :
    Staged nodes (nodesAt nodes placed)
      ((layers.map (nodesAt nodes)).flatMap (pieces length hpos)) := by
  induction layers generalizing placed with
  | nil => trivial
  | cons layer rest ih =>
    obtain ⟨rfl, -, hrest⟩ := h
    rw [List.map_cons, List.flatMap_cons, staged_append, flatten_pieces]
    refine ⟨staged_pieces length hpos ?_, ?_⟩
    · intro node hnode dep hdep
      obtain ⟨position, hposition, hsome⟩ := List.mem_filterMap.mp hnode
      have hedge : Cycle.Edge nodes position dep := by
        rw [Cycle.Edge, Cycle.depsOf_of_getElem? hsome]
        exact hdep
      have hplaced := ((Layering.mem_due placed position).mp hposition).2.2 dep hedge
      have hlt := hproper.inRange position dep hedge
      exact ⟨nodes[dep], List.mem_filterMap.mpr ⟨dep, hplaced, List.getElem?_eq_getElem hlt⟩,
        List.getElem?_eq_getElem hlt⟩
    · rw [nodesAt, nodesAt, ← List.filterMap_append]
      exact ih hrest

/-- The nodes of a graph, layer by layer. -/
def order (graph : Graph ι κ) : List (Node ι κ) := nodesAt graph.nodes graph.layers.flatten

/-- All batches together are the nodes layer by layer, however they are cut. -/
theorem flatten_batches (graph : Graph ι κ) (options : WalkOptions) :
    (batches graph options).flatten = order graph := by
  have hpieces : ∀ layers : List (List (Node ι κ)),
      (layers.flatMap (pieces (max 1 options.parallelism) (by omega))).flatten =
        layers.flatten := by
    intro layers
    induction layers with
    | nil => rfl
    | cons layer rest ih =>
      rw [List.flatMap_cons, List.flatten_append, flatten_pieces, ih, List.flatten_cons]
  have hlayers : ∀ layers : List (List Nat),
      (layers.map (nodesAt graph.nodes)).flatten = nodesAt graph.nodes layers.flatten := by
    intro layers
    induction layers with
    | nil => rfl
    | cons layer rest ih =>
      rw [List.map_cons, List.flatten_cons, ih, List.flatten_cons, nodesAt, nodesAt, nodesAt,
        List.filterMap_append]
  exact (hpieces _).trans (hlayers _)

end Walk

/-- What holds of the batches of a graph. -/
structure Scheduled (graph : Graph ι κ) (bound : Nat) (batches : List (List (Node ι κ))) :
    Prop where
  inOrder : batches.flatten = Walk.order graph
  staged : Walk.Staged graph.nodes [] batches
  bounded : ∀ batch ∈ batches, 0 < batch.length ∧ batch.length ≤ bound

namespace Graph.Built

variable [DecidableEq κ] {catalog : Catalog ι υ ε ρ} {graph : Graph ι κ}

/-- Every node stands in exactly one layer. -/
theorem perm_order (h : Built catalog graph) : (Walk.order graph).Perm graph.nodes := by
  have hdistinct : graph.layers.flatten.Nodup := by
    simpa using h.stacked.nodup List.nodup_nil
  have hperm : graph.layers.flatten.Perm (List.range graph.nodes.length) := by
    apply (List.perm_ext_iff_of_nodup hdistinct List.nodup_range).mpr
    intro position
    rw [List.mem_range]
    exact ⟨h.stacked.lt, h.complete position⟩
  have hnodes : (Walk.order graph).Perm
      (Walk.nodesAt graph.nodes (List.range graph.nodes.length)) := hperm.filterMap _
  rwa [Walk.nodesAt_range] at hnodes

theorem nodup_kinds_order (h : Built catalog graph) :
    ((Walk.order graph).map Node.kind).Nodup :=
  (h.perm_order.map Node.kind).nodup_iff.mpr h.collected.distinct

theorem scheduled (h : Built catalog graph) (options : WalkOptions) :
    Scheduled graph (max 1 options.parallelism) (Walk.batches graph options) where
  inOrder := Walk.flatten_batches graph options
  staged := Walk.staged_of_stacked _ _ h.collected.proper h.stacked
  bounded := by
    intro batch hbatch
    obtain ⟨layer, -, hpiece⟩ := List.mem_flatMap.mp hbatch
    exact Walk.length_of_mem_pieces _ hpiece

end Graph.Built

end ServiceGen.Analysis
