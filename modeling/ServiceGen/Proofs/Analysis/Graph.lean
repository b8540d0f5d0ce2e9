import ServiceGen.Analysis.Walk
import ServiceGen.Proofs.Analysis.Cycle
import ServiceGen.Proofs.Analysis.Discovery
import ServiceGen.Proofs.Analysis.Layering

/-!
Building a graph. The dependencies of the collected nodes are what their analyzers require, so that
a graph is refused exactly if the requirements run in a circle, and the names it is refused with are
those along such a circle.
-/
namespace ServiceGen.Analysis

variable {ι υ ε κ : Type} {ρ : κ → Type} {catalog : Catalog ι υ ε ρ} {nodes : List (Node ι κ)}

/-- The analyzer of one node requires that of another. -/
def Requires (catalog : Catalog ι υ ε ρ) (nodes : List (Node ι κ)) (position other : Nat) : Prop :=
  ∃ node required, nodes[position]? = some node ∧ nodes[other]? = some required ∧
    required.kind ∈ catalog.requiredKinds node.analyzer

theorem Requires.lt {position other : Nat} (h : Requires catalog nodes position other) :
    position < nodes.length ∧ other < nodes.length := by
  obtain ⟨node, required, hnode, hrequired, -⟩ := h
  exact ⟨(List.getElem?_eq_some_iff.mp hnode).1, (List.getElem?_eq_some_iff.mp hrequired).1⟩

theorem Cycle.depsOf_of_getElem? {position : Nat} {node : Node ι κ}
    (hnode : nodes[position]? = some node) : Cycle.depsOf nodes position = node.deps := by
  rw [Cycle.depsOf, hnode, Option.map_some, Option.getD_some]

namespace Discovery.Collected

variable [DecidableEq κ]

/-- The dependencies of a node are the positions of what it requires. -/
theorem mem_deps_iff (h : Collected catalog nodes) {node : Node ι κ} (hnode : node ∈ nodes)
    (other : Nat) :
    other ∈ node.deps ↔
      ∃ required, nodes[other]? = some required ∧
        required.kind ∈ catalog.requiredKinds node.analyzer := by
  rw [(h.followed node hnode).mem_iff]
  constructor
  · rintro ⟨kind, hkind, hother⟩
    obtain ⟨required, hrequired, rfl⟩ := kind_of_positionOf hother
    exact ⟨required, hrequired, hkind⟩
  · rintro ⟨required, hrequired, hkind⟩
    exact ⟨required.kind, hkind, positionOf_eq_some h.distinct hrequired⟩

theorem edge_iff (h : Collected catalog nodes) (position other : Nat) :
    Cycle.Edge nodes position other ↔ Requires catalog nodes position other := by
  unfold Cycle.Edge
  constructor
  · intro hedge
    have hlt := Cycle.lt_of_edge hedge
    have hnode := List.getElem?_eq_getElem hlt
    rw [Cycle.depsOf_of_getElem? hnode, h.mem_deps_iff (List.getElem_mem hlt)] at hedge
    obtain ⟨required, hrequired, hkind⟩ := hedge
    exact ⟨nodes[position], required, hnode, hrequired, hkind⟩
  · rintro ⟨node, required, hnode, hrequired, hkind⟩
    rw [Cycle.depsOf_of_getElem? hnode, h.mem_deps_iff (List.mem_of_getElem? hnode)]
    exact ⟨required, hrequired, hkind⟩

theorem edge_eq (h : Collected catalog nodes) : Cycle.Edge nodes = Requires catalog nodes := by
  funext position other
  exact propext (h.edge_iff position other)

theorem dep_lt (h : Collected catalog nodes) (position other : Nat)
    (hedge : Cycle.Edge nodes position other) : other < nodes.length :=
  ((h.edge_iff position other).mp hedge).lt.2

theorem nodup_deps (h : Collected catalog nodes) {node : Node ι κ} (hnode : node ∈ nodes) :
    node.deps.Nodup := by
  have hlists : node.deps.map some =
      (catalog.requiredKinds node.analyzer).eraseDups.map (positionOf nodes) :=
    h.followed node hnode
  apply List.Nodup.of_map some
  rw [hlists]
  apply (nodup_eraseDups _).map_on
  intro kind hkind other _ hsame
  have hmem : positionOf nodes kind ∈ node.deps.map some := by
    rw [hlists]
    exact List.mem_map_of_mem hkind
  obtain ⟨position, -, hposition⟩ := List.mem_map.mp hmem
  exact positionOf_injective hposition.symm (hsame.symm.trans hposition.symm)

theorem proper (h : Collected catalog nodes) : Layering.Proper nodes where
  inRange := h.dep_lt
  distinct position := by
    cases hnode : nodes[position]? with
    | none => simp [Cycle.depsOf, hnode]
    | some node =>
      rw [Cycle.depsOf_of_getElem? hnode]
      exact h.nodup_deps (List.mem_of_getElem? hnode)

/-- The nodes that a node depends on are of the kinds that its analyzer requires. -/
theorem mem_required_iff (h : Collected catalog nodes) {node : Node ι κ} (hnode : node ∈ nodes)
    (kind : κ) : kind ∈ Walk.required nodes node ↔ kind ∈ catalog.requiredKinds node.analyzer := by
  simp only [Walk.required, List.mem_map, List.mem_filterMap]
  constructor
  · rintro ⟨required, ⟨dep, hdep, hrequired⟩, rfl⟩
    obtain ⟨found, hfound, hkind⟩ := (h.mem_deps_iff hnode dep).mp hdep
    rw [hrequired] at hfound
    rwa [Option.some.inj hfound]
  · intro hkind
    obtain ⟨dep, hdep, hposition⟩ := (h.followed node hnode).exists_of_mem hkind
    obtain ⟨required, hrequired, rfl⟩ := kind_of_positionOf hposition
    exact ⟨required, ⟨dep, hdep, hrequired⟩, rfl⟩

end Discovery.Collected

/-- What holds of a graph that was built: its nodes were collected, and its layers hold, one after
the other, what is due, until every node was placed. -/
structure Graph.Built (catalog : Catalog ι υ ε ρ) (graph : Graph ι κ) [DecidableEq κ] : Prop where
  collected : Discovery.Collected catalog graph.nodes
  stacked : Layering.Stacked graph.nodes [] graph.layers
  complete : ∀ position < graph.nodes.length, position ∈ graph.layers.flatten

namespace Graph

theorem nameAt_eq {position : Nat} (hposition : position < nodes.length) :
    (nodes[position]?).map Node.name = some (nameAt nodes position) := by
  rw [nameAt, List.getElem?_eq_getElem hposition, Option.map_some, Option.getD_some]

/-- Every entry of a simple cycle of requirements is a node, with a name. -/
theorem names_of_simple {cycle : List Nat} (h : Cycle.Simple (Requires catalog nodes) cycle) :
    (cycle.map (nameAt nodes)).map some =
      cycle.map fun position => (nodes[position]?).map Node.name := by
  rw [List.map_map]
  apply List.map_congr_left
  intro position hposition
  obtain ⟨other, hother⟩ | ⟨other, hother⟩ := h.exists_edge hposition
  · exact (nameAt_eq hother.lt.1).symm
  · exact (nameAt_eq hother.lt.2).symm

variable [DecidableEq κ]

theorem build_cons (catalog : Catalog ι υ ε ρ) (first : ι) (rest : List ι) :
    build catalog (first :: rest) =
      match Cycle.find? (Discovery.collect catalog (first :: rest)) with
      | some cycle =>
        .error (.cycle (cycle.map (nameAt (Discovery.collect catalog (first :: rest)))))
      | none =>
        .ok ⟨Discovery.collect catalog (first :: rest),
          Layering.layers (Discovery.collect catalog (first :: rest))⟩ := rfl

/-- A graph that is built holds the collected nodes, among which there is no cycle, in layers. -/
theorem eq_of_build {catalog : Catalog ι υ ε ρ} {roots : List ι} {graph : Graph ι κ}
    (hbuild : build catalog roots = .ok graph) :
    Cycle.find? (Discovery.collect catalog roots) = none ∧
      graph = ⟨Discovery.collect catalog roots,
        Layering.layers (Discovery.collect catalog roots)⟩ := by
  cases roots with
  | nil => exact absurd hbuild (by simp [build])
  | cons first rest =>
    rw [build_cons] at hbuild
    split at hbuild
    · exact absurd hbuild (by simp)
    · next hfind =>
      injection hbuild with hbuild
      exact ⟨hfind, hbuild.symm⟩

theorem built_of_build {catalog : Catalog ι υ ε ρ} {roots : List ι} {graph : Graph ι κ}
    (hbuild : build catalog roots = .ok graph) : Built catalog graph := by
  have hcollected := Discovery.collected_collect catalog roots
  obtain ⟨hfind, rfl⟩ := eq_of_build hbuild
  have hstacked := Layering.stacked_layers hcollected.proper
  obtain ⟨order, hordered, hall⟩ := Cycle.ordered_of_find? hcollected.dep_lt hfind
  refine ⟨hcollected, hstacked, ?_⟩
  intro position hposition
  simpa using hstacked.mem_of_ordered hcollected.proper hordered (hall position hposition)
    hposition

/-- A graph of some analyzers is refused for a cycle exactly if their requirements run in a circle,
and is built otherwise. The names that it is refused with are those along a simple cycle. -/
theorem build_refuses_exactly_cycles (catalog : Catalog ι υ ε ρ) (first : ι) (rest : List ι) :
    ((∃ path, build catalog (first :: rest) = .error (.cycle path)) ↔
      ∃ position, Relation.TransGen
        (Requires catalog (Discovery.collect catalog (first :: rest))) position position) ∧
    ((∃ graph, build catalog (first :: rest) = .ok graph ∧
        graph.nodes = Discovery.collect catalog (first :: rest)) ↔
      ¬ ∃ position, Relation.TransGen
        (Requires catalog (Discovery.collect catalog (first :: rest))) position position) ∧
    ∀ path, build catalog (first :: rest) = .error (.cycle path) →
      ∃ cycle, Cycle.Simple (Requires catalog (Discovery.collect catalog (first :: rest))) cycle ∧
        path.map some = cycle.map fun position =>
          ((Discovery.collect catalog (first :: rest))[position]?).map Node.name := by
  have hcollected := Discovery.collected_collect catalog (first :: rest)
  have hbuild := build_cons catalog first rest
  have hnone := Cycle.find?_eq_none_iff hcollected.dep_lt
  rw [hcollected.edge_eq] at hnone
  cases hfind : Cycle.find? (Discovery.collect catalog (first :: rest)) with
  | none =>
    rw [hfind] at hbuild
    have hacyclic := hnone.mp hfind
    refine ⟨⟨?_, fun hcycle => absurd hcycle hacyclic⟩, ⟨fun _ => hacyclic, ?_⟩, ?_⟩
    · rintro ⟨path, hpath⟩
      rw [hbuild] at hpath
      exact absurd hpath (by simp)
    · intro _
      exact ⟨_, hbuild, rfl⟩
    · intro path hpath
      rw [hbuild] at hpath
      exact absurd hpath (by simp)
  | some cycle =>
    rw [hfind] at hbuild
    have hsimple := Cycle.simple_of_find? hcollected.dep_lt hfind
    rw [hcollected.edge_eq] at hsimple
    have hcycle := hsimple.exists_transGen
    refine ⟨⟨fun _ => hcycle, fun _ => ⟨_, hbuild⟩⟩,
      ⟨?_, fun hacyclic => absurd hcycle hacyclic⟩, ?_⟩
    · rintro ⟨graph, hgraph, -⟩
      rw [hbuild] at hgraph
      exact absurd hgraph (by simp)
    · intro path hpath
      rw [hbuild] at hpath
      injection hpath with hpath
      injection hpath with hpath
      exact ⟨cycle, hsimple, hpath ▸ names_of_simple hsimple⟩

end Graph

end ServiceGen.Analysis
