import Mathlib.Data.List.Chain
import Mathlib.Data.List.Nodup
import Mathlib.Data.List.TakeWhile
import Mathlib.Logic.Relation
import ServiceGen.Analysis.Cycle

/-!
The search for a cycle. The nodes that the search leaves behind are ordered: each stands before all
that it requires, so that none of them is on a cycle. A node that is met on the way again closes a
cycle, which the way spells out without its tail. A way holds no node twice, so that the fuel lasts.
-/
namespace ServiceGen.Analysis.Cycle

variable {ι κ : Type}

/-- A cycle of a relation, without a detour: it ends where it begins, and no other entry repeats. -/
structure Simple {α : Type} (edge : α → α → Prop) (cycle : List α) : Prop where
  two_le : 2 ≤ cycle.length
  closed : cycle.head? = cycle.getLast?
  linked : cycle.IsChain edge
  distinct : cycle.tail.Nodup

theorem transGen_of_isChain {α : Type} {edge : α → α → Prop} {first : α} {rest : List α}
    (h : (first :: rest).IsChain edge) : ∀ last ∈ rest, Relation.TransGen edge first last := by
  induction rest generalizing first with
  | nil => simp
  | cons second rest ih =>
    rw [List.isChain_cons_cons] at h
    intro last hlast
    rcases List.mem_cons.mp hlast with rfl | hlast
    · exact .single h.1
    · exact .head h.1 (ih h.2 last hlast)

theorem Simple.exists_transGen {α : Type} {edge : α → α → Prop} {cycle : List α}
    (h : Simple edge cycle) : ∃ node, Relation.TransGen edge node node := by
  obtain ⟨hlength, hclosed, hlinked, -⟩ := h
  match cycle, hlength with
  | first :: second :: rest, _ =>
    refine ⟨first, transGen_of_isChain hlinked first ?_⟩
    rw [List.head?_cons, List.getLast?_cons_cons] at hclosed
    exact List.mem_of_getLast? hclosed.symm

/-- Every entry of a chain of several entries has a neighbour. -/
theorem exists_edge_of_isChain {α : Type} {edge : α → α → Prop} {first second : α}
    {rest : List α} (h : (first :: second :: rest).IsChain edge) {entry : α}
    (hentry : entry ∈ first :: second :: rest) :
    (∃ other, edge entry other) ∨ ∃ other, edge other entry := by
  induction rest generalizing first second with
  | nil =>
    rw [List.isChain_cons_cons] at h
    rcases List.mem_cons.mp hentry with rfl | hentry
    · exact Or.inl ⟨second, h.1⟩
    · rw [List.mem_singleton.mp hentry]
      exact Or.inr ⟨first, h.1⟩
  | cons third rest ih =>
    rw [List.isChain_cons_cons] at h
    rcases List.mem_cons.mp hentry with rfl | hentry
    · exact Or.inl ⟨second, h.1⟩
    · exact ih h.2 hentry

theorem Simple.exists_edge {α : Type} {edge : α → α → Prop} {cycle : List α}
    (h : Simple edge cycle) {entry : α} (hentry : entry ∈ cycle) :
    (∃ other, edge entry other) ∨ ∃ other, edge other entry := by
  match cycle, h.two_le with
  | first :: second :: rest, _ => exact exists_edge_of_isChain h.linked hentry

def Edge (nodes : List (Node ι κ)) (node dep : Nat) : Prop := dep ∈ depsOf nodes node

/-- Each node of a list requires only nodes behind it. -/
def Ordered (nodes : List (Node ι κ)) : List Nat → Prop
  | [] => True
  | node :: rest => (∀ dep, Edge nodes node dep → dep ∈ rest) ∧ Ordered nodes rest

namespace Ordered

variable {nodes : List (Node ι κ)} {order : List Nat}

theorem mem_of_edge (h : Ordered nodes order) {node dep : Nat} (hnode : node ∈ order)
    (hedge : Edge nodes node dep) : dep ∈ order := by
  induction order with
  | nil => simp at hnode
  | cons first rest ih =>
    apply List.mem_cons_of_mem
    rcases List.mem_cons.mp hnode with rfl | hnode
    · exact h.1 dep hedge
    · exact ih h.2 hnode

theorem mem_of_transGen (h : Ordered nodes order) {node last : Nat} (hnode : node ∈ order)
    (hway : Relation.TransGen (Edge nodes) node last) : last ∈ order := by
  induction hway with
  | single hedge => exact h.mem_of_edge hnode hedge
  | tail _ hedge ih => exact h.mem_of_edge ih hedge

/-- No node of an ordered list is on a cycle: its requirements stand behind it, and what they lead
to stands behind it, too. -/
theorem not_transGen (h : Ordered nodes order) {node : Nat} (hnode : node ∈ order) :
    ¬ Relation.TransGen (Edge nodes) node node := by
  induction order with
  | nil => simp at hnode
  | cons first rest ih =>
    by_cases hrest : node ∈ rest
    · exact ih h.2 hrest
    · intro hcycle
      have hfirst : node = first := (List.mem_cons.mp hnode).resolve_right hrest
      subst hfirst
      obtain ⟨dep, hedge, hback⟩ := Relation.TransGen.head'_iff.mp hcycle
      have hdep := h.1 dep hedge
      rcases Relation.reflTransGen_iff_eq_or_transGen.mp hback with heq | hback
      · exact hrest (heq ▸ hdep)
      · exact hrest (h.2.mem_of_transGen hdep hback)

end Ordered

/-- A way, the last node first: each node is required by the one behind it, and none repeats. -/
structure Way (nodes : List (Node ι κ)) (node : Nat) (way : List Nat) : Prop where
  linked : (node :: way).IsChain fun dep node => Edge nodes node dep
  distinct : way.Nodup
  inRange : ∀ other ∈ node :: way, other < nodes.length

/-- The cycle that a node closes leaves out the way to where the node was first met. -/
theorem closedBy_append {node : Nat} {later : List Nat} (hlater : node ∉ later)
    (earlier : List Nat) :
    closedBy node (later ++ node :: earlier) = node :: (later.reverse ++ [node]) := by
  have hall : ∀ other ∈ later, (other != node) = true := by
    intro other hother
    exact bne_iff_ne.mpr fun heq => hlater (heq ▸ hother)
  rw [closedBy, List.takeWhile_append_of_pos hall, List.takeWhile_cons_of_neg (by simp),
    List.append_nil, List.cons_append]

theorem Way.simple {nodes : List (Node ι κ)} {node : Nat} {way : List Nat}
    (h : Way nodes node way) (hnode : node ∈ way) : Simple (Edge nodes) (closedBy node way) := by
  obtain ⟨later, earlier, rfl, hlater⟩ := List.eq_append_cons_of_mem hnode
  rw [closedBy_append hlater]
  have hlinked : (node :: (later ++ [node])).IsChain fun dep node => Edge nodes node dep := by
    have hprefix : node :: (later ++ [node]) <+: node :: (later ++ node :: earlier) :=
      ⟨earlier, by simp⟩
    exact h.linked.prefix hprefix
  have hdistinct : (later ++ [node]).Nodup := by
    have hprefix : later ++ [node] <+: later ++ node :: earlier := ⟨earlier, by simp⟩
    exact h.distinct.sublist hprefix.sublist
  refine ⟨by simp, by simp [List.getLast?_cons], ?_, ?_⟩
  · have hreverse : node :: (later.reverse ++ [node]) = (node :: (later ++ [node])).reverse := by
      simp
    rw [hreverse]
    exact List.isChain_reverse.mpr hlinked
  · exact (((List.reverse_perm later).append_right [node]).nodup_iff).mpr hdistinct

/-- What a search that began with safe nodes may answer: safe nodes that are ordered, with the
targets among them, or a cycle. -/
def Answers (nodes : List (Node ι κ)) (safe targets : List Nat) :
    Except (List Nat) (List Nat) → Prop
  | .ok found => Ordered nodes found ∧ safe ⊆ found ∧ targets ⊆ found
  | .error cycle => Simple (Edge nodes) cycle

theorem answers_foldlM {nodes : List (Node ι κ)}
    (find : List Nat → Nat → Except (List Nat) (List Nat)) (targets safe : List Nat)
    (hfind : ∀ target ∈ targets, ∀ safe, Ordered nodes safe →
      Answers nodes safe [target] (find safe target))
    (hsafe : Ordered nodes safe) : Answers nodes safe targets (targets.foldlM find safe) := by
  induction targets generalizing safe with
  | nil => exact ⟨hsafe, List.Subset.refl _, List.nil_subset _⟩
  | cons target rest ih =>
    have hfirst := hfind target List.mem_cons_self safe hsafe
    rw [List.foldlM_cons]
    cases hfound : find safe target with
    | error cycle =>
      rw [hfound] at hfirst
      exact hfirst
    | ok found =>
      rw [hfound] at hfirst
      obtain ⟨hordered, hkept, htarget⟩ := hfirst
      have hrest := ih found (fun other hother => hfind other (List.mem_cons_of_mem _ hother))
        hordered
      change Answers nodes safe (target :: rest) (rest.foldlM find found)
      cases hlast : rest.foldlM find found with
      | error cycle =>
        rw [hlast] at hrest
        exact hrest
      | ok last =>
        rw [hlast] at hrest
        obtain ⟨hordered', hkept', htargets⟩ := hrest
        refine ⟨hordered', List.Subset.trans hkept hkept', ?_⟩
        exact List.cons_subset.mpr ⟨hkept' (htarget List.mem_cons_self), htargets⟩

/-- The induction is on the fuel. A way without a repetition is no longer than there are nodes, so
that the search never stops for want of fuel. -/
theorem answers_search {nodes : List (Node ι κ)}
    (hdeps : ∀ node dep, Edge nodes node dep → dep < nodes.length) (fuel : Nat)
    (way safe : List Nat) (node : Nat) (hway : Way nodes node way)
    (hfuel : nodes.length < fuel + way.length) (hsafe : Ordered nodes safe) :
    Answers nodes safe [node] (search nodes fuel way safe node) := by
  induction fuel generalizing way safe node with
  | zero =>
    have hsubset : way ⊆ List.range nodes.length := fun other hother =>
      List.mem_range.mpr (hway.inRange other (List.mem_cons_of_mem _ hother))
    have hlength := hway.distinct.length_le_of_subset hsubset
    rw [List.length_range] at hlength
    omega
  | succ fuel ih =>
    unfold search
    by_cases hnode : node ∈ way
    · rw [if_pos (List.contains_iff_mem.mpr hnode)]
      exact hway.simple hnode
    · rw [if_neg (by simpa using hnode)]
      by_cases hfound : node ∈ safe
      · rw [if_pos (List.contains_iff_mem.mpr hfound)]
        exact ⟨hsafe, List.Subset.refl _, by simpa using hfound⟩
      · rw [if_neg (by simpa using hfound)]
        have hrest : Answers nodes safe (depsOf nodes node)
            ((depsOf nodes node).foldlM (search nodes fuel (node :: way)) safe) := by
          apply answers_foldlM _ _ _ _ hsafe
          intro dep hdep safe hsafe
          apply ih _ _ _ _ _ hsafe
          · refine ⟨List.isChain_cons_cons.mpr ⟨hdep, hway.linked⟩,
              List.nodup_cons.mpr ⟨hnode, hway.distinct⟩, ?_⟩
            intro other hother
            rcases List.mem_cons.mp hother with rfl | hother
            · exact hdeps node other hdep
            · exact hway.inRange other hother
          · rw [List.length_cons]
            omega
        simp only
        cases hlast : (depsOf nodes node).foldlM (search nodes fuel (node :: way)) safe with
        | error cycle =>
          rw [hlast] at hrest
          exact hrest
        | ok found =>
          rw [hlast] at hrest
          obtain ⟨hordered, hkept, hdeps'⟩ := hrest
          refine ⟨⟨fun dep hdep => hdeps' hdep, hordered⟩, ?_, ?_⟩
          · exact List.Subset.trans hkept (List.subset_cons_self _ _)
          · exact by simp

theorem answers_range {nodes : List (Node ι κ)}
    (hdeps : ∀ node dep, Edge nodes node dep → dep < nodes.length) :
    Answers nodes [] (List.range nodes.length)
      ((List.range nodes.length).foldlM (search nodes (nodes.length + 1) []) []) := by
  have hnone : Ordered nodes [] := trivial
  apply answers_foldlM _ _ _ _ hnone
  intro node hnode safe hsafe
  apply answers_search hdeps _ _ _ _ _ _ hsafe
  · exact ⟨List.isChain_singleton node, List.nodup_nil, by simpa using List.mem_range.mp hnode⟩
  · rw [List.length_nil]
    omega

theorem simple_of_find? {nodes : List (Node ι κ)}
    (hdeps : ∀ node dep, Edge nodes node dep → dep < nodes.length) {cycle : List Nat}
    (h : find? nodes = some cycle) : Simple (Edge nodes) cycle := by
  have hanswers := answers_range hdeps
  unfold find? at h
  split at h
  · exact absurd h (by simp)
  · next found hfound =>
    rw [hfound] at hanswers
    obtain rfl := Option.some.inj h
    exact hanswers

/-- Where no cycle is found, all nodes can be ordered. -/
theorem ordered_of_find? {nodes : List (Node ι κ)}
    (hdeps : ∀ node dep, Edge nodes node dep → dep < nodes.length) (h : find? nodes = none) :
    ∃ order, Ordered nodes order ∧ ∀ node < nodes.length, node ∈ order := by
  have hanswers := answers_range hdeps
  unfold find? at h
  split at h
  · next found hfound =>
    rw [hfound] at hanswers
    exact ⟨found, hanswers.1, fun node hnode => hanswers.2.2 (List.mem_range.mpr hnode)⟩
  · exact absurd h (by simp)

/-- A node with a requirement is one of the nodes. -/
theorem lt_of_edge {nodes : List (Node ι κ)} {node dep : Nat} (h : Edge nodes node dep) :
    node < nodes.length := by
  unfold Edge depsOf at h
  cases hnode : nodes[node]? with
  | none => simp [hnode] at h
  | some found => exact (List.getElem?_eq_some_iff.mp hnode).1

/-- A cycle is found exactly if there is one. -/
theorem find?_eq_none_iff {nodes : List (Node ι κ)}
    (hdeps : ∀ node dep, Edge nodes node dep → dep < nodes.length) :
    find? nodes = none ↔ ¬ ∃ node, Relation.TransGen (Edge nodes) node node := by
  constructor
  · rintro h ⟨node, hcycle⟩
    obtain ⟨order, hordered, hall⟩ := ordered_of_find? hdeps h
    obtain ⟨dep, hedge, -⟩ := Relation.TransGen.head'_iff.mp hcycle
    exact hordered.not_transGen (hall node (lt_of_edge hedge)) hcycle
  · intro h
    cases hfound : find? nodes with
    | none => rfl
    | some cycle => exact absurd (simple_of_find? hdeps hfound).exists_transGen h

end ServiceGen.Analysis.Cycle
