import Mathlib.Data.List.Permutation
import ServiceGen.Proofs.Analysis.Graph

/-!
What is collected for given roots: the roots and all that is required from them on. Of the roots of
one kind the first takes part, and nothing takes part to which no requirements lead from a root.
-/
namespace ServiceGen.Analysis

variable {ι υ ε κ : Type} {ρ : κ → Type} {catalog : Catalog ι υ ε ρ}
  {nodes nodes' : List (Node ι κ)}

/-- What a node stands for, apart from its dependencies. -/
def Node.label (node : Node ι κ) : ι × κ := (node.analyzer, node.kind)

theorem exists_of_front (hfront : nodes.map Node.label <+: nodes'.map Node.label)
    {position : Nat} {node : Node ι κ} (hnode : nodes[position]? = some node) :
    ∃ node', nodes'[position]? = some node' ∧ node'.analyzer = node.analyzer ∧
      node'.kind = node.kind := by
  obtain ⟨rest, hrest⟩ := hfront
  have hlater : (nodes'.map Node.label)[position]? = some node.label := by
    rw [← hrest, List.getElem?_append_left (by simpa using (List.getElem?_eq_some_iff.mp hnode).1),
      List.getElem?_map, hnode, Option.map_some]
  rw [List.getElem?_map] at hlater
  obtain ⟨node', hnode', hsame⟩ := Option.map_eq_some_iff.mp hlater
  exact ⟨node', hnode', congrArg Prod.fst hsame, congrArg Prod.snd hsame⟩

theorem Requires.mono (hfront : nodes.map Node.label <+: nodes'.map Node.label)
    {position other : Nat} (h : Requires catalog nodes position other) :
    Requires catalog nodes' position other := by
  obtain ⟨node, required, hnode, hrequired, hkind⟩ := h
  obtain ⟨node', hnode', hanalyzer, -⟩ := exists_of_front hfront hnode
  obtain ⟨required', hrequired', -, hkind'⟩ := exists_of_front hfront hrequired
  exact ⟨node', required', hnode', hrequired', by rwa [hanalyzer, hkind']⟩

/-- Whether requirements lead to a position from the node of a root. -/
def Led (catalog : Catalog ι υ ε ρ) (roots : List ι) (nodes : List (Node ι κ))
    (position : Nat) : Prop :=
  ∃ first node, nodes[first]? = some node ∧
    node.kind ∈ roots.map (fun root => (catalog.analyzer root).kind) ∧
    Relation.ReflTransGen (Requires catalog nodes) first position

theorem Led.mono (hfront : nodes.map Node.label <+: nodes'.map Node.label) {roots : List ι}
    {position : Nat} (h : Led catalog roots nodes position) :
    Led catalog roots nodes' position := by
  obtain ⟨first, node, hnode, hroot, hway⟩ := h
  obtain ⟨node', hnode', -, hkind⟩ := exists_of_front hfront hnode
  exact ⟨first, node', hnode', hkind ▸ hroot,
    Relation.ReflTransGen.mono (fun _ _ => Requires.mono hfront) _ _ hway⟩

namespace Discovery

theorem Grows.extends {first last : Discovery ι κ} (h : Grows catalog first last) :
    first.nodes.map Node.label <+: last.nodes.map Node.label := by
  obtain ⟨rest, hrest⟩ := h.nodes_eq
  rw [hrest, List.map_append]
  exact List.prefix_append ..

variable [DecidableEq κ] (catalog)

/-- What is new among the nodes was among the analyzers that were met. -/
theorem analyzer_mem_of_met (met : List Nat × Discovery ι κ) (analyzers : List ι)
    {position : Nat} {node : Node ι κ}
    (hnode : (analyzers.foldl (meetNext catalog) met).2.nodes[position]? = some node) :
    position < met.2.nodes.length ∨ node.analyzer ∈ analyzers := by
  induction analyzers generalizing met with
  | nil => exact .inl (List.getElem?_eq_some_iff.mp hnode).1
  | cons i rest ih =>
    rw [List.foldl_cons] at hnode
    rcases ih _ hnode with hlt | hmem
    · have hmet : (meetNext catalog met i).2 = (met.2.meet catalog i).2 := rfl
      cases hposition : positionOf met.2.nodes (catalog.analyzer i).kind with
      | some earlier =>
        rw [hmet, meet_of_some catalog hposition] at hlt
        exact .inl hlt
      | none =>
        have hgrows := grows_foldl_meetNext catalog (meetNext catalog met i) rest
        rw [hmet, meet_of_none catalog hposition] at hlt hgrows
        rw [List.length_append, List.length_singleton] at hlt
        rcases Nat.lt_succ_iff_lt_or_eq.mp hlt with hlt | rfl
        · exact .inl hlt
        · have hnew := hgrows.getElem? List.getElem?_concat_length
          rw [hnode] at hnew
          rw [Option.some.inj hnew]
          exact .inr List.mem_cons_self
    · exact .inr (List.mem_cons_of_mem _ hmem)

/-- What the roots come to: each of their kinds has a node, with the first root of the kind. -/
theorem find?_of_mem_start (roots : List ι) :
    ∀ node ∈ (start catalog roots).nodes,
      roots.find? (fun root => (catalog.analyzer root).kind = node.kind) = some node.analyzer := by
  induction roots using List.reverseRecOn with
  | nil => intro node hnode; exact absurd hnode List.not_mem_nil
  | append_singleton front last ih =>
    have hstart : start catalog (front ++ [last]) =
        ((start catalog front).meet catalog last).2 := by
      rw [start, meetAll, List.foldl_concat]
      rfl
    intro node hnode
    rw [List.find?_append]
    rw [hstart] at hnode
    cases hposition : positionOf (start catalog front).nodes (catalog.analyzer last).kind with
    | some earlier =>
      rw [meet_of_some catalog hposition] at hnode
      rw [ih node hnode, Option.some_or]
    | none =>
      rw [meet_of_none catalog hposition] at hnode
      rcases List.mem_append.mp hnode with hnode | hnode
      · rw [ih node hnode, Option.some_or]
      · -- No root in front is of this kind, or the kind would have been met.
        rw [List.mem_singleton.mp hnode]
        have hnone : front.find? (fun root =>
            (catalog.analyzer root).kind = (catalog.analyzer last).kind) = none := by
          rw [List.find?_eq_none]
          intro root hroot hsame
          obtain ⟨position, -, hfound⟩ :=
            (lists_meetAll catalog ⟨[], []⟩ front).1.exists_of_mem
              (List.mem_map_of_mem (f := fun i => (catalog.analyzer i).kind) hroot)
          rw [of_decide_eq_true hsame] at hfound
          exact absurd (hfound.symm.trans hposition) (by simp)
        simp [hnone]

theorem step_extends (discovery : Discovery ι κ) :
    discovery.nodes.map Node.label <+: (discovery.step catalog).nodes.map Node.label := by
  cases hpending : discovery.pending with
  | nil =>
    simp only [step, hpending]
    exact List.prefix_rfl
  | cons position rest =>
    cases hnode : discovery.nodes[position]? with
    | none =>
      simp only [step, hpending, hnode]
      exact List.prefix_rfl
    | some node =>
      rw [step_of_pending catalog hpending hnode, map_settle Node.label _ _ _ fun _ => rfl]
      exact (grows_foldl_meetNext catalog ([], ⟨discovery.nodes, rest⟩) _).extends

/-- Following the requirements of a node leads to what is new. -/
theorem step_led {roots : List ι} {discovery : Discovery ι κ}
    (hsound : Sound catalog discovery.nodes discovery.pending)
    (hled : ∀ position < discovery.nodes.length, Led catalog roots discovery.nodes position) :
    ∀ position < (discovery.step catalog).nodes.length,
      Led catalog roots (discovery.step catalog).nodes position := by
  intro other hother
  have hfront := step_extends catalog discovery
  by_cases hold : other < discovery.nodes.length
  · exact (hled other hold).mono hfront
  · cases hpending : discovery.pending with
    | nil =>
      have hstep : discovery.step catalog = discovery := by simp only [step, hpending]
      exact absurd (hstep ▸ hother) hold
    | cons position rest =>
      have hlt : position < discovery.nodes.length :=
        hsound.remaining_lt position (hpending ▸ List.mem_cons_self)
      have hnode := List.getElem?_eq_getElem hlt
      obtain ⟨node, hnode', hanalyzer, -⟩ := exists_of_front hfront hnode
      obtain ⟨new, hnew⟩ : ∃ new, (discovery.step catalog).nodes[other]? = some new :=
        ⟨_, List.getElem?_eq_getElem hother⟩
      have hrequired : new.analyzer ∈ (catalog.analyzer node.analyzer).requires := by
        have hmet := congrArg (Option.map Node.label) hnew
        rw [← List.getElem?_map, step_of_pending catalog hpending hnode,
          map_settle Node.label _ _ _ fun _ => rfl, List.getElem?_map] at hmet
        obtain ⟨met, hmet, hsame⟩ := Option.map_eq_some_iff.mp hmet
        rcases analyzer_mem_of_met catalog _ _ hmet with hlt | hmem
        · exact absurd hlt hold
        · have hsame' : met.analyzer = new.analyzer := congrArg Prod.fst hsame
          rwa [hanalyzer, ← hsame']
      have hfaithful := ((step_sound catalog discovery hsound).1.faithful new
        (List.mem_of_getElem? hnew)).1
      obtain ⟨first, root, hroot, hkind, hway⟩ := (hled position hlt).mono hfront
      refine ⟨first, root, hroot, hkind, hway.tail ⟨node, new, hnode', hnew, ?_⟩⟩
      rw [hfaithful]
      exact List.mem_map_of_mem hrequired

theorem steps_led {roots : List ι} (count : Nat) {discovery : Discovery ι κ}
    (hsound : Sound catalog discovery.nodes discovery.pending)
    (hled : ∀ position < discovery.nodes.length, Led catalog roots discovery.nodes position) :
    discovery.nodes.map Node.label <+: (steps catalog count discovery).nodes.map Node.label ∧
      ∀ position < (steps catalog count discovery).nodes.length,
        Led catalog roots (steps catalog count discovery).nodes position := by
  induction count generalizing discovery with
  | zero => exact ⟨List.prefix_rfl, hled⟩
  | succ count ih =>
    obtain ⟨hfront, hlast⟩ :=
      ih (step_sound catalog discovery hsound).1 (step_led catalog hsound hled)
    exact ⟨(step_extends catalog discovery).trans hfront, hlast⟩

theorem start_led (roots : List ι) : ∀ position < (start catalog roots).nodes.length,
    Led catalog roots (start catalog roots).nodes position := by
  intro position hposition
  have hnode := List.getElem?_eq_getElem hposition
  refine ⟨position, _, hnode, ?_, .refl⟩
  rcases analyzer_mem_of_met catalog ([], ⟨[], []⟩) roots hnode with hlt | hmem
  · exact absurd hlt (Nat.not_lt_zero _)
  · rw [((sound_start catalog roots).faithful _ (List.getElem_mem hposition)).1]
    exact List.mem_map_of_mem hmem

theorem steps_add (first second : Nat) (discovery : Discovery ι κ) :
    steps catalog (first + second) discovery =
      steps catalog second (steps catalog first discovery) := by
  induction first generalizing discovery with
  | zero => rw [Nat.zero_add, steps]
  | succ first ih => rw [Nat.succ_add, steps, ih, steps]

/-- However many more steps are made, nothing changes any more. -/
theorem steps_of_le (roots : List ι) {count : Nat} (hle : catalog.kinds.length ≤ count) :
    steps catalog count (start catalog roots) =
      steps catalog catalog.kinds.length (start catalog roots) := by
  obtain ⟨more, rfl⟩ := Nat.exists_eq_add_of_le hle
  rw [steps_add, steps_of_pending_nil catalog more _ (pending_steps catalog roots)]

/-- Every node has the positions of what its analyzer requires, each once, in the order in which
they are first required. -/
theorem Collected.deps_eq {catalog : Catalog ι υ ε ρ} (h : Collected catalog nodes)
    {node : Node ι κ} (hnode : node ∈ nodes) :
    node.deps.map (fun dep => (nodes[dep]?).map Node.kind) =
      (catalog.requiredKinds node.analyzer).eraseDups.map some := by
  have hlists : node.deps.map some =
      (catalog.requiredKinds node.analyzer).eraseDups.map (positionOf nodes) :=
    h.followed node hnode
  calc node.deps.map (fun dep => (nodes[dep]?).map Node.kind)
    _ = (node.deps.map some).map fun dep => dep.bind fun dep => (nodes[dep]?).map Node.kind := by
      rw [List.map_map]
      rfl
    _ = (catalog.requiredKinds node.analyzer).eraseDups.map some := by
      rw [hlists, List.map_map]
      refine List.map_congr_left fun kind hkind => ?_
      obtain ⟨dep, -, hdep⟩ :=
        Lists.exists_of_mem (h.followed node hnode) (List.mem_eraseDups.mp hkind)
      obtain ⟨required, hrequired, rfl⟩ := kind_of_positionOf hdep
      rw [Function.comp_apply, hdep, Option.bind_some, hrequired, Option.map_some]

/-- Collecting comes to an end, and to what the roots require, directly or not. Each kind has one
node. Of the roots of one kind the first takes part, whatever else of the kind is required. The
dependencies of a node are what its own analyzer requires, in that order and each once, so that all
of it takes part; and dependencies lead from a root to every node. -/
theorem collect_eq_closure (catalog : Catalog ι υ ε ρ) (roots : List ι) :
    (∀ count, catalog.kinds.length ≤ count →
      (steps catalog count (start catalog roots)).pending = [] ∧
      (steps catalog count (start catalog roots)).nodes = collect catalog roots) ∧
    ((collect catalog roots).map Node.kind).Nodup ∧
    (∀ root ∈ roots, ∃ node ∈ collect catalog roots,
      node.kind = (catalog.analyzer root).kind ∧
      roots.find? (fun i => (catalog.analyzer i).kind = node.kind) = some node.analyzer) ∧
    (∀ node ∈ collect catalog roots, Faithful catalog node ∧
      node.deps.map (fun dep => ((collect catalog roots)[dep]?).map Node.kind) =
        (catalog.requiredKinds node.analyzer).eraseDups.map some) ∧
    ∀ position < (collect catalog roots).length, ∃ first node,
      (collect catalog roots)[first]? = some node ∧
      node.kind ∈ roots.map (fun root => (catalog.analyzer root).kind) ∧
      Relation.ReflTransGen (Cycle.Edge (collect catalog roots)) first position := by
  have hcollected := collected_collect catalog roots
  obtain ⟨hfront, hled⟩ :=
    steps_led catalog catalog.kinds.length (sound_start catalog roots) (start_led catalog roots)
  refine ⟨?_, hcollected.distinct, ?_, ?_, ?_⟩
  · intro count hle
    rw [steps_of_le catalog roots hle]
    exact ⟨pending_steps catalog roots, rfl⟩
  · intro root hroot
    obtain ⟨position, -, hposition⟩ := (lists_meetAll catalog ⟨[], []⟩ roots).1.exists_of_mem
      (List.mem_map_of_mem (f := fun i => (catalog.analyzer i).kind) hroot)
    obtain ⟨met, hmet, hkind⟩ := kind_of_positionOf hposition
    obtain ⟨node, hnode, hanalyzer, hsame⟩ := exists_of_front hfront hmet
    refine ⟨node, List.mem_of_getElem? hnode, hsame.trans hkind, ?_⟩
    rw [hanalyzer, hsame]
    exact find?_of_mem_start catalog roots met (List.mem_of_getElem? hmet)
  · exact fun node hnode => ⟨hcollected.faithful node hnode, hcollected.deps_eq hnode⟩
  · rw [hcollected.edge_eq]
    exact hled

inductive Storing where
  | reader
  | plain
  | logged
  | log
  deriving DecidableEq

/-- A reader that requires a plain store, beside a plain store and one that requires a log. -/
def stores : Catalog Storing Nat String fun _ : Fin 3 => Nat where
  analyzer
    | .reader => ⟨0, "reader", [.plain], fun _ => ⟨[], .value 0⟩⟩
    | .plain => ⟨1, "store", [], fun _ => ⟨[], .value 1⟩⟩
    | .logged => ⟨1, "store", [.log], fun _ => ⟨[], .value 2⟩⟩
    | .log => ⟨2, "log", [], fun _ => ⟨[], .value 3⟩⟩
  kinds := [0, 1, 2]
  complete i := by cases i <;> decide

/-- The store that is a root takes part, not the one that the reader requires, and with it the
log. -/
theorem stores_closure :
    (steps stores 3 (start stores [.reader, .logged])).pending = [] ∧
      (∃ node ∈ collect stores [.reader, .logged], node.kind = 1 ∧ node.analyzer = .logged) ∧
      collect stores [.reader, .logged] =
        [⟨.reader, 0, "reader", [1]⟩, ⟨.logged, 1, "store", [2]⟩, ⟨.log, 2, "log", []⟩] := by
  obtain ⟨hends, -, hroots, -, -⟩ := collect_eq_closure stores [.reader, .logged]
  obtain ⟨node, hnode, hkind, hfirst⟩ := hroots .logged (by decide)
  refine ⟨(hends 3 (Nat.le_refl 3)).1, ⟨node, hnode, hkind, ?_⟩, by cbv⟩
  rw [hkind] at hfirst
  exact (Option.some.inj hfirst).symm

end Discovery

end ServiceGen.Analysis
