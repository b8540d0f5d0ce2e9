import Mathlib.Data.List.Basic
import Mathlib.Data.List.Induction
import Mathlib.Data.List.Nodup
import ServiceGen.Analysis.Discovery

/-!
What collecting analyzers comes to. Every step follows the requirements of one more node, and kinds
are finitely many, so that in the end all requirements were followed. Then each node stands for one
kind, and its dependencies are the positions of the kinds that its analyzer requires.
-/
namespace ServiceGen.Analysis

variable {ι υ ε κ : Type} {ρ : κ → Type}

/-- Erasing repetitions keeps a last entry only if it is new. -/
theorem eraseDups_concat {α : Type} [DecidableEq α] (list : List α) (last : α) :
    (list ++ [last]).eraseDups =
      if last ∈ list then list.eraseDups else list.eraseDups ++ [last] := by
  rw [List.eraseDups_append, List.cons_removeAll, List.nil_removeAll]
  by_cases hlast : last ∈ list
  · simp [hlast]
  · simp [hlast, List.eraseDups_cons]

theorem nodup_eraseDups {α : Type} [DecidableEq α] (list : List α) : list.eraseDups.Nodup := by
  induction list using List.reverseRecOn with
  | nil => exact List.nodup_nil
  | append_singleton list last ih =>
    rw [eraseDups_concat]
    split
    · exact ih
    · next hlast =>
      apply List.nodup_append_comm.mp
      exact List.nodup_cons.mpr ⟨fun hmem => hlast (List.mem_eraseDups.mp hmem), ih⟩

/-- The kinds that an analyzer requires, in order. -/
def Catalog.requiredKinds (catalog : Catalog ι υ ε ρ) (i : ι) : List κ :=
  (catalog.analyzer i).requires.map fun required => (catalog.analyzer required).kind

namespace Discovery

/-- Whether a node says of its analyzer what is so. -/
def Faithful (catalog : Catalog ι υ ε ρ) (node : Node ι κ) : Prop :=
  node.kind = (catalog.analyzer node.analyzer).kind ∧
    node.name = (catalog.analyzer node.analyzer).name

/-- How a discovery grows while analyzers are met: each new node is pending. -/
inductive Grows (catalog : Catalog ι υ ε ρ) (first : Discovery ι κ) : Discovery ι κ → Prop
  | refl : Grows catalog first first
  | meet (i : ι) {last : Discovery ι κ} (hgrows : Grows catalog first last)
      (hnew : (catalog.analyzer i).kind ∉ last.nodes.map Node.kind) :
      Grows catalog first
        { nodes := last.nodes ++ [⟨i, (catalog.analyzer i).kind, (catalog.analyzer i).name, []⟩]
          pending := last.nodes.length :: last.pending }

namespace Grows

variable {catalog : Catalog ι υ ε ρ} {first second last : Discovery ι κ}

theorem trans (h : Grows catalog first second) (h' : Grows catalog second last) :
    Grows catalog first last := by
  induction h' with
  | refl => exact h
  | meet i _ hnew ih => exact .meet i ih hnew

theorem nodes_eq (h : Grows catalog first last) : ∃ rest, last.nodes = first.nodes ++ rest := by
  induction h with
  | refl => exact ⟨[], (List.append_nil _).symm⟩
  | meet i _ _ ih =>
    obtain ⟨rest, hrest⟩ := ih
    exact ⟨rest ++ _, by rw [hrest, List.append_assoc]⟩

theorem getElem? (h : Grows catalog first last) {position : Nat} {node : Node ι κ}
    (hnode : first.nodes[position]? = some node) : last.nodes[position]? = some node := by
  obtain ⟨rest, hrest⟩ := h.nodes_eq
  rw [hrest, List.getElem?_append_left (List.getElem?_eq_some_iff.mp hnode).1, hnode]

theorem length_eq (h : Grows catalog first last) :
    last.nodes.length + first.pending.length = first.nodes.length + last.pending.length := by
  induction h with
  | refl => rfl
  | meet i _ _ ih =>
    simp only [List.length_append, List.length_cons, List.length_nil]
    omega

end Grows

theorem getElem?_settle (nodes : List (Node ι κ)) (position other : Nat) (deps : List Nat) :
    (settle nodes position deps)[other]? =
      (nodes[other]?).map fun node => if position = other then { node with deps } else node := by
  unfold settle
  rw [List.getElem?_modify]
  by_cases hsame : position = other
  · simp [hsame]
  · simp [hsame]

/-- Dependencies that are found for a node change neither kinds nor names. -/
theorem map_settle {α : Type} (f : Node ι κ → α) (nodes : List (Node ι κ)) (position : Nat)
    (deps : List Nat) (hf : ∀ node : Node ι κ, f { node with deps } = f node) :
    (settle nodes position deps).map f = nodes.map f := by
  apply List.ext_getElem?
  intro other
  rw [List.getElem?_map, getElem?_settle, List.getElem?_map, Option.map_map]
  apply Option.map_congr
  intro node _
  by_cases hsame : position = other
  · simp [hsame, hf]
  · simp [hsame]

variable [DecidableEq κ]

/-- The position of the node of a kind. -/
def positionOf (nodes : List (Node ι κ)) (kind : κ) : Option Nat :=
  nodes.findIdx? (·.kind = kind)

theorem kind_of_positionOf {nodes : List (Node ι κ)} {kind : κ} {position : Nat}
    (h : positionOf nodes kind = some position) :
    ∃ node, nodes[position]? = some node ∧ node.kind = kind := by
  obtain ⟨hlt, hkind, -⟩ := List.findIdx?_eq_some_iff_getElem.mp h
  exact ⟨nodes[position], List.getElem?_eq_getElem hlt, by simpa using hkind⟩

theorem positionOf_injective {nodes : List (Node ι κ)} {kind other : κ} {position : Nat}
    (h : positionOf nodes kind = some position) (h' : positionOf nodes other = some position) :
    kind = other := by
  obtain ⟨node, hnode, rfl⟩ := kind_of_positionOf h
  obtain ⟨node', hnode', rfl⟩ := kind_of_positionOf h'
  rw [hnode] at hnode'
  rw [Option.some.inj hnode']

/-- Nodes of different kinds stand where they are looked for. -/
theorem positionOf_eq_some {nodes : List (Node ι κ)} (hdistinct : (nodes.map Node.kind).Nodup)
    {node : Node ι κ} {position : Nat} (hnode : nodes[position]? = some node) :
    positionOf nodes node.kind = some position := by
  obtain ⟨hlt, rfl⟩ := List.getElem?_eq_some_iff.mp hnode
  apply List.findIdx?_eq_some_iff_getElem.mpr
  refine ⟨hlt, by simp, ?_⟩
  intro earlier hearlier hsame
  have hkind : (nodes.map Node.kind)[earlier]? = (nodes.map Node.kind)[position]? := by
    rw [List.getElem?_map, List.getElem?_map, List.getElem?_eq_getElem (Nat.lt_trans hearlier hlt),
      List.getElem?_eq_getElem hlt]
    simpa using hsame
  have hposition : earlier < (nodes.map Node.kind).length := by
    rw [List.length_map]
    exact Nat.lt_trans hearlier hlt
  exact Nat.ne_of_lt hearlier ((List.getElem?_inj hposition hdistinct).mp hkind)

theorem positionOf_eq_none_iff {nodes : List (Node ι κ)} {kind : κ} :
    positionOf nodes kind = none ↔ kind ∉ nodes.map Node.kind := by
  simp [positionOf, List.findIdx?_eq_none_iff]

theorem positionOf_append {nodes : List (Node ι κ)} {kind : κ} {position : Nat}
    (h : positionOf nodes kind = some position) (rest : List (Node ι κ)) :
    positionOf (nodes ++ rest) kind = some position := by
  unfold positionOf at h ⊢
  rw [List.findIdx?_append, h, Option.some_or]

theorem positionOf_settle (nodes : List (Node ι κ)) (position : Nat) (deps : List Nat)
    (kind : κ) : positionOf (settle nodes position deps) kind = positionOf nodes kind := by
  have hmap : ∀ list : List (Node ι κ),
      positionOf list kind = (list.map Node.kind).findIdx? (· = kind) := by
    intro list
    rw [List.findIdx?_map]
    rfl
  rw [hmap, hmap, map_settle Node.kind nodes position deps fun _ => rfl]

/-- Whether the positions are those of the given kinds, all of which have a node, in the order in
which the kinds are first given. -/
def Lists (nodes : List (Node ι κ)) (positions : List Nat) (kinds : List κ) : Prop :=
  positions.map some = kinds.eraseDups.map (positionOf nodes)

namespace Lists

variable {nodes : List (Node ι κ)} {positions : List Nat} {kinds : List κ}

theorem mem_iff (h : Lists nodes positions kinds) (position : Nat) :
    position ∈ positions ↔ ∃ kind ∈ kinds, positionOf nodes kind = some position := by
  have hmem : position ∈ positions ↔ some position ∈ positions.map some := by simp
  rw [hmem, h, List.mem_map]
  simp only [List.mem_eraseDups]

theorem exists_of_mem (h : Lists nodes positions kinds) {kind : κ} (hkind : kind ∈ kinds) :
    ∃ position ∈ positions, positionOf nodes kind = some position := by
  have hlists : positions.map some = kinds.eraseDups.map (positionOf nodes) := h
  have hmem : positionOf nodes kind ∈ positions.map some := by
    rw [hlists]
    exact List.mem_map_of_mem (List.mem_eraseDups.mpr hkind)
  obtain ⟨position, hposition, hsome⟩ := List.mem_map.mp hmem
  exact ⟨position, hposition, hsome.symm⟩

/-- New nodes behind those that were met do not change where the others are found. -/
theorem append (h : Lists nodes positions kinds) (rest : List (Node ι κ)) :
    Lists (nodes ++ rest) positions kinds := by
  unfold Lists at h ⊢
  rw [h]
  apply List.map_congr_left
  intro kind hkind
  have hmem : positionOf nodes kind ∈ positions.map some := by
    rw [h]
    exact List.mem_map_of_mem hkind
  obtain ⟨position, -, hposition⟩ := List.mem_map.mp hmem
  rw [← hposition, positionOf_append hposition.symm]

end Lists

/-- Whether the requirements of a node were followed: its dependencies are the positions of the
kinds that its analyzer requires. -/
def Followed (catalog : Catalog ι υ ε ρ) (nodes : List (Node ι κ)) (node : Node ι κ) : Prop :=
  Lists nodes node.deps (catalog.requiredKinds node.analyzer)

/-- The invariant of collecting. The requirements of all nodes were followed but for those at the
given positions. -/
structure Sound (catalog : Catalog ι υ ε ρ) (nodes : List (Node ι κ)) (remaining : List Nat) :
    Prop where
  faithful : ∀ node ∈ nodes, Faithful catalog node
  distinct : (nodes.map Node.kind).Nodup
  remaining_lt : ∀ position ∈ remaining, position < nodes.length
  remaining_nodup : remaining.Nodup
  followed : ∀ position node, nodes[position]? = some node → position ∉ remaining →
    Followed catalog nodes node

theorem Sound.length_le {catalog : Catalog ι υ ε ρ} {nodes : List (Node ι κ)}
    {remaining : List Nat} (h : Sound catalog nodes remaining) :
    remaining.length ≤ nodes.length := by
  have hsubset : remaining ⊆ List.range nodes.length := fun position hposition =>
    List.mem_range.mpr (h.remaining_lt position hposition)
  simpa only [List.length_range] using h.remaining_nodup.length_le_of_subset hsubset

theorem Sound.nodes_length_le {catalog : Catalog ι υ ε ρ} {nodes : List (Node ι κ)}
    {remaining : List Nat} (h : Sound catalog nodes remaining) :
    nodes.length ≤ catalog.kinds.length := by
  have hsubset : nodes.map Node.kind ⊆ catalog.kinds := by
    intro kind hkind
    obtain ⟨node, hnode, rfl⟩ := List.mem_map.mp hkind
    rw [(h.faithful node hnode).1]
    exact catalog.complete node.analyzer
  simpa only [List.length_map] using h.distinct.length_le_of_subset hsubset

/-- A new node keeps the invariant if it remains to be followed. -/
theorem Sound.append {catalog : Catalog ι υ ε ρ} {nodes : List (Node ι κ)} {remaining : List Nat}
    (h : Sound catalog nodes remaining) (node : Node ι κ) (hnode : Faithful catalog node)
    (hnew : node.kind ∉ nodes.map Node.kind) :
    Sound catalog (nodes ++ [node]) (nodes.length :: remaining) where
  faithful other hother := by
    rcases List.mem_append.mp hother with hother | hother
    · exact h.faithful other hother
    · rw [List.mem_singleton.mp hother]
      exact hnode
  distinct := by
    rw [List.map_append, List.map_singleton]
    exact (List.nodup_append_comm.mp (List.nodup_cons.mpr ⟨hnew, h.distinct⟩))
  remaining_lt position hposition := by
    rw [List.length_append, List.length_singleton]
    rcases List.mem_cons.mp hposition with rfl | hposition
    · exact Nat.lt_succ_self _
    · exact Nat.lt_succ_of_lt (h.remaining_lt position hposition)
  remaining_nodup :=
    List.nodup_cons.mpr ⟨fun hmem => Nat.lt_irrefl _ (h.remaining_lt _ hmem), h.remaining_nodup⟩
  followed position other hother hposition := by
    rw [List.mem_cons, not_or] at hposition
    have hlt : position < nodes.length := by
      have hle := (List.getElem?_eq_some_iff.mp hother).1
      rw [List.length_append, List.length_singleton] at hle
      omega
    rw [List.getElem?_append_left hlt] at hother
    exact Lists.append (h.followed position other hother hposition.2) [node]

/-- A node whose requirements were followed does not remain. -/
theorem Sound.settle {catalog : Catalog ι υ ε ρ} {nodes : List (Node ι κ)} {position : Nat}
    {remaining : List Nat} (h : Sound catalog nodes (position :: remaining)) {node : Node ι κ}
    (hnode : nodes[position]? = some node) {deps : List Nat}
    (hdeps : Lists nodes deps (catalog.requiredKinds node.analyzer)) :
    Sound catalog (settle nodes position deps) remaining where
  faithful other hother := by
    have hmap := map_settle (fun node => Faithful catalog node) nodes position deps fun _ => rfl
    have hmem : Faithful catalog other ∈ (Discovery.settle nodes position deps).map
        fun node => Faithful catalog node := List.mem_map_of_mem hother
    rw [hmap] at hmem
    obtain ⟨before, hbefore, hsame⟩ := List.mem_map.mp hmem
    rw [← hsame]
    exact h.faithful before hbefore
  distinct := by
    rw [map_settle Node.kind nodes position deps fun _ => rfl]
    exact h.distinct
  remaining_lt other hother := by
    have hlt := h.remaining_lt other (List.mem_cons_of_mem _ hother)
    simpa only [Discovery.settle, List.length_modify] using hlt
  remaining_nodup := (List.nodup_cons.mp h.remaining_nodup).2
  followed other node' hnode' hother := by
    have hlists : ∀ {positions : List Nat} {kinds : List κ}, Lists nodes positions kinds →
        Lists (Discovery.settle nodes position deps) positions kinds := by
      intro positions kinds hlists
      unfold Lists at hlists ⊢
      rw [hlists]
      exact List.map_congr_left fun kind _ => (positionOf_settle nodes position deps kind).symm
    rw [getElem?_settle] at hnode'
    obtain ⟨before, hbefore, rfl⟩ := Option.map_eq_some_iff.mp hnode'
    by_cases hsame : position = other
    · subst hsame
      rw [hnode] at hbefore
      obtain rfl := Option.some.inj hbefore
      simpa only [Followed, if_true] using hlists hdeps
    · rw [if_neg hsame]
      have hmem : other ∉ position :: remaining := by
        rw [List.mem_cons, not_or]
        exact ⟨Ne.symm hsame, hother⟩
      exact hlists (h.followed other before hbefore hmem)

theorem Sound.perm {catalog : Catalog ι υ ε ρ} {nodes : List (Node ι κ)}
    {remaining remaining' : List Nat} (h : Sound catalog nodes remaining)
    (hperm : remaining.Perm remaining') : Sound catalog nodes remaining' where
  faithful := h.faithful
  distinct := h.distinct
  remaining_lt position hposition := h.remaining_lt position (hperm.mem_iff.mpr hposition)
  remaining_nodup := hperm.nodup_iff.mp h.remaining_nodup
  followed position node hnode hposition :=
    h.followed position node hnode fun hmem => hposition (hperm.mem_iff.mp hmem)

namespace Grows

variable {catalog : Catalog ι υ ε ρ} {first second last : Discovery ι κ}

theorem lists (h : Grows catalog first last) {positions : List Nat} {kinds : List κ}
    (hlists : Lists first.nodes positions kinds) : Lists last.nodes positions kinds := by
  obtain ⟨rest, hrest⟩ := h.nodes_eq
  rw [hrest]
  exact hlists.append rest

/-- Meeting analyzers keeps the invariant, also while the requirements of a node are followed that
is not pending any more. -/
theorem sound (h : Grows catalog first last) (remaining : List Nat)
    (hsound : Sound catalog first.nodes (remaining ++ first.pending)) :
    Sound catalog last.nodes (remaining ++ last.pending) := by
  induction h with
  | refl => exact hsound
  | meet i _ hnew ih => exact (ih.append _ ⟨rfl, rfl⟩ hnew).perm List.perm_middle.symm

end Grows

variable (catalog : Catalog ι υ ε ρ)

theorem meet_of_some {discovery : Discovery ι κ} {i : ι} {position : Nat}
    (h : positionOf discovery.nodes (catalog.analyzer i).kind = some position) :
    discovery.meet catalog i = (position, discovery) := by
  unfold positionOf at h
  simp only [meet, h]

theorem meet_of_none {discovery : Discovery ι κ} {i : ι}
    (h : positionOf discovery.nodes (catalog.analyzer i).kind = none) :
    discovery.meet catalog i =
      (discovery.nodes.length,
        { nodes := discovery.nodes ++
            [⟨i, (catalog.analyzer i).kind, (catalog.analyzer i).name, []⟩]
          pending := discovery.nodes.length :: discovery.pending }) := by
  unfold positionOf at h
  simp only [meet, h]

theorem grows_meet (discovery : Discovery ι κ) (i : ι) :
    Grows catalog discovery (discovery.meet catalog i).2 := by
  cases h : positionOf discovery.nodes (catalog.analyzer i).kind with
  | some position =>
    rw [meet_of_some catalog h]
    exact .refl
  | none =>
    rw [meet_of_none catalog h]
    exact .meet i .refl (positionOf_eq_none_iff.mp h)

theorem positionOf_meet (discovery : Discovery ι κ) (i : ι) :
    positionOf (discovery.meet catalog i).2.nodes (catalog.analyzer i).kind =
      some (discovery.meet catalog i).1 := by
  cases h : positionOf discovery.nodes (catalog.analyzer i).kind with
  | some position => rwa [meet_of_some catalog h]
  | none =>
    rw [meet_of_none catalog h]
    unfold positionOf at h ⊢
    rw [List.findIdx?_append, h]
    simp

/-- One more analyzer that is met adds the position of its kind, unless the kind was met before. -/
theorem lists_meetNext (met : List Nat × Discovery ι κ) (i : ι) (kinds : List κ)
    (h : Lists met.2.nodes met.1 kinds) :
    Lists (meetNext catalog met i).2.nodes (meetNext catalog met i).1
      (kinds ++ [(catalog.analyzer i).kind]) := by
  have hlast := positionOf_meet catalog met.2 i
  have hgrown := (grows_meet catalog met.2 i).lists h
  have hmem : (met.2.meet catalog i).1 ∈ met.1 ↔ (catalog.analyzer i).kind ∈ kinds := by
    rw [hgrown.mem_iff]
    constructor
    · rintro ⟨kind, hkind, hposition⟩
      rwa [positionOf_injective hlast hposition]
    · intro hkind
      exact ⟨_, hkind, hlast⟩
  unfold Lists at hgrown ⊢
  simp only [meetNext, List.contains_iff_mem, hmem, eraseDups_concat]
  by_cases hkind : (catalog.analyzer i).kind ∈ kinds
  · simpa only [if_pos hkind] using hgrown
  · simp only [if_neg hkind, List.map_append, hgrown, List.map_cons, List.map_nil, hlast]

theorem grows_foldl_meetNext (met : List Nat × Discovery ι κ) (analyzers : List ι) :
    Grows catalog met.2 (analyzers.foldl (meetNext catalog) met).2 := by
  induction analyzers generalizing met with
  | nil => exact .refl
  | cons i rest ih => exact (grows_meet catalog met.2 i).trans (ih (meetNext catalog met i))

theorem lists_foldl_meetNext (met : List Nat × Discovery ι κ) (analyzers : List ι)
    (kinds : List κ) (h : Lists met.2.nodes met.1 kinds) :
    Lists (analyzers.foldl (meetNext catalog) met).2.nodes
      (analyzers.foldl (meetNext catalog) met).1
      (kinds ++ analyzers.map fun i => (catalog.analyzer i).kind) := by
  induction analyzers generalizing met kinds with
  | nil =>
    rw [List.map_nil, List.append_nil]
    exact h
  | cons i rest ih =>
    have hlists := ih _ _ (lists_meetNext catalog met i kinds h)
    rwa [List.append_assoc] at hlists

/-- Meeting the analyzers of a list answers the positions of their kinds. -/
theorem lists_meetAll (discovery : Discovery ι κ) (analyzers : List ι) :
    Lists (meetAll catalog discovery analyzers).2.nodes (meetAll catalog discovery analyzers).1
        (analyzers.map fun i => (catalog.analyzer i).kind) ∧
      Grows catalog discovery (meetAll catalog discovery analyzers).2 :=
  ⟨lists_foldl_meetNext catalog ([], discovery) analyzers [] rfl,
    grows_foldl_meetNext catalog ([], discovery) analyzers⟩

theorem step_of_pending {discovery : Discovery ι κ} {position : Nat} {rest : List Nat}
    {node : Node ι κ} (hpending : discovery.pending = position :: rest)
    (hnode : discovery.nodes[position]? = some node) :
    discovery.step catalog =
      { nodes := settle
          (meetAll catalog ⟨discovery.nodes, rest⟩
            (catalog.analyzer node.analyzer).requires).2.nodes
          position
          (meetAll catalog ⟨discovery.nodes, rest⟩ (catalog.analyzer node.analyzer).requires).1
        pending :=
          (meetAll catalog ⟨discovery.nodes, rest⟩
            (catalog.analyzer node.analyzer).requires).2.pending } := by
  simp only [step, hpending, hnode]

def followedCount (discovery : Discovery ι κ) : Nat :=
  discovery.nodes.length - discovery.pending.length

/-- A step follows the requirements of one more node, if one is pending. -/
theorem step_sound (discovery : Discovery ι κ)
    (h : Sound catalog discovery.nodes discovery.pending) :
    Sound catalog (discovery.step catalog).nodes (discovery.step catalog).pending ∧
      (discovery.pending ≠ [] →
        discovery.followedCount < (discovery.step catalog).followedCount) := by
  cases hpending : discovery.pending with
  | nil =>
    have hstep : discovery.step catalog = discovery := by simp only [step, hpending]
    rw [hstep]
    exact ⟨h, fun hne => absurd rfl hne⟩
  | cons position rest =>
    rw [hpending] at h
    have hlt : position < discovery.nodes.length := h.remaining_lt position List.mem_cons_self
    have hnode := List.getElem?_eq_getElem hlt
    rw [step_of_pending catalog hpending hnode]
    obtain ⟨hlists, hgrows⟩ := lists_meetAll catalog ⟨discovery.nodes, rest⟩
      (catalog.analyzer discovery.nodes[position].analyzer).requires
    refine ⟨(hgrows.sound [position] h).settle (hgrows.getElem? hnode) hlists, fun _ => ?_⟩
    have hlength := hgrows.length_eq
    have hremaining := (hgrows.sound [position] h).length_le
    have hbefore := h.length_le
    simp only [List.singleton_append, List.length_cons] at hlength hremaining hbefore
    simp only [followedCount, hpending, List.length_cons, settle, List.length_modify]
    omega

theorem steps_of_pending_nil (count : Nat) (discovery : Discovery ι κ)
    (h : discovery.pending = []) : steps catalog count discovery = discovery := by
  induction count with
  | zero => rfl
  | succ count ih =>
    have hstep : discovery.step catalog = discovery := by simp only [step, h]
    rw [steps, hstep, ih]

/-- Steps follow the requirements of as many nodes, unless nothing is left to follow. -/
theorem steps_sound (count : Nat) (discovery : Discovery ι κ)
    (h : Sound catalog discovery.nodes discovery.pending) :
    Sound catalog (steps catalog count discovery).nodes (steps catalog count discovery).pending ∧
      ((steps catalog count discovery).pending = [] ∨
        discovery.followedCount + count ≤ (steps catalog count discovery).followedCount) := by
  induction count generalizing discovery with
  | zero => exact ⟨h, Or.inr (Nat.le_refl _)⟩
  | succ count ih =>
    by_cases hpending : discovery.pending = []
    · rw [steps_of_pending_nil catalog (count + 1) discovery hpending]
      exact ⟨h, Or.inl hpending⟩
    · obtain ⟨hstep, hmore⟩ := step_sound catalog discovery h
      obtain ⟨hsound, hdone⟩ := ih (discovery.step catalog) hstep
      refine ⟨hsound, hdone.imp_right fun hle => ?_⟩
      have hlt := hmore hpending
      rw [steps]
      omega

/-- What holds of the collected nodes: each stands for a kind of its own, and its dependencies are
the positions of what its analyzer requires. -/
structure Collected (catalog : Catalog ι υ ε ρ) (nodes : List (Node ι κ)) : Prop where
  faithful : ∀ node ∈ nodes, Faithful catalog node
  distinct : (nodes.map Node.kind).Nodup
  followed : ∀ node ∈ nodes, Followed catalog nodes node

/-- What has been met once the roots were, before any requirements are followed. -/
def start (roots : List ι) : Discovery ι κ := (meetAll catalog ⟨[], []⟩ roots).2

theorem sound_start (roots : List ι) :
    Sound catalog (start catalog roots).nodes (start catalog roots).pending :=
  (lists_meetAll catalog ⟨[], []⟩ roots).2.sound []
    ⟨by simp, List.nodup_nil, by simp, List.nodup_nil, by simp⟩

/-- The steps suffice: nothing is left to follow. -/
theorem pending_steps (roots : List ι) :
    (steps catalog catalog.kinds.length (start catalog roots)).pending = [] := by
  obtain ⟨hsound, hdone⟩ := steps_sound catalog catalog.kinds.length _ (sound_start catalog roots)
  rcases hdone with hnil | hle
  · exact hnil
  · have hnodes := hsound.nodes_length_le
    have hremaining := hsound.length_le
    unfold followedCount at hle
    apply List.length_eq_zero_iff.mp
    omega

theorem collected_collect (roots : List ι) : Collected catalog (collect catalog roots) := by
  obtain ⟨hsound, -⟩ := steps_sound catalog catalog.kinds.length _ (sound_start catalog roots)
  rw [pending_steps catalog roots] at hsound
  refine ⟨hsound.faithful, hsound.distinct, ?_⟩
  intro node hnode
  obtain ⟨position, hposition⟩ := List.mem_iff_getElem?.mp hnode
  exact hsound.followed position node hposition (List.not_mem_nil)

end Discovery

end ServiceGen.Analysis
