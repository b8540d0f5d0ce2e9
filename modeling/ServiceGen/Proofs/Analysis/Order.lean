import Mathlib.Data.Finset.Card
import Mathlib.Data.Finset.SDiff
import Mathlib.Data.List.Permutation
import ServiceGen.Proofs.Analysis.Graph

/-!
The order in which analyzers are met. Meeting them in preorder would be to meet an analyzer, then
the first thing that it requires with all below it, then the next. What is done instead is to meet
everything that an analyzer requires at once, and to follow what was met last first. Both orders
agree where nothing but the last entry of a list leads any further.
-/
namespace ServiceGen.Analysis

variable {ι υ ε κ : Type} {ρ : κ → Type}

namespace Discovery

def kindsOf (catalog : Catalog ι υ ε ρ) (met : List ι) : List κ :=
  met.map fun i => (catalog.analyzer i).kind

theorem kindsOf_append (catalog : Catalog ι υ ε ρ) (met rest : List ι) :
    kindsOf catalog (met ++ rest) = kindsOf catalog met ++ kindsOf catalog rest :=
  List.map_append

theorem kindsOf_subset {catalog : Catalog ι υ ε ρ} {met last : List ι} (h : met <+: last) :
    kindsOf catalog met ⊆ kindsOf catalog last :=
  (h.map _).subset

/-- A traversal in preorder: from the analyzers met before, through those of a list, to all that
are met in the end. An analyzer of a new kind is met, and what it requires is traversed before the
rest of the list. -/
inductive DepthFirst (catalog : Catalog ι υ ε ρ) : List ι → List ι → List ι → Prop
  | nil (met : List ι) : DepthFirst catalog met [] met
  | known {met rest last : List ι} {i : ι}
      (hknown : (catalog.analyzer i).kind ∈ kindsOf catalog met)
      (hrest : DepthFirst catalog met rest last) : DepthFirst catalog met (i :: rest) last
  | new {met below rest last : List ι} {i : ι}
      (hnew : (catalog.analyzer i).kind ∉ kindsOf catalog met)
      (hbelow : DepthFirst catalog (met ++ [i]) (catalog.analyzer i).requires below)
      (hrest : DepthFirst catalog below rest last) : DepthFirst catalog met (i :: rest) last

namespace DepthFirst

variable {catalog : Catalog ι υ ε ρ} {met list last last' : List ι}

theorem isPrefix (h : DepthFirst catalog met list last) : met <+: last := by
  induction h with
  | nil met => exact List.prefix_rfl
  | known _ _ ih => exact ih
  | new _ _ _ ihbelow ihrest => exact ((List.prefix_append _ _).trans ihbelow).trans ihrest

theorem unique (h : DepthFirst catalog met list last) (h' : DepthFirst catalog met list last') :
    last = last' := by
  induction h generalizing last' with
  | nil met =>
    cases h'
    rfl
  | known hknown _ ih =>
    cases h' with
    | known _ hrest => exact ih hrest
    | new hnew _ _ => exact absurd hknown hnew
  | new hnew _ _ ihbelow ihrest =>
    cases h' with
    | known hknown _ => exact absurd hknown hnew
    | new _ hbelow hrest =>
      obtain rfl := ihbelow hbelow
      exact ihrest hrest

/-- Analyzers of kinds that were met lead nowhere. -/
theorem eq_of_known (h : DepthFirst catalog met list last)
    (hknown : kindsOf catalog list ⊆ kindsOf catalog met) : last = met := by
  induction h with
  | nil met => rfl
  | known _ _ ih => exact ih fun kind hkind => hknown (List.mem_cons_of_mem _ hkind)
  | new hnew _ _ _ _ => exact absurd (hknown List.mem_cons_self) hnew

end DepthFirst

/-- Whether all entries of a list but the last require only kinds that stand before them in the
list, or that are known. -/
def Tapered (catalog : Catalog ι υ ε ρ) (known : List κ) : List ι → Prop
  | [] => True
  | [_] => True
  | i :: next :: rest =>
    catalog.requiredKinds i ⊆ known ∧
      Tapered catalog (known ++ [(catalog.analyzer i).kind]) (next :: rest)

instance Tapered.decidable [DecidableEq κ] (catalog : Catalog ι υ ε ρ) :
    (known : List κ) → (list : List ι) → Decidable (Tapered catalog known list)
  | _, [] => isTrue trivial
  | _, [_] => isTrue trivial
  | known, i :: next :: rest =>
    have := Tapered.decidable catalog (known ++ [(catalog.analyzer i).kind]) (next :: rest)
    inferInstanceAs (Decidable (_ ∧ _))

theorem Tapered.tail {known : List κ} {i : ι} {rest : List ι}
    (h : Tapered catalog known (i :: rest)) :
    Tapered catalog (known ++ [(catalog.analyzer i).kind]) rest := by
  cases rest with
  | nil => trivial
  | cons next rest => exact h.2

/-- Whether of what each analyzer requires only the last entry leads further than to what was met
when the analyzer was. -/
def Tapers (catalog : Catalog ι υ ε ρ) (met : List ι) : Prop :=
  ∀ position (h : position < met.length),
    Tapered catalog (kindsOf catalog (met.take (position + 1)))
      (catalog.analyzer met[position]).requires

instance [DecidableEq κ] (catalog : Catalog ι υ ε ρ) (met : List ι) :
    Decidable (Tapers catalog met) :=
  inferInstanceAs (Decidable (∀ position (_ : position < met.length), _))

theorem Tapers.tapered {catalog : Catalog ι υ ε ρ} {found front : List ι} {i : ι}
    (h : Tapers catalog found) (hfront : front ++ [i] <+: found) :
    Tapered catalog (kindsOf catalog (front ++ [i])) (catalog.analyzer i).requires := by
  obtain ⟨rest, rfl⟩ := hfront
  have hposition := h front.length (by simp)
  simpa [List.take_append, List.take_of_length_le (Nat.le_succ front.length)] using hposition

/-- Whether a discovery has met some analyzers and is to follow some of them. -/
structure Stacks (catalog : Catalog ι υ ε ρ) (discovery : Discovery ι κ)
    (met following : List ι) : Prop where
  analyzers : discovery.nodes.map Node.analyzer = met
  kinds : discovery.nodes.map Node.kind = kindsOf catalog met
  pending : discovery.pending.map (fun position =>
    (discovery.nodes[position]?).map Node.analyzer) = following.map some

namespace Stacks

variable {catalog : Catalog ι υ ε ρ} {discovery : Discovery ι κ} {met following : List ι}

/-- A node that is pending is found among the nodes, also when others are added. -/
theorem getElem?_append (h : Stacks catalog discovery met following) {position : Nat}
    (hposition : position ∈ discovery.pending) (nodes : List (Node ι κ)) :
    (discovery.nodes ++ nodes)[position]? = discovery.nodes[position]? := by
  have hmem : (discovery.nodes[position]?).map Node.analyzer ∈ following.map some := by
    rw [← h.pending]
    exact List.mem_map_of_mem hposition
  obtain ⟨i, -, hi⟩ := List.mem_map.mp hmem
  obtain ⟨node, hnode, -⟩ := Option.map_eq_some_iff.mp hi.symm
  exact List.getElem?_append_left (List.getElem?_eq_some_iff.mp hnode).1

theorem settle {nodes : List (Node ι κ)} {pending : List Nat}
    (h : Stacks catalog ⟨nodes, pending⟩ met following) (position : Nat) (deps : List Nat) :
    Stacks catalog ⟨Discovery.settle nodes position deps, pending⟩ met following where
  analyzers := (map_settle Node.analyzer nodes position deps fun _ => rfl).trans h.analyzers
  kinds := (map_settle Node.kind nodes position deps fun _ => rfl).trans h.kinds
  pending := by
    rw [← h.pending]
    refine List.map_congr_left fun other _ => ?_
    rw [← List.getElem?_map, map_settle Node.analyzer nodes position deps fun _ => rfl,
      List.getElem?_map]

end Stacks

section

variable [DecidableEq κ] (catalog : Catalog ι υ ε ρ)

/-- The kinds that were not met yet. -/
def unmet (met : List ι) : Finset κ :=
  catalog.kinds.toFinset \ (kindsOf catalog met).toFinset

theorem card_unmet_le {met last : List ι} (h : met <+: last) :
    (unmet catalog last).card ≤ (unmet catalog met).card := by
  apply Finset.card_le_card
  apply Finset.sdiff_subset_sdiff (Finset.Subset.refl _)
  intro kind hkind
  exact List.mem_toFinset.mpr (kindsOf_subset h (List.mem_toFinset.mp hkind))

theorem card_unmet_concat {met : List ι} {i : ι}
    (hnew : (catalog.analyzer i).kind ∉ kindsOf catalog met) :
    (unmet catalog (met ++ [i])).card < (unmet catalog met).card := by
  apply Finset.card_lt_card
  refine ⟨?_, fun hsubset => ?_⟩
  · apply Finset.sdiff_subset_sdiff (Finset.Subset.refl _)
    intro kind hkind
    exact List.mem_toFinset.mpr
      (kindsOf_subset (List.prefix_append _ _) (List.mem_toFinset.mp hkind))
  · have hmem : (catalog.analyzer i).kind ∈ unmet catalog met := by
      simpa [unmet] using ⟨catalog.complete i, hnew⟩
    have hgone := hsubset hmem
    simp [unmet, kindsOf] at hgone

/-- Kinds are finitely many, so that a traversal comes to an end. -/
theorem exists_depthFirst_of_card (bound : Nat) (met list : List ι)
    (hbound : (unmet catalog met).card < bound) :
    ∃ last, DepthFirst catalog met list last := by
  induction bound generalizing met list with
  | zero => exact absurd hbound (Nat.not_lt_zero _)
  | succ bound ih =>
    induction list generalizing met with
    | nil => exact ⟨met, .nil met⟩
    | cons i rest ihrest =>
      by_cases hkind : (catalog.analyzer i).kind ∈ kindsOf catalog met
      · obtain ⟨last, hrest⟩ := ihrest met hbound
        exact ⟨last, .known hkind hrest⟩
      · have hless := card_unmet_concat catalog hkind
        obtain ⟨below, hbelow⟩ := ih (met ++ [i]) (catalog.analyzer i).requires (by omega)
        have hle := card_unmet_le catalog ((List.prefix_append met [i]).trans hbelow.isPrefix)
        obtain ⟨last, hrest⟩ := ihrest below (by omega)
        exact ⟨last, .new hkind hbelow hrest⟩

theorem existsUnique_depthFirst (met list : List ι) :
    ∃! last, DepthFirst catalog met list last := by
  obtain ⟨last, hlast⟩ := exists_depthFirst_of_card catalog _ met list (Nat.lt_succ_self _)
  exact ⟨last, hlast, fun other hother => hother.unique hlast⟩

/-- The analyzers of a list that are met newly, each kind once. -/
def fresh (met : List ι) : List ι → List ι
  | [] => []
  | i :: rest =>
    if (catalog.analyzer i).kind ∈ kindsOf catalog met then fresh met rest
    else i :: fresh (met ++ [i]) rest

theorem fresh_of_known {met list : List ι}
    (hknown : kindsOf catalog list ⊆ kindsOf catalog met) : fresh catalog met list = [] := by
  induction list with
  | nil => rfl
  | cons i rest ih =>
    rw [fresh, if_pos (hknown List.mem_cons_self)]
    exact ih fun kind hkind => hknown (List.mem_cons_of_mem _ hkind)

/-- A traversal that follows first what was met last: from the analyzers met before, through those
that are to be followed, to all that are met in the end. Following an analyzer meets at once
whatever it requires, and then follows what was new, the last first. -/
inductive LastFirst : List ι → List ι → List ι → Prop
  | nil (met : List ι) : LastFirst met [] met
  | follow {met below rest last : List ι} {i : ι}
      (hbelow : LastFirst (met ++ fresh catalog met (catalog.analyzer i).requires)
        (fresh catalog met (catalog.analyzer i).requires).reverse below)
      (hrest : LastFirst below rest last) : LastFirst met (i :: rest) last

variable {catalog}

theorem LastFirst.isPrefix {met following last : List ι}
    (h : LastFirst catalog met following last) : met <+: last := by
  induction h with
  | nil met => exact List.prefix_rfl
  | follow _ _ ihbelow ihrest => exact ((List.prefix_append _ _).trans ihbelow).trans ihrest

theorem lastFirst_append {met first rest last : List ι} :
    LastFirst catalog met (first ++ rest) last ↔
      ∃ middle, LastFirst catalog met first middle ∧ LastFirst catalog middle rest last := by
  induction first generalizing met with
  | nil =>
    constructor
    · intro h
      exact ⟨met, .nil met, h⟩
    · rintro ⟨middle, hfirst, hrest⟩
      cases hfirst
      exact hrest
  | cons i others ih =>
    constructor
    · intro h
      cases h with
      | follow hbelow hothers =>
        obtain ⟨middle, hfirst, hrest⟩ := ih.mp hothers
        exact ⟨middle, .follow hbelow hfirst, hrest⟩
    · rintro ⟨middle, hfirst, hrest⟩
      cases hfirst with
      | follow hbelow hothers => exact .follow hbelow (ih.mpr ⟨middle, hothers, hrest⟩)

/-- Following an analyzer that requires only what was met leads nowhere. -/
theorem LastFirst.eq_of_known {met last : List ι} {i : ι} (h : LastFirst catalog met [i] last)
    (hknown : catalog.requiredKinds i ⊆ kindsOf catalog met) : last = met := by
  cases h with
  | follow hbelow hrest =>
    rw [fresh_of_known catalog hknown, List.append_nil, List.reverse_nil] at hbelow
    cases hbelow
    cases hrest
    rfl

theorem fresh_cons (met : List ι) (i : ι) (rest : List ι) :
    fresh catalog met (i :: rest) =
      fresh catalog met [i] ++ fresh catalog (met ++ fresh catalog met [i]) rest := by
  by_cases hkind : (catalog.analyzer i).kind ∈ kindsOf catalog met
  · simp [fresh, hkind]
  · simp [fresh, hkind]

namespace Stacks

variable {discovery : Discovery ι κ} {met following : List ι}

theorem meet (h : Stacks catalog discovery met following) (i : ι) :
    Stacks catalog (discovery.meet catalog i).2 (met ++ fresh catalog met [i])
      (fresh catalog met [i] ++ following) := by
  by_cases hkind : (catalog.analyzer i).kind ∈ kindsOf catalog met
  · have hfresh : fresh catalog met [i] = [] := by simp [fresh, hkind]
    rw [← h.kinds] at hkind
    obtain ⟨position, hposition⟩ := Option.ne_none_iff_exists'.mp
      (mt positionOf_eq_none_iff.mp (not_not_intro hkind))
    rw [meet_of_some catalog hposition, hfresh, List.append_nil, List.nil_append]
    exact h
  · have hfresh : fresh catalog met [i] = [i] := by simp [fresh, hkind]
    rw [← h.kinds] at hkind
    rw [meet_of_none catalog (positionOf_eq_none_iff.mpr hkind), hfresh]
    refine ⟨by simp [h.analyzers], by simp [h.kinds, kindsOf], ?_⟩
    rw [List.map_cons, List.getElem?_concat_length, List.singleton_append, List.map_cons,
      ← h.pending]
    refine congrArg (List.cons (some i)) (List.map_congr_left fun position hposition => ?_)
    rw [h.getElem?_append hposition]

theorem foldl_meetNext (start : List Nat × Discovery ι κ)
    (h : Stacks catalog start.2 met following) (list : List ι) :
    Stacks catalog (list.foldl (meetNext catalog) start).2 (met ++ fresh catalog met list)
      ((fresh catalog met list).reverse ++ following) := by
  induction list generalizing start met following with
  | nil => simpa [fresh] using h
  | cons i rest ih =>
    have hmet : Stacks catalog (meetNext catalog start i).2 (met ++ fresh catalog met [i])
        ((fresh catalog met [i]).reverse ++ following) := by
      have hsingle : (fresh catalog met [i]).reverse = fresh catalog met [i] := by
        rw [fresh]
        split <;> rfl
      rw [hsingle]
      exact h.meet i
    rw [List.foldl_cons, fresh_cons, List.reverse_append, ← List.append_assoc,
      List.append_assoc (fresh catalog _ rest).reverse]
    exact ih _ hmet

/-- A step follows what is to be followed first. -/
theorem step {i : ι} (h : Stacks catalog discovery met (i :: following)) :
    Stacks catalog (discovery.step catalog)
      (met ++ fresh catalog met (catalog.analyzer i).requires)
      ((fresh catalog met (catalog.analyzer i).requires).reverse ++ following) := by
  obtain ⟨position, rest, hpending, hposition, hrest⟩ := List.map_eq_cons_iff.mp h.pending
  obtain ⟨node, hnode, rfl⟩ := Option.map_eq_some_iff.mp hposition
  rw [step_of_pending catalog hpending hnode]
  have hstart : Stacks catalog ⟨discovery.nodes, rest⟩ met following :=
    ⟨h.analyzers, h.kinds, hrest⟩
  exact (hstart.foldl_meetNext ([], ⟨discovery.nodes, rest⟩) _).settle _ _

end Stacks

/-- Steps that leave nothing to follow traverse what was to be followed, the last first. -/
theorem lastFirst_steps (count : Nat) {discovery : Discovery ι κ} {met following : List ι}
    (h : Stacks catalog discovery met following)
    (hdone : (steps catalog count discovery).pending = []) :
    LastFirst catalog met following
      ((steps catalog count discovery).nodes.map Node.analyzer) := by
  induction count generalizing discovery met following with
  | zero =>
    have hpending : following = [] := by
      have hmap := h.pending
      rw [show discovery.pending = [] from hdone, List.map_nil] at hmap
      exact List.map_eq_nil_iff.mp hmap.symm
    rw [hpending, steps, h.analyzers]
    exact .nil met
  | succ count ih =>
    cases following with
    | nil =>
      have hpending : discovery.pending = [] := List.map_eq_nil_iff.mp h.pending
      rw [steps_of_pending_nil catalog _ _ hpending, h.analyzers]
      exact .nil met
    | cons i following =>
      obtain ⟨below, hbelow, hrest⟩ := lastFirst_append.mp (ih h.step hdone)
      exact .follow hbelow hrest

/-- What is collected for some roots is met in that order, the roots first. -/
theorem lastFirst_collect (catalog : Catalog ι υ ε ρ) (roots : List ι) :
    LastFirst catalog (fresh catalog [] roots) (fresh catalog [] roots).reverse
      ((collect catalog roots).map Node.analyzer) := by
  have hnone : Stacks catalog ⟨[], []⟩ [] [] := ⟨rfl, rfl, rfl⟩
  have hstart := hnone.foldl_meetNext ([], ⟨[], []⟩) roots
  rw [List.nil_append, List.append_nil] at hstart
  exact lastFirst_steps _ hstart (pending_steps catalog roots)

/-- Where only last entries lead further, following the last first keeps to the preorder. -/
theorem DepthFirst.eq_of_tapered {met list last found : List ι} {known : List κ}
    (h : DepthFirst catalog met list last) (htapered : Tapered catalog known list)
    (hknown : known ⊆ kindsOf catalog met)
    (hfound : LastFirst catalog (met ++ fresh catalog met list) (fresh catalog met list).reverse
      found)
    (htapers : Tapers catalog found) : found = last := by
  induction h generalizing found known with
  | nil met =>
    rw [fresh, List.append_nil] at hfound
    cases hfound
    rfl
  | @known met rest last i hkind _ ih =>
    rw [fresh, if_pos hkind] at hfound
    refine ih htapered.tail ?_ hfound htapers
    exact List.append_subset.mpr ⟨hknown, by simpa using hkind⟩
  | @new met below rest last i hkind hbelow hrest ihbelow ihrest =>
    rw [fresh, if_neg hkind, List.append_cons, List.reverse_cons, lastFirst_append] at hfound
    obtain ⟨middle, hmiddle, hlast⟩ := hfound
    cases rest with
    | nil =>
      -- the last entry is followed at once, as in preorder
      rw [fresh, List.append_nil, List.reverse_nil] at hmiddle
      cases hmiddle
      cases hrest
      cases hlast with
      | follow hfollow hnil =>
        cases hnil
        have hfront : met ++ [i] <+: found := (List.prefix_append _ _).trans hfollow.isPrefix
        exact ihbelow (htapers.tapered hfront) (List.Subset.refl _) hfollow htapers
    | cons next rest =>
      -- any other entry leads nowhere, then or later
      have hrequired : catalog.requiredKinds i ⊆ kindsOf catalog (met ++ [i]) := by
        rw [kindsOf_append]
        exact List.Subset.trans (List.Subset.trans htapered.1 hknown)
          (List.subset_append_left _ _)
      obtain rfl := hbelow.eq_of_known hrequired
      have hfront : met ++ [i] <+: middle := (List.prefix_append _ _).trans hmiddle.isPrefix
      obtain rfl := hlast.eq_of_known (List.Subset.trans hrequired (kindsOf_subset hfront))
      refine ihrest htapered.2 ?_ hmiddle htapers
      rw [kindsOf_append]
      exact List.append_subset.mpr ⟨List.Subset.trans hknown (List.subset_append_left _ _),
        List.subset_append_right _ _⟩

end

end Discovery

namespace Graph

open Discovery

variable [DecidableEq κ] {catalog : Catalog ι υ ε ρ} {roots : List ι} {graph : Graph ι κ}

def namesOf (catalog : Catalog ι υ ε ρ) (met : List ι) : List String :=
  met.map fun i => (catalog.analyzer i).name

theorem names_eq (hbuild : build catalog roots = .ok graph) :
    graph.names = namesOf catalog (graph.nodes.map Node.analyzer) := by
  rw [names, namesOf, List.map_map]
  apply List.map_congr_left
  intro node hnode
  exact ((built_of_build hbuild).collected.faithful node hnode).2

/-- The names of a graph are those of its analyzers in the order in which they are met: the roots
first, and from the last of these on, whatever is required by what was met last. From the roots
there is one traversal in preorder. The names are met in its order where, of the roots and of what
each analyzer requires, only the last leads any further. -/
theorem names_in_order (hbuild : build catalog roots = .ok graph) :
    (∃ order, LastFirst catalog (fresh catalog [] roots) (fresh catalog [] roots).reverse order ∧
      graph.nodes.map Node.analyzer = order ∧ graph.names = namesOf catalog order) ∧
    (∃! order, DepthFirst catalog [] roots order) ∧
    (Tapered catalog [] roots → Tapers catalog (graph.nodes.map Node.analyzer) →
      ∃ order, DepthFirst catalog [] roots order ∧
        graph.nodes.map Node.analyzer = order ∧ graph.names = namesOf catalog order) := by
  have hnames := names_eq hbuild
  have hfound : LastFirst catalog (fresh catalog [] roots) (fresh catalog [] roots).reverse
      (graph.nodes.map Node.analyzer) := by
    obtain ⟨-, rfl⟩ := eq_of_build hbuild
    exact lastFirst_collect catalog roots
  have hunique := existsUnique_depthFirst catalog [] roots
  refine ⟨⟨_, hfound, rfl, hnames⟩, hunique, fun hroots htapers => ?_⟩
  obtain ⟨order, horder, -⟩ := hunique
  have hsame := horder.eq_of_tapered hroots (List.nil_subset _) hfound htapers
  exact ⟨order, horder, hsame, hsame ▸ hnames⟩

inductive Seat where
  | app
  | front
  | back
  | log
  deriving DecidableEq

/-- An application with a front that needs a log, beside a back. -/
def desk : Catalog Seat Nat String fun _ : Seat => Nat where
  analyzer
    | .app => ⟨.app, "app", [.front, .back], fun _ => ⟨[], .value 0⟩⟩
    | .front => ⟨.front, "front", [.log], fun _ => ⟨[], .value 1⟩⟩
    | .back => ⟨.back, "back", [], fun _ => ⟨[], .value 2⟩⟩
    | .log => ⟨.log, "log", [], fun _ => ⟨[], .value 3⟩⟩
  kinds := [.app, .front, .back, .log]
  complete i := by cases i <;> decide

/-- When the log and the front are roots in front of the application, all are met in preorder. -/
theorem desk_in_order :
    ∃ graph, build desk [.log, .front, .app] = .ok graph ∧
      Tapered desk [] [.log, .front, .app] ∧ Tapers desk (graph.nodes.map Node.analyzer) ∧
      ∃ order, DepthFirst desk [] [.log, .front, .app] order ∧
        graph.names = namesOf desk order := by
  have hbuild : build desk [.log, .front, .app] = .ok
      { nodes := [⟨.log, .log, "log", []⟩, ⟨.front, .front, "front", [0]⟩,
          ⟨.app, .app, "app", [1, 3]⟩, ⟨.back, .back, "back", []⟩]
        layers := [[0, 3], [1], [2]] } := by
    cbv
  have hroots : Tapered desk [] [.log, .front, .app] := by decide
  have htapers : Tapers desk [.log, .front, .app, .back] := by decide
  obtain ⟨order, horder, -, hnames⟩ := (names_in_order hbuild).2.2 hroots htapers
  exact ⟨_, hbuild, hroots, htapers, order, horder, hnames⟩

/-- When the application is the only root, its back is met before the log that its front needs. In
preorder the log comes first. -/
theorem desk_out_of_order :
    ∃ graph order, build desk [.app] = .ok graph ∧ DepthFirst desk [] [.app] order ∧
      (∀ other, DepthFirst desk [] [.app] other → other = order) ∧
      graph.names = ["app", "front", "back", "log"] ∧
      namesOf desk order = ["app", "front", "log", "back"] := by
  have hbuild : build desk [.app] = .ok
      { nodes := [⟨.app, .app, "app", [1, 2]⟩, ⟨.front, .front, "front", [3]⟩,
          ⟨.back, .back, "back", []⟩, ⟨.log, .log, "log", []⟩]
        layers := [[2, 3], [1], [0]] } := by
    cbv
  have horder : DepthFirst desk [] [.app] [.app, .front, .log, .back] :=
    .new (by decide)
      (.new (by decide) (.new (by decide) (.nil _) (.nil _)) (.new (by decide) (.nil _) (.nil _)))
      (.nil _)
  exact ⟨_, _, hbuild, horder, fun _ hother => hother.unique horder, rfl, rfl⟩

end Graph

end ServiceGen.Analysis
