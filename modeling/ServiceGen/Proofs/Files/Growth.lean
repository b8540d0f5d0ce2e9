import Mathlib.Data.List.Perm.Basic
import Mathlib.Data.String.Basic
import ServiceGen.Proofs.Files.Search

/-!
Searching in a tree that has grown. A pattern finds what it found before, in the same order, and
beside that only what is new: what is old is below nothing new. The one way from what is new back to
what is old are two dots behind a new directory.
-/
namespace ServiceGen

namespace FileTree

open Files

variable {tree later : FileTree}

theorem inOrder_trans {a b c : Place} (hab : inOrder a b = true) (hbc : inOrder b c = true) :
    inOrder a c = true := by
  induction a generalizing b c with
  | nil => rfl
  | cons x xs ih =>
    cases b with
    | nil => exact absurd hab (by simp [inOrder])
    | cons y ys =>
      cases c with
      | nil => exact absurd hbc (by simp [inOrder])
      | cons z zs =>
        simp only [inOrder, Bool.or_eq_true, Bool.and_eq_true, decide_eq_true_eq, beq_iff_eq]
          at hab hbc ⊢
        rcases hab with hab | ⟨rfl, hab⟩
        · rcases hbc with hbc | ⟨rfl, hbc⟩
          · exact .inl (lt_trans hab hbc)
          · exact .inl hab
        · rcases hbc with hbc | ⟨rfl, hbc⟩
          · exact .inl hbc
          · exact .inr ⟨rfl, ih hab hbc⟩

theorem inOrder_total (a b : Place) : (inOrder a b || inOrder b a) = true := by
  induction a generalizing b with
  | nil => rfl
  | cons x xs ih =>
    cases b with
    | nil => rfl
    | cons y ys =>
      simp only [inOrder, Bool.or_eq_true, Bool.and_eq_true, decide_eq_true_eq, beq_iff_eq]
      rcases lt_trichotomy x y with hlt | rfl | hgt
      · exact .inl (.inl hlt)
      · have hrest : inOrder xs ys = true ∨ inOrder ys xs = true := by simpa using ih ys
        exact hrest.imp (fun h => .inr ⟨rfl, h⟩) fun h => .inr ⟨rfl, h⟩
      · exact .inr (.inl hgt)

theorem inOrder_antisymm {a b : Place} (hab : inOrder a b = true) (hba : inOrder b a = true) :
    a = b := by
  induction a generalizing b with
  | nil =>
    cases b with
    | nil => rfl
    | cons y ys => exact absurd hba (by simp [inOrder])
  | cons x xs ih =>
    cases b with
    | nil => exact absurd hab (by simp [inOrder])
    | cons y ys =>
      simp only [inOrder, Bool.or_eq_true, Bool.and_eq_true, decide_eq_true_eq, beq_iff_eq]
        at hab hba
      rcases hab with hab | ⟨rfl, hab⟩
      · rcases hba with hba | ⟨rfl, -⟩
        · exact absurd hba (lt_asymm hab)
        · exact absurd hab (lt_irrefl _)
      · rcases hba with hba | ⟨-, hba⟩
        · exact absurd hba (lt_irrefl _)
        · rw [ih hab hba]

/-- What is old comes in the same order in a tree that has grown. -/
theorem filter_arranged (hsound : Sound tree) (hsound' : Sound later) (hgrows : Grows tree later)
    (meets : Place → Bool) :
    (later.arranged meets).filter tree.has = tree.arranged meets := by
  have hsorted (any : FileTree) : (any.arranged meets).Pairwise fun a b => inOrder a b = true :=
    @List.pairwise_mergeSort _ inOrder (fun _ _ _ => inOrder_trans) inOrder_total _
  have hnodup {any : FileTree} (hany : Sound any) : (any.arranged meets).Nodup :=
    (List.mergeSort_perm _ _).nodup_iff.mpr (hany.distinct.filter _)
  refine List.Perm.eq_of_pairwise (fun _ _ _ _ => inOrder_antisymm)
    ((hsorted later).filter _) (hsorted tree) ?_
  refine (List.perm_ext_iff_of_nodup ((hnodup hsound').filter _) (hnodup hsound)).mpr ?_
  intro place
  rw [List.mem_filter, mem_arranged, mem_arranged]
  constructor
  · rintro ⟨⟨hlater, hmeets⟩, hhas⟩
    exact ⟨(has_iff.mp hhas).resolve_left (hsound'.proper hlater).1, hmeets⟩
  · rintro ⟨hplace, hmeets⟩
    have hhas : tree.has place = true := has_iff.mpr (.inr hplace)
    have hlater := has_iff.mp (hgrows.has hhas)
    exact ⟨⟨hlater.resolve_left (hsound.proper hplace).1, hmeets⟩, hhas⟩

theorem filter_children (hsound : Sound tree) (hsound' : Sound later) (hgrows : Grows tree later)
    (place : Place) : (later.children place).filter tree.has = tree.children place := by
  rw [children_eq, children_eq, filter_arranged hsound hsound' hgrows]

theorem filter_below (hsound : Sound tree) (hsound' : Sound later) (hgrows : Grows tree later)
    (place : Place) : (later.below place).filter tree.has = tree.below place := by
  rw [below_eq, below_eq, filter_arranged hsound hsound' hgrows]

theorem has_of_has_append (hsound : Sound tree) {place more : Place} (hne : more ≠ [])
    (hhas : tree.has (place ++ more) = true) : tree.has place = true :=
  has_of_isDirectory (hsound.isDirectory_of_append hne hhas)

theorem below_of_not_has (hsound : Sound tree) {place : Place} (hnot : tree.has place = false) :
    tree.below place = [] := by
  refine List.eq_nil_iff_forall_not_mem.mpr fun other hother => ?_
  obtain ⟨hhas, more, hne, rfl⟩ := mem_below hother
  simp [has_of_has_append hsound hne hhas] at hnot

/-- From an old place, a step leads where it led. -/
theorem step_of_has (hgrows : Grows tree later) {place : Place} (hhas : tree.has place = true)
    (component : Component) : later.step place component = tree.step place component := by
  cases component <;> simp only [step, hgrows.isDirectory_eq hhas]

end FileTree

namespace Files

open FileTree

namespace NamePattern

/-- Whether a part of a path that fits the pattern may be two dots, which lead to the directory
above. -/
def climbs (pattern : NamePattern) : Bool :=
  match pattern.literal? with
  | some part => part == ['.', '.']
  | none => pattern.head? == some (.exactly '.') && pattern.matchesText ['.', '.']

end NamePattern

namespace Segment

def climbs : Segment → Bool
  | .name pattern => pattern.climbs
  | .deep => false

end Segment

namespace Found

variable {tree later : FileTree} {found next : Found}

/-- The directories out of which a search climbs by two dots. -/
def climbed (tree : FileTree) : List Segment → Found → List Place
  | [], _ => []
  | .deep :: .deep :: rest, found => climbed tree (.deep :: rest) found
  | [.deep], _ => []
  | .deep :: .name pattern :: rest, found =>
    let fitting := ((tree.below found.place).map found.inside).filter fun entry =>
      pattern.matchesText entry.name
    fitting.flatMap (climbed tree rest)
  | .name pattern :: rest, found =>
    (if pattern.climbs && tree.isDirectory found.place then [found.place] else []) ++
      (found.nexts tree pattern).flatMap (climbed tree rest)

theorem climbed_of_not_climbs :
    ∀ (segments : List Segment) (found : Found), (∀ segment ∈ segments, segment.climbs = false) →
      found.climbed tree segments = []
  | [], _, _ => rfl
  | .deep :: .deep :: rest, found, hnot =>
    climbed_of_not_climbs (.deep :: rest) found fun segment hsegment =>
      hnot segment (List.mem_cons_of_mem _ hsegment)
  | [.deep], _, _ => rfl
  | .deep :: .name pattern :: rest, found, hnot => by
    rw [climbed]
    exact List.flatMap_eq_nil_iff.mpr fun entry _ =>
      climbed_of_not_climbs rest entry fun segment hsegment =>
        hnot segment (List.mem_cons_of_mem _ (List.mem_cons_of_mem _ hsegment))
  | .name pattern :: rest, found, hnot => by
    have hpattern : pattern.climbs = false := hnot (.name pattern) List.mem_cons_self
    rw [climbed, hpattern, Bool.false_and, if_neg (by simp), List.nil_append]
    exact List.flatMap_eq_nil_iff.mpr fun entry _ =>
      climbed_of_not_climbs rest entry fun segment hsegment =>
        hnot segment (List.mem_cons_of_mem _ hsegment)

/-- Whether what was found was there already in an older tree. -/
def isOld (tree : FileTree) (found : Found) : Bool := tree.has found.place

/-- The old part of a list of pieces, of which those that are not old have no old part. -/
theorem filter_flatMap_eq {α β : Type} {as : List α} {f g : α → List β} {old : α → Bool}
    {old' : β → Bool} (heach : ∀ a ∈ as, (f a).filter old' = if old a then g a else []) :
    (as.flatMap f).filter old' = (as.filter old).flatMap g := by
  induction as with
  | nil => rfl
  | cons a rest ih =>
    rw [List.flatMap_cons, List.filter_append, heach a List.mem_cons_self,
      ih fun b hb => heach b (List.mem_cons_of_mem _ hb), List.filter_cons]
    split
    · rw [List.flatMap_cons]
    · rw [List.nil_append]

/-- What is old of the things inside is what was inside before. -/
theorem filter_inside {places : List Place} (found : Found) (meets : Found → Bool) :
    ((places.map found.inside).filter meets).filter (isOld tree) =
      ((places.filter tree.has).map found.inside).filter meets := by
  have hold : isOld tree ∘ found.inside = tree.has := rfl
  rw [List.filter_filter, ← hold, ← List.filter_map, List.filter_filter]
  simp only [Bool.and_comm]

theorem isOld_of_mem_dots (hsound : Sound tree) (hold : found.isOld tree = true)
    {pattern : NamePattern} (hnext : next ∈ found.dots pattern) : next.isOld tree = true := by
  rw [dots] at hnext
  split at hnext
  · rcases List.mem_append.mp hnext with hnext | hnext
    · split at hnext
      · obtain rfl := List.mem_singleton.mp hnext
        exact has_of_isDirectory (hsound.isDirectory_dropLast hold)
      · exact absurd hnext List.not_mem_nil
    · split at hnext
      · obtain rfl := List.mem_singleton.mp hnext
        exact hold
      · exact absurd hnext List.not_mem_nil
  · exact absurd hnext List.not_mem_nil

/-- Nothing that is not below an old place is old, unless two dots lead back. -/
theorem not_isOld_of_mem_dots (hnew : found.isOld tree = false) {pattern : NamePattern}
    (hliteral : pattern.literal? = none) (hclimbs : pattern.climbs = false)
    (hnext : next ∈ found.dots pattern) : next.isOld tree = false := by
  rw [NamePattern.climbs, hliteral] at hclimbs
  rw [dots] at hnext
  split at hnext
  · next hhead =>
    rcases List.mem_append.mp hnext with hnext | hnext
    · split at hnext
      · next habove => simp [hhead, habove] at hclimbs
      · exact absurd hnext List.not_mem_nil
    · split at hnext
      · obtain rfl := List.mem_singleton.mp hnext
        exact hnew
      · exact absurd hnext List.not_mem_nil
  · exact absurd hnext List.not_mem_nil

theorem not_has_append (hsound : Sound tree) (hnew : found.isOld tree = false) {more : Place}
    (hne : more ≠ []) : tree.has (found.place ++ more) = false := by
  rw [← Bool.not_eq_true]
  intro hhas
  exact absurd (has_of_has_append hsound hne hhas) (by simpa [isOld] using hnew)

section old

variable (hsound : Sound tree) (hsound' : Sound later) (hgrows : Grows tree later)
include hsound hsound' hgrows

theorem filter_fitting (found : Found) (pattern : NamePattern) :
    (((later.below found.place).map found.inside).filter fun entry =>
        pattern.matchesText entry.name).filter (isOld tree) =
      ((tree.below found.place).map found.inside).filter fun entry =>
        pattern.matchesText entry.name := by
  rw [filter_inside, filter_below hsound hsound' hgrows]

theorem filter_directories (found : Found) :
    (((later.below found.place).map found.inside).filter (later.isDirectory ·.place)).filter
        (isOld tree) =
      ((tree.below found.place).map found.inside).filter (tree.isDirectory ·.place) := by
  rw [filter_inside, filter_below hsound hsound' hgrows]
  refine List.filter_congr fun entry hentry => ?_
  obtain ⟨place, hplace, rfl⟩ := List.mem_map.mp hentry
  exact hgrows.isDirectory_eq (mem_below hplace).1

theorem filter_entries (hold : found.isOld tree = true) (pattern : NamePattern) :
    (found.entries later pattern).filter (isOld tree) = found.entries tree pattern := by
  rw [entries, entries, hgrows.isDirectory_eq hold]
  split
  · rw [List.filter_append, filter_inside, filter_children hsound hsound' hgrows]
    congr 1
    exact List.filter_eq_self.mpr fun next hnext => isOld_of_mem_dots hsound hold hnext
  · rfl

omit hsound hsound' in
theorem filter_follow (hold : found.isOld tree = true) (part : List Char) :
    (found.follow later part).toList.filter (isOld tree) = (found.follow tree part).toList := by
  have hold' : tree.has found.place = true := hold
  rw [follow, follow, hgrows.isDirectory_eq hold]
  split
  · split
    · cases (found.extend (String.ofList part) found.place).path.isEmpty <;>
        simp [Option.filter, isOld, extend, hold']
    · next component _ =>
      rw [step_of_has hgrows hold]
      split
      · rfl
      · next place hstep =>
        change (if later.has place then _ else _ : Option Found).toList.filter _ =
          (if tree.has place then _ else _ : Option Found).toList
        cases hhas : tree.has place with
        | true => simp [hgrows.has hhas, isOld, extend, hhas]
        | false =>
          cases later.has place <;> simp [isOld, extend, hhas]
  · rfl

theorem filter_nexts (hold : found.isOld tree = true) (pattern : NamePattern) :
    (found.nexts later pattern).filter (isOld tree) = found.nexts tree pattern := by
  rw [nexts, nexts]
  split
  · exact filter_follow hgrows hold _
  · exact filter_entries hsound hsound' hgrows hold pattern

end old

theorem not_isOld_of_follow (hsound : Sound tree) (hnew : found.isOld tree = false)
    {part : List Char} (hclimbs : part ≠ ['.', '.']) (hnext : found.follow later part = some next) :
    next.isOld tree = false := by
  rw [follow] at hnext
  split at hnext
  · split at hnext
    · obtain ⟨hnext, -⟩ := Option.filter_eq_some_iff.mp hnext
      exact Option.some.inj hnext ▸ hnew
    · next component hcomponent =>
      split at hnext
      · exact absurd hnext (by simp)
      · next place hstep =>
        rw [Option.ite_none_right_eq_some] at hnext
        obtain rfl := Option.some.inj hnext.2
        rcases cases_of_ofPart hcomponent with ⟨-, hdots⟩ | rfl
        · exact absurd hdots hclimbs
        · obtain ⟨-, rfl⟩ := step_named.mp hstep
          exact not_has_append hsound hnew (List.cons_ne_nil _ _)
  · exact absurd hnext (by simp)

theorem not_isOld_of_mem_entries (hsound : Sound tree) (hsound' : Sound later)
    (hnew : found.isOld tree = false) {pattern : NamePattern} (hliteral : pattern.literal? = none)
    (hclimbs : pattern.climbs = false) (hnext : next ∈ found.entries later pattern) :
    next.isOld tree = false := by
  rw [entries] at hnext
  split at hnext
  · rcases List.mem_append.mp hnext with hnext | hnext
    · exact not_isOld_of_mem_dots hnew hliteral hclimbs hnext
    · obtain ⟨place, hplace, rfl⟩ := List.mem_map.mp (List.mem_of_mem_filter hnext)
      obtain ⟨-, name, rfl⟩ := mem_children hsound' hplace
      exact not_has_append hsound hnew (List.cons_ne_nil _ _)
  · exact absurd hnext List.not_mem_nil

theorem not_isOld_of_mem_nexts (hsound : Sound tree) (hsound' : Sound later)
    (hnew : found.isOld tree = false) {pattern : NamePattern} (hclimbs : pattern.climbs = false)
    (hnext : next ∈ found.nexts later pattern) : next.isOld tree = false := by
  rw [nexts] at hnext
  split at hnext
  · next part hliteral =>
    have hpart : part ≠ ['.', '.'] := by simpa [NamePattern.climbs, hliteral] using hclimbs
    exact not_isOld_of_follow hsound hnew hpart (Option.mem_toList.mp hnext)
  · next hliteral => exact not_isOld_of_mem_entries hsound hsound' hnew hliteral hclimbs hnext

theorem isDirectory_of_mem_nexts {pattern : NamePattern}
    (hnext : next ∈ found.nexts tree pattern) : tree.isDirectory found.place = true := by
  rw [← Bool.not_eq_false]
  intro hnot
  rw [nexts] at hnext
  split at hnext <;> simp [follow, entries, hnot] at hnext

/-- In a tree that has grown a search finds what it found, in the same order, and what is new,
unless it climbs out of a directory that is new. -/
theorem filter_search (hsound : Sound tree) (hsound' : Sound later) (hgrows : Grows tree later) :
    ∀ (segments : List Segment) (found : Found),
      (∀ place ∈ found.climbed later segments, tree.has place = true) →
      (found.search later segments).filter (isOld tree) =
        if found.isOld tree then found.search tree segments else []
  | [], found, _ => by
    rw [search, search, List.filter_cons, List.filter_nil]
  | .deep :: .deep :: rest, found, hclimbed => by
    rw [search, search]
    exact filter_search hsound hsound' hgrows (.deep :: rest) found hclimbed
  | [.deep], found, _ => by
    rw [search, search, filter_directories hsound hsound' hgrows]
    split
    · rfl
    · next hnew => rw [below_of_not_has hsound (by simpa [isOld] using hnew)]; rfl
  | .deep :: .name pattern :: rest, found, hclimbed => by
    rw [climbed] at hclimbed
    rw [search, search, filter_flatMap_eq fun entry hentry =>
      filter_search hsound hsound' hgrows rest entry fun place hplace =>
        hclimbed place (List.mem_flatMap.mpr ⟨entry, hentry, hplace⟩),
      filter_fitting hsound hsound' hgrows]
    split
    · rfl
    · next hnew => rw [below_of_not_has hsound (by simpa [isOld] using hnew)]; rfl
  | .name pattern :: rest, found, hclimbed => by
    rw [climbed, List.forall_mem_append] at hclimbed
    obtain ⟨hhere, hclimbed⟩ := hclimbed
    rw [search_name, search_name, filter_flatMap_eq fun entry hentry =>
      filter_search hsound hsound' hgrows rest entry fun place hplace =>
        hclimbed place (List.mem_flatMap.mpr ⟨entry, hentry, hplace⟩)]
    cases hold : found.isOld tree with
    | true => rw [filter_nexts hsound hsound' hgrows hold, if_pos rfl]
    | false =>
      have hnexts : (found.nexts later pattern).filter (isOld tree) = [] := by
        refine List.filter_eq_nil_iff.mpr fun entry hentry => ?_
        have hclimbs : pattern.climbs = false := by
          rw [← Bool.not_eq_true]
          intro hclimbs
          have hhas : tree.has found.place = true :=
            hhere found.place (by simp [hclimbs, isDirectory_of_mem_nexts hentry])
          exact absurd hhas (by simpa [isOld] using hold)
        simp [not_isOld_of_mem_nexts hsound hsound' hold hclimbs hentry]
      rw [hnexts, if_neg (by simp), List.flatMap_nil]

end Found

namespace PathPattern

/-- The directories out of which the search for a pattern climbs by two dots. -/
def climbed (pattern : PathPattern) (tree : FileTree) : List Place :=
  (pattern.origin tree).climbed tree pattern.segments

theorem climbed_of_not_climbs {pattern : PathPattern}
    (hnot : ∀ segment ∈ pattern.segments, segment.climbs = false) (tree : FileTree) :
    pattern.climbed tree = [] :=
  Found.climbed_of_not_climbs _ _ hnot

/-- In a tree that has grown a pattern finds what it found, in the same order, and what is new. -/
theorem filter_find {tree later : FileTree} (hsound : Sound tree) (hsound' : Sound later)
    (hgrows : Grows tree later) {pattern : PathPattern}
    (hclimbed : ∀ place ∈ pattern.climbed later, tree.has place = true) :
    (pattern.find later).filter (Found.isOld tree) = pattern.find tree := by
  have horigin : pattern.origin later = pattern.origin tree := by rw [origin, origin, hgrows.base]
  have hold : (pattern.origin tree).isOld tree = true := by
    rw [origin]
    split
    · exact has_of_isDirectory isDirectory_nil
    · exact has_of_isDirectory hsound.base
  rw [climbed, horigin] at hclimbed
  have hsearch := Found.filter_search hsound hsound' hgrows _ _ hclimbed
  rw [if_pos hold] at hsearch
  rw [find, find, horigin, ← hsearch]
  split
  · rw [List.filter_filter, List.filter_filter]
    refine List.filter_congr fun found _ => ?_
    cases hfound : found.isOld tree with
    | true => rw [Bool.true_and, Bool.and_true, hgrows.isDirectory_eq hfound]
    | false => rw [Bool.false_and, Bool.and_false]
  · rfl

end PathPattern

end Files

end ServiceGen
