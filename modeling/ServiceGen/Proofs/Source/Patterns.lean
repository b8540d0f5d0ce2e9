import Mathlib.Data.List.Sort
import ServiceGen.Proofs.Source.Everything

/-!
Loading by patterns. Several patterns can find the same file, and one file can be found by paths
that are spelled differently. All that counts is which paths are matched, as components: each of
them is loaded once, in order, whichever pattern found it and however it is spelled. So the order of
the patterns does not matter, and neither do patterns that are given twice.
-/
namespace ServiceGen

open Files FileTree

namespace Loading

variable {tree : FileTree} {directory : String} {patterns others : List String}
  {loaded : List SourceUnit}

/-- That a path is matched: it leads to a file that a pattern finds and that is not passed over. -/
def IsMatched (tree : FileTree) (directory : String) (patterns : List String)
    (path : List Component) : Prop :=
  ∃ pattern ∈ meant patterns, ∃ matched, matching tree directory pattern = .ok matched ∧
    ∃ found ∈ matched, components found.path = path

/-- The paths of files, as components. -/
def paths (found : List Found) : List (List Component) := found.map fun each => components each.path

theorem exists_matching_of_files {found : List Found}
    (hfiles : files tree directory patterns = .ok found) {pattern : String}
    (hpattern : pattern ∈ meant patterns) :
    ∃ matched, matching tree directory pattern = .ok matched := by
  obtain ⟨all, hall, -⟩ := exists_matched_of_files hfiles
  exact exists_ok_of_mem_mapM hall hpattern

theorem exists_files
    (hmatching : ∀ pattern ∈ meant patterns, ∃ matched,
      matching tree directory pattern = .ok matched) :
    ∃ found, files tree directory patterns = .ok found := by
  obtain ⟨all, hall⟩ := exists_mapM_eq_ok hmatching
  refine ⟨withoutRepeats (all.flatten.mergeSort inOrder), ?_⟩
  rw [files]
  change ((meant patterns).mapM (matching tree directory) >>= _) = _
  rw [hall]
  rfl

/-- The paths that are loaded are those which are matched. -/
theorem mem_paths_iff {found : List Found} (hfiles : files tree directory patterns = .ok found)
    {path : List Component} :
    path ∈ paths found ↔ IsMatched tree directory patterns path := by
  obtain ⟨all, hall, rfl⟩ := exists_matched_of_files hfiles
  constructor
  · intro hpath
    obtain ⟨each, heach, rfl⟩ := List.mem_map.mp hpath
    have hmem := List.mem_mergeSort.mp (withoutRepeats_subset _ heach)
    obtain ⟨matched, hmatched, hmem⟩ := List.mem_flatten.mp hmem
    obtain ⟨pattern, hpattern, hok⟩ := exists_of_mem_mapM hall hmatched
    exact ⟨pattern, hpattern, matched, hok, each, hmem, rfl⟩
  · rintro ⟨pattern, hpattern, matched, hok, each, heach, rfl⟩
    have hmatched := mem_of_mapM hall hpattern hok
    have hmem : each ∈ all.flatten.mergeSort inOrder :=
      List.mem_mergeSort.mpr (List.mem_flatten.mpr ⟨matched, hmatched, heach⟩)
    obtain ⟨kept, hkept, hpath⟩ := exists_kept hmem
    exact List.mem_map.mpr ⟨kept, hkept, hpath⟩

theorem pairwise_paths {found : List Found} (hfiles : files tree directory patterns = .ok found) :
    (paths found).Pairwise fun a b => before a b = true :=
  List.pairwise_map.mpr (pairwise_files hfiles)

/-- Paths in order are told by which paths they are. -/
theorem eq_of_mem_iff {a b : List (List Component)}
    (ha : a.Pairwise fun first second => before first second = true)
    (hb : b.Pairwise fun first second => before first second = true)
    (hsame : ∀ path, path ∈ a ↔ path ∈ b) : a = b := by
  have hsorted {list : List (List Component)}
      (hlist : list.Pairwise fun first second => before first second = true) :
      (list.map keys).SortedLT := by
    rw [List.sortedLT_iff_pairwise, List.pairwise_map]
    exact hlist.imp before_iff.mp
  apply List.map_injective_iff.mpr keys_injective
  refine (hsorted ha).eq_of_mem_iff (hsorted hb) fun key => ?_
  simp only [List.mem_map, hsame]

/-- What is read from a file depends on the components of its path only. -/
theorem unit_of_components {a b : Found} (hsame : components a.path = components b.path)
    {unit : SourceUnit} (hunit : Loading.unit tree directory a = .ok unit) :
    Loading.unit tree directory b = .ok unit := by
  have hpath : unitPath directory a.path = unitPath directory b.path := by
    rw [unitPath, unitPath, behind, behind, hsame]
  have htext : tree.text? a.path = tree.text? b.path := by
    simp only [text?, content?, lookup, resolve, hsame]
  rw [unit_eq_ok, hpath, htext] at hunit
  exact unit_eq_ok.mpr hunit

theorem mapM_unit_of_paths {a b : List Found} (hsame : paths a = paths b)
    (hunits : a.mapM (Loading.unit tree directory) = .ok loaded) :
    b.mapM (Loading.unit tree directory) = .ok loaded := by
  induction a generalizing b loaded with
  | nil =>
    obtain rfl := List.map_eq_nil_iff.mp hsame.symm
    exact hunits
  | cons first rest ih =>
    obtain ⟨other, more, rfl, hfirst, hrest⟩ := List.map_eq_cons_iff.mp hsame.symm
    obtain ⟨unit, units, hunit, hmore, rfl⟩ := of_mapM_cons hunits
    rw [List.mapM_cons, unit_of_components hfirst.symm hunit, ih hrest.symm hmore]
    rfl

/-- The units that are loaded are told by the paths that are matched. -/
theorem units_of_isMatched_iff (hunits : units tree directory patterns = .ok loaded)
    (hmatching : ∀ pattern ∈ meant others, ∃ matched,
      matching tree directory pattern = .ok matched)
    (hsame : ∀ path,
      IsMatched tree directory others path ↔ IsMatched tree directory patterns path) :
    units tree directory others = .ok loaded := by
  obtain ⟨found, hfound, hmap⟩ := exists_files_of_units hunits
  obtain ⟨again, hagain⟩ := exists_files hmatching
  have hpaths : paths found = paths again := by
    refine eq_of_mem_iff (pairwise_paths hfound) (pairwise_paths hagain) fun path => ?_
    rw [mem_paths_iff hfound, mem_paths_iff hagain, hsame]
  rw [units_of_files hagain]
  exact mapM_unit_of_paths hpaths hmap

theorem mem_meant_iff (hsame : ∀ pattern, pattern ∈ others ↔ pattern ∈ patterns)
    (pattern : String) : pattern ∈ meant others ↔ pattern ∈ meant patterns := by
  have hempty : others.isEmpty = patterns.isEmpty := by
    rw [Bool.eq_iff_iff, List.isEmpty_iff, List.isEmpty_iff, List.eq_nil_iff_forall_not_mem,
      List.eq_nil_iff_forall_not_mem]
    simp only [hsame]
  rw [meant, meant, hempty]
  split
  · exact Iff.rfl
  · exact hsame pattern

/-- Loading depends on the patterns by the paths that they match. Each of these is loaded once, in
order, as the unit that any path with the same components gives. The same units are loaded with
patterns in another order or given more or less often, and with any that match the same paths. -/
theorem units_by_matched_paths (hunits : units tree directory patterns = .ok loaded) :
    (∃ matched : List (List Component),
      (matched.Pairwise fun first second => before first second = true) ∧
      (∀ path, path ∈ matched ↔ IsMatched tree directory patterns path) ∧
      List.Forall₂ (fun path unit => ∀ found : Found, components found.path = path →
        Loading.unit tree directory found = .ok unit) matched loaded) ∧
    (∀ others, (∀ pattern, pattern ∈ others ↔ pattern ∈ patterns) →
      units tree directory others = .ok loaded) ∧
    ∀ others, (∀ pattern ∈ meant others, ∃ matched,
        matching tree directory pattern = .ok matched) →
      (∀ path, IsMatched tree directory others path ↔ IsMatched tree directory patterns path) →
      units tree directory others = .ok loaded := by
  obtain ⟨found, hfound, hmap⟩ := exists_files_of_units hunits
  refine ⟨⟨paths found, pairwise_paths hfound, fun path => mem_paths_iff hfound, ?_⟩, ?_,
    fun others => units_of_isMatched_iff hunits⟩
  · rw [paths, List.forall₂_map_left_iff]
    refine (forall₂_of_mapM hmap).imp fun each unit hunit other hother => ?_
    exact unit_of_components hother.symm hunit
  · intro others hsame
    refine units_of_isMatched_iff hunits (fun pattern hpattern => ?_) fun path => ?_
    · exact exists_matching_of_files hfound ((mem_meant_iff hsame pattern).mp hpattern)
    · simp only [IsMatched, mem_meant_iff hsame]

/-- A tree with one source file. -/
def lodgeTree : FileTree :=
  { entries := [(["lodge"], .directory), (["lodge", "src"], .directory),
      (["lodge", "src", "rooms.rs"], .file "pub struct Room;\n".toUTF8)]
    base := ["lodge"]
    journal := [] }

/-- Two patterns for the file of the lodge, of which one spells the path to it with a dot. -/
def lodgePatterns : List String := ["src/*.rs", "src/./rooms.rs"]

theorem matching_lodge : ∀ pattern ∈ lodgePatterns, ∃ matched,
    matching lodgeTree "/lodge" pattern = .ok matched ∧
    paths matched = [components "/lodge/src/rooms.rs"] := by
  have hmatching : ∀ pattern ∈ lodgePatterns,
      (matching lodgeTree "/lodge" pattern).toOption.map paths =
        some [components "/lodge/src/rooms.rs"] := by decide +kernel
  intro pattern hpattern
  obtain ⟨matched, hmatched, hpaths⟩ := Option.map_eq_some_iff.mp (hmatching pattern hpattern)
  exact ⟨matched, toOption_eq_some.mp hmatched, hpaths⟩

theorem isMatched_lodge_iff (hnonempty : patterns ≠ []) (hpatterns : patterns ⊆ lodgePatterns)
    {path : List Component} :
    IsMatched lodgeTree "/lodge" patterns path ↔ path = components "/lodge/src/rooms.rs" := by
  have hmeant : meant patterns = patterns := by
    rw [meant, if_neg (by simpa using hnonempty)]
  rw [IsMatched, hmeant]
  constructor
  · rintro ⟨pattern, hpattern, matched, hok, found, hfound, rfl⟩
    obtain ⟨same, hsame, hpaths⟩ := matching_lodge pattern (hpatterns hpattern)
    obtain rfl := Except.ok.inj (hok.symm.trans hsame)
    exact List.mem_singleton.mp (hpaths ▸ List.mem_map_of_mem hfound)
  · rintro rfl
    obtain ⟨pattern, hpattern⟩ := List.exists_mem_of_ne_nil patterns hnonempty
    obtain ⟨matched, hok, hpaths⟩ := matching_lodge pattern (hpatterns hpattern)
    obtain ⟨found, hfound, hpath⟩ := List.mem_map.mp (hpaths ▸ List.mem_singleton_self _)
    exact ⟨pattern, hpattern, matched, hok, found, hfound, hpath⟩

/-- A file of the lodge is loaded once, also where patterns find it by different paths. -/
theorem lodge_units_by_matched_paths :
    ∃ loaded, loaded.map SourceUnit.path = ["src/rooms.rs"] ∧
      units lodgeTree "/lodge" ["src/*.rs"] = .ok loaded ∧
      units lodgeTree "/lodge" ["src/*.rs", "src/*.rs"] = .ok loaded ∧
      units lodgeTree "/lodge" ["src/./rooms.rs", "src/*.rs"] = .ok loaded := by
  obtain ⟨loaded, hunits, hpaths⟩ := exists_of_paths
    (by decide +kernel : (units lodgeTree "/lodge" ["src/*.rs"]).toOption.map
      (·.map SourceUnit.path) = some ["src/rooms.rs"])
  obtain ⟨-, hrepeated, hspelled⟩ := units_by_matched_paths hunits
  refine ⟨loaded, hpaths, hunits, hrepeated _ (by simp), hspelled _ ?_ fun path => ?_⟩
  · intro pattern hpattern
    have hpattern : pattern ∈ lodgePatterns := by
      simpa [meant, lodgePatterns, or_comm] using hpattern
    obtain ⟨matched, hok, -⟩ := matching_lodge pattern hpattern
    exact ⟨matched, hok⟩
  · rw [isMatched_lodge_iff (by simp) (by simp [lodgePatterns]),
      isMatched_lodge_iff (by simp) (by simp [lodgePatterns])]

end Loading

end ServiceGen
