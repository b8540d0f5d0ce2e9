import ServiceGen.Proofs.Files.Behind
import ServiceGen.Proofs.Files.Path
import ServiceGen.Proofs.Generation.Writing
import ServiceGen.Proofs.Source.Loading

/-!
What is loaded from below a directory. The files come in the order of their paths, and no path comes
twice. A file whose path goes on by names behind that of the directory is where the path of its unit
says, and no other such file is there.
-/
namespace ServiceGen

open Files FileTree

namespace Files

theorem before_append (front a b : List Component) :
    before (front ++ a) (front ++ b) = before a b := by
  induction front with
  | nil => rfl
  | cons component rest ih =>
    have hself : component.before component = false := by
      rw [← Bool.not_eq_true, Component.before_iff]
      exact lt_irrefl _
    rw [List.cons_append, List.cons_append, before, hself, ih, beq_self_eq_true]
    rfl

end Files

namespace Loading

variable {tree : FileTree} {directory path : String} {patterns names : List String}
  {found other : Found} {place : Place}

/-- That the path of one file comes before that of another. -/
def Precedes (a b : Found) : Prop := before (components a.path) (components b.path) = true

theorem precedes_iff : Precedes found other ↔
    keys (components found.path) < keys (components other.path) := before_iff

theorem inOrder_iff : inOrder found other = true ↔
    keys (components found.path) ≤ keys (components other.path) := by
  rw [inOrder, Bool.not_eq_true', ← Bool.not_eq_true, before_iff, not_lt]

theorem pairwise_mergeSort (found : List Found) :
    (found.mergeSort inOrder).Pairwise fun a b => inOrder a b = true := by
  refine List.pairwise_mergeSort (fun a b c hab hbc => ?_) (fun a b => ?_) found
  · rw [inOrder_iff] at *
    exact hab.trans hbc
  · rw [Bool.or_eq_true, inOrder_iff, inOrder_iff]
    exact le_total _ _

/-- What is in order comes strictly in order without repeats. -/
theorem pairwise_withoutRepeats {all : List Found}
    (hsorted : all.Pairwise fun a b => inOrder a b = true) :
    (withoutRepeats all).Pairwise Precedes := by
  induction all with
  | nil => exact .nil
  | cons first rest ih =>
    obtain ⟨hfirst, hrest⟩ := List.pairwise_cons.mp hsorted
    have hstrict := ih hrest
    have hsubset := withoutRepeats_subset rest
    obtain ⟨others, hkept, hothers⟩ := withoutRepeats_cons first rest
    rw [hkept]
    rcases hothers with ⟨rfl, hdiffers⟩ | ⟨next, hnext, hsame⟩
    · refine List.pairwise_cons.mpr ⟨?_, hstrict⟩
      cases hrepeats : withoutRepeats rest with
      | nil => exact fun last hlast => absurd hlast List.not_mem_nil
      | cons next others =>
        rw [hrepeats] at hdiffers hstrict hsubset
        have hle := inOrder_iff.mp (hfirst next (hsubset List.mem_cons_self))
        have hlt := lt_of_le_of_ne hle fun hkeys => hdiffers next rfl (keys_injective hkeys)
        intro last hlast
        rcases List.mem_cons.mp hlast with rfl | hlast
        · exact precedes_iff.mpr hlt
        · have hnext := precedes_iff.mp ((List.pairwise_cons.mp hstrict).1 last hlast)
          exact precedes_iff.mpr (hlt.trans hnext)
    · rw [hnext] at hstrict
      obtain ⟨hbefore, hothers⟩ := List.pairwise_cons.mp hstrict
      refine List.pairwise_cons.mpr ⟨fun last hlast => ?_, hothers⟩
      rw [Precedes, hsame]
      exact hbefore last hlast

/-- What is left out as a repeat has the same path as something that is kept. -/
theorem exists_kept {all : List Found} (hfound : found ∈ all) :
    ∃ kept ∈ withoutRepeats all, components kept.path = components found.path := by
  induction all with
  | nil => exact absurd hfound List.not_mem_nil
  | cons first rest ih =>
    obtain ⟨others, hkept, hothers⟩ := withoutRepeats_cons first rest
    rw [hkept]
    rcases List.mem_cons.mp hfound with rfl | hfound
    · exact ⟨found, List.mem_cons_self, rfl⟩
    obtain ⟨kept, hmem, hpath⟩ := ih hfound
    rcases hothers with ⟨rfl, -⟩ | ⟨next, hnext, hsame⟩
    · exact ⟨kept, List.mem_cons_of_mem _ hmem, hpath⟩
    · rw [hnext] at hmem
      rcases List.mem_cons.mp hmem with rfl | hmem
      · exact ⟨first, List.mem_cons_self, hsame.trans hpath⟩
      · exact ⟨kept, List.mem_cons_of_mem _ hmem, hpath⟩

theorem pairwise_files {loaded : List Found}
    (hfiles : files tree directory patterns = .ok loaded) : loaded.Pairwise Precedes := by
  obtain ⟨matched, -, rfl⟩ := exists_matched_of_files hfiles
  exact pairwise_withoutRepeats (pairwise_mergeSort _)

section below

variable (hdirectory : IsLiteral directory) (hbelow : Below directory path names)
include hbelow

theorem isName_of_below {name : String} (hname : name ∈ names) : IsName name := by
  refine isName_of_mem_components (?_ : .named name ∈ components path)
  rw [hbelow]
  exact List.mem_append_right _ (List.mem_map_of_mem hname)

/-- A path below the path of a directory leads below that directory. -/
theorem exists_top_of_below (hsound : Sound tree) (hresolve : tree.resolve path = some place) :
    ∃ top, tree.resolve directory = some top ∧ place = top ++ names ∧
      (names.map Component.named).foldlM tree.step top = some place := by
  rw [resolve, hbelow, List.foldlM_append, ← resolve_eq_way hsound.base] at hresolve
  obtain ⟨top, htop, hfollow⟩ := Option.bind_eq_some_iff.mp hresolve
  exact ⟨top, htop, eq_of_follow_names hfollow, hfollow⟩

include hdirectory

theorem behind_of_below : behind directory path = names.map .named := by
  rw [behind, hbelow]
  by_cases hcurrent : .current ∈ components directory
  · have hdot : components directory = [.current] := by
      rcases hdirectory.current hcurrent with rfl | rfl <;> decide
    rw [way, hdot]
    cases names <;> rfl
  · rw [← components_eq_way hcurrent, strip?_eq_some.mpr rfl]
    rfl

theorem unitPath_of_below : unitPath directory path = String.intercalate "/" names := by
  rw [unitPath, behind_of_below hdirectory hbelow, List.filterMap_map]
  congr 1
  exact List.filterMap_some

/-- What was found below a directory is where the path of its unit leads from there. -/
theorem resolve_unitPath (hsound : Sound tree) (hresolve : tree.resolve path = some place) :
    tree.resolve (join directory (unitPath directory path)) = some place := by
  obtain ⟨top, htop, -, hfollow⟩ := exists_top_of_below hbelow hsound hresolve
  have hcomponents := components_intercalate fun name hname => isName_of_below hbelow hname
  obtain ⟨hrelative, hmeaning⟩ := relative_of_components hcomponents
  rw [unitPath_of_below hdirectory hbelow, resolve_join hsound.base htop hrelative, hmeaning,
    hfollow]

end below

/-- Two paths below a directory that lead to one place are the same. -/
theorem components_eq_of_below (hsound : Sound tree) {names' : List String}
    (hfound : Below directory found.path names) (hother : Below directory other.path names')
    (hleads : found.Leads tree) (hleads' : other.Leads tree) (hsame : found.place = other.place) :
    components found.path = components other.path := by
  obtain ⟨top, htop, hplace, -⟩ := exists_top_of_below hfound hsound hleads.resolve
  obtain ⟨top', htop', hplace', -⟩ := exists_top_of_below hother hsound hleads'.resolve
  obtain rfl := Option.some.inj (htop.symm.trans htop')
  rw [hplace, hplace'] at hsame
  rw [hfound, hother, List.append_cancel_left hsame]

/-- That a pattern goes on behind a directory and never back by two dots. An absolute pattern does
if it begins with the path of the directory. -/
def StaysBelow (directory pattern : String) : Prop :=
  ∃ rest, isAbsolute rest = false ∧ join directory pattern = join directory rest ∧
    ∀ part ∈ PathPattern.parts rest.toList, ∀ segment ∈ Segment.parse? part, segment.climbs = false

/-- What patterns find that stay below a directory is below it, and it is a directory. -/
theorem exists_below (hsound : Sound tree) (hdirectory : IsLiteral directory)
    (hpatterns : ∀ pattern ∈ meant patterns, StaysBelow directory pattern) {loaded : List Found}
    (hfiles : files tree directory patterns = .ok loaded) (hfound : found ∈ loaded) :
    (∃ names, Below directory found.path names) ∧
      ∃ top, tree.resolve directory = some top ∧ tree.isDirectory top = true := by
  obtain ⟨pattern, hpattern, parsed, hparsed, hfind, hfile, -⟩ :=
    exists_pattern_of_mem_files hfiles hfound
  have hleads := PathPattern.leads_find hsound hparsed hfind
  have hnot := isDirectory_of_isFile hfile
  obtain ⟨rest, hrelative, hjoin, hstays⟩ := hpatterns pattern hpattern
  rw [hjoin] at hparsed
  by_cases hempty : rest = ""
  · subst hempty
    simp [isDirectory_of_find hparsed hfind] at hnot
  · obtain ⟨htidy, ⟨names, hway⟩, htop⟩ :=
      exists_names_of_find hsound hdirectory hrelative hempty hstays hparsed hfind
    refine ⟨⟨names, ?_⟩, htop⟩
    rw [Below, ← hway]
    refine components_eq_way fun hcurrent => ?_
    -- A path that is only a dot leads to no file.
    have hresolve := hleads.resolve
    rw [resolve, htidy.current hcurrent, List.foldlM_cons, step, if_pos hsound.base] at hresolve
    have hbase : tree.base = found.place := Option.some.inj hresolve
    simp [← hbase, hsound.base] at hnot

end Loading

end ServiceGen
