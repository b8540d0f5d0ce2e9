import ServiceGen.Proofs.Files.Growth
import ServiceGen.Source.Loading

/-!
What is loaded. A file that is loaded has no name of a generated file, so that in a tree which has
grown by such files only, the same files are loaded. The path of a unit consists of names, and the
name of its package could be part of one.
-/
namespace ServiceGen

namespace Files

theorem strip?_eq_some {front path rest : List Component} :
    strip? front path = some rest ↔ path = front ++ rest := by
  induction front generalizing path with
  | nil => simp [strip?]
  | cons component others ih =>
    cases path with
    | nil => simp [strip?]
    | cons first behind =>
      by_cases heq : component = first
      · simp [strip?, heq, ih]
      · simp [strip?, heq, Ne.symm heq]

theorem intercalate_concat {names : List String} (hne : names ≠ []) (last : String) :
    String.intercalate "/" (names ++ [last]) = String.intercalate "/" names ++ "/" ++ last := by
  induction names with
  | nil => exact absurd rfl hne
  | cons first rest ih =>
    cases rest with
    | nil => simp
    | cons next others =>
      have hrest := ih (List.cons_ne_nil _ _)
      rw [List.cons_append, List.cons_append, String.intercalate_cons_cons, ← List.cons_append,
        hrest, String.intercalate_cons_cons]
      simp only [String.append_assoc]

theorem IsName.uncut_reverse {name : String} (hname : IsName name) :
    ∀ c ∈ name.toList.reverse, (c == '/') = false := fun c hc => by
  simpa using fun hslash : c = '/' => hname.uncut (hslash ▸ List.mem_reverse.mp hc)

theorem isName_of_fileName? {path : List Component} {name : String}
    (hpath : ∀ name, .named name ∈ path → IsName name) (hname : fileName? path = some name) :
    IsName name := by
  obtain ⟨component, hlast, hcomponent⟩ := Option.bind_eq_some_iff.mp hname
  cases component with
  | named other =>
    obtain rfl := Option.some.inj hcomponent
    exact hpath _ (List.mem_of_getLast? hlast)
  | root | current | above => exact absurd hcomponent (by simp [Component.name?])

theorem mem_of_mem_parent? {path parent : List Component} {component : Component}
    (hparent : parent? path = some parent) (hmem : component ∈ parent) : component ∈ path := by
  rw [parent?] at hparent
  split at hparent
  · exact absurd hparent (by simp)
  · exact absurd hparent (by simp)
  · exact List.dropLast_subset _ (Option.some.inj hparent ▸ hmem)

theorem mem_of_mem_stem {name : String} {c : Char} (hc : c ∈ (stem name).toList) :
    c ∈ name.toList := by
  rw [stem] at hc
  split at hc
  · next before hcut =>
    split at hc
    · exact hc
    · obtain ⟨_, -, htext, -⟩ := Text.eq_of_cutAt hcut
      rw [String.toList_ofList, List.mem_reverse] at hc
      rw [← List.mem_reverse, htext]
      simp [hc]
  · exact hc

end Files

open Files

namespace SourceUnit

variable {unit : SourceUnit} {names : List String}

theorem dir_of_cutAt {last before : List Char}
    (hcut : Text.cutAt (· == '/') unit.path.toList.reverse = some (last, before)) :
    unit.dir = String.ofList before.reverse := by
  simp only [dir, hcut]

/-- The directory of a unit is named by all names of its path but the last one. -/
theorem dir_eq (hnames : ∀ name ∈ names, IsName name)
    (hpath : unit.path = String.intercalate "/" names) :
    unit.dir = String.intercalate "/" names.dropLast := by
  induction names using List.reverseRecOn with
  | nil => rw [dir, hpath]; rfl
  | append_singleton front last _ =>
    have hlast := hnames last (by simp)
    rw [List.dropLast_concat]
    cases front with
    | nil =>
      rw [dir, hpath, List.nil_append, String.intercalate_singleton,
        Text.cutAt_of_uncut hlast.uncut_reverse]
      rfl
    | cons first others =>
      have hreverse : unit.path.toList.reverse = last.toList.reverse ++
          '/' :: (String.intercalate "/" (first :: others)).toList.reverse := by
        rw [hpath, intercalate_concat (List.cons_ne_nil _ _)]
        simp
      rw [dir_of_cutAt (hreverse ▸ Text.cutAt_append hlast.uncut_reverse rfl), List.reverse_reverse,
        String.ofList_toList]

theorem ofText_eq {package path text : String} (htext : ofText package path text = .ok unit) :
    unit.package = package ∧ unit.path = path := by
  simp only [ofText, bind, Except.bind, pure, Except.pure] at htext
  split at htext
  · exact absurd htext (by simp)
  · obtain rfl := Except.ok.inj htext
    exact ⟨rfl, rfl⟩

/-- What the path and the package of a unit that was loaded are like. -/
structure IsLoaded (unit : SourceUnit) : Prop where
  names : ∃ names, (∀ name ∈ names, IsName name) ∧ unit.path = String.intercalate "/" names
  package : '/' ∉ unit.package.toList

section packageName

variable {path directory : List Component} {name : String}
  (hpath : ∀ name, .named name ∈ path → IsName name)
  (hdirectory : ∀ name, .named name ∈ directory → IsName name)

include hpath

theorem isName_of_directoryName? {parent : Option (List Component)}
    (hparent : ∀ others, parent = some others → ∀ component ∈ others, component ∈ path)
    (hname : directoryName? parent = some name) : IsName name := by
  obtain ⟨others, hothers, hname⟩ := Option.bind_eq_some_iff.mp hname
  refine isName_of_fileName? (fun other hother => ?_) hname
  exact hpath other (hparent others hothers _ hother)

theorem uncut_stem : '/' ∉ (((fileName? path).map stem).getD "").toList := by
  cases hname : fileName? path with
  | none => simp
  | some name =>
    have huncut := (isName_of_fileName? hpath hname).uncut
    exact fun hslash => huncut (mem_of_mem_stem hslash)

include hdirectory

theorem uncut_ownName? (hname : ownName? path directory = some name) : '/' ∉ name.toList := by
  have hparent : ∀ others, parent? path = some others → ∀ component ∈ others, component ∈ path :=
    fun _ hothers _ => mem_of_mem_parent? hothers
  simp only [ownName?] at hname
  split at hname
  · exact (isName_of_directoryName? hpath hparent hname).uncut
  · split at hname
    · split at hname
      · rw [Option.orElse_eq_orElse, Option.orElse_eq_or] at hname
        rcases Option.or_eq_some_iff.mp hname with hname | ⟨-, hname⟩
        · refine (isName_of_directoryName? hpath ?_ hname).uncut
          intro others hothers component hcomponent
          obtain ⟨parent, hfirst, hsecond⟩ := Option.bind_eq_some_iff.mp hothers
          exact hparent parent hfirst _ (mem_of_mem_parent? hsecond hcomponent)
        · exact (isName_of_fileName? hdirectory hname).uncut
      · exact (isName_of_directoryName? hpath hparent hname).uncut
    · exact Option.some.inj hname ▸ uncut_stem hpath

/-- The name of a package has no slash. -/
theorem uncut_packageName : '/' ∉ (packageName path directory).toList := by
  have hname : '/' ∉ ((ownName? path directory <|> fileName? directory).getD
      (((fileName? path).map stem).getD "")).toList := by
    cases hown : ownName? path directory <|> fileName? directory with
    | none => exact uncut_stem hpath
    | some name =>
      rw [Option.orElse_eq_orElse, Option.orElse_eq_or] at hown
      rcases Option.or_eq_some_iff.mp hown with hown | ⟨-, hown⟩
      · exact uncut_ownName? hpath hdirectory hown
      · exact (isName_of_fileName? hdirectory hown).uncut
  rw [packageName, String.toList_ofList, List.mem_map]
  rintro ⟨c, hc, hslash⟩
  split at hslash
  · exact absurd hslash (by decide)
  · exact hname (hslash ▸ hc)

end packageName

end SourceUnit

namespace Loading

section mapM

variable {ε α β : Type} {f g : α → Except ε β} {as : List α} {bs : List β}

theorem of_mapM_cons {a : α} (hmap : (a :: as).mapM f = .ok bs) :
    ∃ first others, f a = .ok first ∧ as.mapM f = .ok others ∧ bs = first :: others := by
  rw [List.mapM_cons] at hmap
  cases hfirst : f a with
  | error cause => simp [hfirst, bind, Except.bind] at hmap
  | ok first =>
    cases hothers : as.mapM f with
    | error cause => simp [hfirst, hothers, bind, Except.bind] at hmap
    | ok others =>
      simp only [hfirst, hothers, bind, Except.bind, pure, Except.pure] at hmap
      exact ⟨first, others, rfl, rfl, (Except.ok.inj hmap).symm⟩

theorem exists_of_mem_mapM (hmap : as.mapM f = .ok bs) {b : β} (hb : b ∈ bs) :
    ∃ a ∈ as, f a = .ok b := by
  induction as generalizing bs with
  | nil =>
    obtain rfl := Except.ok.inj (List.mapM_nil.symm.trans hmap)
    exact absurd hb List.not_mem_nil
  | cons a rest ih =>
    obtain ⟨first, others, hfirst, hothers, rfl⟩ := of_mapM_cons hmap
    rcases List.mem_cons.mp hb with rfl | hb
    · exact ⟨a, List.mem_cons_self, hfirst⟩
    · obtain ⟨other, hother, hok⟩ := ih hothers hb
      exact ⟨other, List.mem_cons_of_mem _ hother, hok⟩

theorem mem_of_mapM (hmap : as.mapM f = .ok bs) {a : α} (ha : a ∈ as) {b : β} (hb : f a = .ok b) :
    b ∈ bs := by
  induction as generalizing bs with
  | nil => exact absurd ha List.not_mem_nil
  | cons first rest ih =>
    obtain ⟨image, others, himage, hothers, rfl⟩ := of_mapM_cons hmap
    rcases List.mem_cons.mp ha with rfl | ha
    · rw [Except.ok.inj (hb.symm.trans himage)]
      exact List.mem_cons_self
    · exact List.mem_cons_of_mem _ (ih hothers ha)

theorem exists_ok_of_mem_mapM (hmap : as.mapM f = .ok bs) {a : α} (ha : a ∈ as) :
    ∃ b, f a = .ok b := by
  induction as generalizing bs with
  | nil => exact absurd ha List.not_mem_nil
  | cons first rest ih =>
    obtain ⟨image, others, himage, hothers, -⟩ := of_mapM_cons hmap
    rcases List.mem_cons.mp ha with rfl | ha
    · exact ⟨image, himage⟩
    · exact ih hothers ha

theorem exists_mapM_eq_ok (heach : ∀ a ∈ as, ∃ b, f a = .ok b) : ∃ bs, as.mapM f = .ok bs := by
  induction as with
  | nil => exact ⟨[], List.mapM_nil⟩
  | cons a rest ih =>
    obtain ⟨b, hb⟩ := heach a List.mem_cons_self
    obtain ⟨others, hothers⟩ := ih fun other hother => heach other (List.mem_cons_of_mem _ hother)
    exact ⟨b :: others, by rw [List.mapM_cons, hb, hothers]; rfl⟩

theorem forall₂_of_mapM (hmap : as.mapM f = .ok bs) :
    List.Forall₂ (fun a b => f a = .ok b) as bs := by
  induction as generalizing bs with
  | nil =>
    obtain rfl := Except.ok.inj (List.mapM_nil.symm.trans hmap)
    exact .nil
  | cons a rest ih =>
    obtain ⟨first, others, hfirst, hothers, rfl⟩ := of_mapM_cons hmap
    exact .cons hfirst (ih hothers)

theorem length_of_mapM (hmap : as.mapM f = .ok bs) : bs.length = as.length :=
  (forall₂_of_mapM hmap).length_eq.symm

theorem mapM_congr (heach : ∀ a ∈ as, f a = g a) : as.mapM f = as.mapM g := by
  induction as with
  | nil => rfl
  | cons a rest ih =>
    rw [List.mapM_cons, List.mapM_cons, heach a List.mem_cons_self,
      ih fun b hb => heach b (List.mem_cons_of_mem _ hb)]

theorem mapError_eq_ok {δ : Type} {h : ε → δ} {result : Except ε β} {b : β} :
    result.mapError h = .ok b ↔ result = .ok b := by
  cases result <;> simp [Except.mapError]

theorem toOption_eq_some {result : Except ε β} {b : β} :
    result.toOption = some b ↔ result = .ok b := by
  cases result <;> simp [Except.toOption]

end mapM

variable {tree later : FileTree} {directory : String} {patterns : List String} {found : Found}

theorem mem_behind {path : String} {component : Component}
    (hmem : component ∈ behind directory path) : component ∈ components path := by
  rw [behind] at hmem
  cases hstrip : strip? (components directory) (components path) with
  | none => rwa [hstrip] at hmem
  | some rest =>
    rw [hstrip] at hmem
    rw [strip?_eq_some.mp hstrip]
    exact List.mem_append_right _ hmem

/-- The name at the end of a path is at its end behind a directory too, unless the path is that of
the directory. -/
theorem fileName?_behind {path name : String} {front : List Component}
    (hpath : components path = front ++ [.named name])
    (hne : components path ≠ components directory) :
    fileName? (behind directory path) = some name := by
  rw [behind]
  cases hstrip : strip? (components directory) (components path) with
  | none => simp [hpath, fileName?, Component.name?]
  | some rest =>
    have happend := strip?_eq_some.mp hstrip
    have hrest : rest ≠ [] := by
      rintro rfl
      exact hne (by simpa using happend)
    have hlast : rest.getLast? = some (.named name) := by
      have hsame := congrArg List.getLast? (happend.symm.trans hpath)
      rwa [List.getLast?_append_of_ne_nil _ hrest, List.getLast?_concat] at hsame
    simp [fileName?, hlast, Component.name?]

/-- That the name at a place is that of a generated file. -/
def IsGenerated (place : Place) : Prop :=
  ∃ parent name, place = parent ++ [name] ∧ name.endsWith Artifact.ending = true

/-- What is a source file for patterns that are relative to a directory. -/
structure IsSource (tree : FileTree) (directory : String) (found : Found) : Prop where
  leads : found.Leads tree
  file : tree.isFile found.place = true
  kept : isSkipped directory found.path = false

/-- A path stays in front, and the one behind it is left out if it is the same. -/
theorem withoutRepeats_cons (first : Found) (rest : List Found) :
    ∃ others, withoutRepeats (first :: rest) = first :: others ∧
      (others = withoutRepeats rest ∧
          (∀ next ∈ others.head?, components first.path ≠ components next.path) ∨
        ∃ next, withoutRepeats rest = next :: others ∧
          components first.path = components next.path) := by
  rw [withoutRepeats]
  cases withoutRepeats rest with
  | nil => exact ⟨[], rfl, .inl ⟨rfl, by simp⟩⟩
  | cons next others =>
    by_cases hsame : components first.path = components next.path
    · exact ⟨others, by simp [hsame], .inr ⟨next, rfl, hsame⟩⟩
    · exact ⟨next :: others, by simp [hsame], .inl ⟨rfl, by simpa using hsame⟩⟩

theorem withoutRepeats_subset : ∀ found : List Found, withoutRepeats found ⊆ found
  | [] => List.nil_subset _
  | first :: rest => by
    have hrest := withoutRepeats_subset rest
    obtain ⟨others, hkept, hothers⟩ := withoutRepeats_cons first rest
    rw [hkept]
    refine List.cons_subset_cons _ fun found hfound => hrest ?_
    rcases hothers with ⟨rfl, -⟩ | ⟨next, hnext, -⟩
    · exact hfound
    · exact hnext ▸ List.mem_cons_of_mem _ hfound

theorem withoutRepeats_of_nodup {found : List Found}
    (hdistinct : (found.map fun each => components each.path).Nodup) :
    withoutRepeats found = found := by
  induction found with
  | nil => rfl
  | cons first rest ih =>
    rw [List.map_cons, List.nodup_cons] at hdistinct
    rw [withoutRepeats, ih hdistinct.2]
    cases rest with
    | nil => rfl
    | cons next others =>
      have hne : components first.path ≠ components next.path := fun heq =>
        hdistinct.1 (List.mem_map.mpr ⟨next, List.mem_cons_self, heq.symm⟩)
      simp [hne]

/-- The patterns that are meant. -/
def meant (patterns : List String) : List String :=
  if patterns.isEmpty then [everything] else patterns

/-- What patterns match is loaded file by file, if nothing is matched twice. -/
theorem exists_files_of_nodup {matched : List (List Found)}
    (hmatched : (meant patterns).mapM (matching tree directory) = .ok matched)
    (hdistinct : (matched.flatten.map fun each => components each.path).Nodup) :
    ∃ loaded, files tree directory patterns = .ok loaded ∧
      loaded.length = matched.flatten.length := by
  have hsorted : (matched.flatten.mergeSort inOrder).Perm matched.flatten := List.mergeSort_perm _ _
  refine ⟨matched.flatten.mergeSort inOrder, ?_, hsorted.length_eq⟩
  rw [files]
  change ((meant patterns).mapM (matching tree directory) >>= _) = _
  rw [hmatched]
  exact congrArg Except.ok
    (withoutRepeats_of_nodup ((hsorted.map _).nodup_iff.mpr hdistinct))

/-- What patterns match in order, and nothing of it twice, is loaded in that order. -/
theorem files_of_sorted {matched : List (List Found)}
    (hmatched : (meant patterns).mapM (matching tree directory) = .ok matched)
    (hsorted : matched.flatten.Pairwise fun first second => inOrder first second = true)
    (hdistinct : (matched.flatten.map fun each => components each.path).Nodup) :
    files tree directory patterns = .ok matched.flatten := by
  rw [files]
  change ((meant patterns).mapM (matching tree directory) >>= _) = _
  rw [hmatched]
  change Except.ok (withoutRepeats (matched.flatten.mergeSort inOrder)) = _
  rw [List.mergeSort_of_pairwise hsorted, withoutRepeats_of_nodup hdistinct]

theorem exists_matched_of_files {loaded : List Found}
    (hfiles : files tree directory patterns = .ok loaded) :
    ∃ matched, (meant patterns).mapM (matching tree directory) = .ok matched ∧
      withoutRepeats (matched.flatten.mergeSort inOrder) = loaded := by
  simp only [files, bind, Except.bind, pure, Except.pure] at hfiles
  split at hfiles
  · exact absurd hfiles (by simp)
  · next matched hmatched => exact ⟨matched, hmatched, Except.ok.inj hfiles⟩

/-- Every file that is loaded was found by one of the patterns. -/
theorem exists_pattern_of_mem_files {loaded : List Found}
    (hfiles : files tree directory patterns = .ok loaded) (hfound : found ∈ loaded) :
    ∃ pattern ∈ meant patterns, ∃ parsed,
      PathPattern.parse? (join directory pattern) = some parsed ∧ found ∈ parsed.find tree ∧
        tree.isFile found.place = true ∧ isSkipped directory found.path = false := by
  obtain ⟨matched, hmatched, rfl⟩ := exists_matched_of_files hfiles
  have hmem := List.mem_mergeSort.mp (withoutRepeats_subset _ hfound)
  obtain ⟨each, heach, hfound⟩ := List.mem_flatten.mp hmem
  obtain ⟨pattern, hpattern, hok⟩ := exists_of_mem_mapM hmatched heach
  unfold matching at hok
  split at hok
  · exact absurd hok (by simp)
  · next parsed hparsed =>
    obtain rfl := Except.ok.inj hok
    obtain ⟨hfind, hmeets⟩ := List.mem_filter.mp hfound
    obtain ⟨hfile, hkept⟩ := Bool.and_eq_true_iff.mp hmeets
    exact ⟨pattern, hpattern, parsed, hparsed, hfind, hfile, by simpa using hkept⟩

theorem isSource_of_mem_files (hsound : FileTree.Sound tree) {loaded : List Found}
    (hfiles : files tree directory patterns = .ok loaded) (hfound : found ∈ loaded) :
    IsSource tree directory found := by
  obtain ⟨_, -, parsed, hparsed, hfind, hfile, hkept⟩ := exists_pattern_of_mem_files hfiles hfound
  exact ⟨PathPattern.leads_find hsound hparsed hfind, hfile, hkept⟩

/-- A file has the name that is at the end of the path which leads to it. -/
theorem fileName?_of_leads (hsound : FileTree.Sound tree)
    (hdirectory : tree.content? directory = none) (hleads : found.Leads tree)
    (hfile : tree.isFile found.place = true) : ∃ parent name, found.place = parent ++ [name] ∧
      fileName? (behind directory found.path) = some name := by
  obtain ⟨front, name, parent, hpath, -, -, -, hplace⟩ :=
    hsound.exists_name hleads.resolve (FileTree.isDirectory_of_isFile hfile)
  refine ⟨parent, name, hplace, fileName?_behind hpath fun hsame => ?_⟩
  -- No path that means the same as that of the directory leads to a file.
  obtain ⟨content, hcontent⟩ := FileTree.isFile_iff.mp hfile
  have hresolve : tree.resolve directory = some found.place := by
    rw [FileTree.resolve, ← hsame]
    exact hleads.resolve
  simp [FileTree.content?, FileTree.lookup, hresolve, hcontent] at hdirectory

theorem isSkipped_of_isGenerated (hsound : FileTree.Sound tree)
    (hdirectory : tree.content? directory = none) (hleads : found.Leads tree)
    (hfile : tree.isFile found.place = true) (hgenerated : IsGenerated found.place) :
    isSkipped directory found.path = true := by
  obtain ⟨parent, name, hplace, hname⟩ := fileName?_of_leads hsound hdirectory hleads hfile
  obtain ⟨parent', name', hplace', hends⟩ := hgenerated
  obtain ⟨-, rfl⟩ : parent = parent' ∧ name = name' := by
    simpa using hplace.symm.trans hplace'
  rw [isSkipped, hname, Option.any_some, hends, Bool.true_or]

theorem IsSource.not_isGenerated (hsound : FileTree.Sound tree)
    (hdirectory : tree.content? directory = none) (hsource : IsSource tree directory found) :
    ¬ IsGenerated found.place := by
  intro hgenerated
  have hskipped :=
    isSkipped_of_isGenerated hsound hdirectory hsource.leads hsource.file hgenerated
  exact absurd hskipped (by simp [hsource.kept])

/-- That a tree came of another one by making directories and by writing generated files. -/
structure AddsGenerated (tree later : FileTree) : Prop where
  sound : FileTree.Sound later
  grows : FileTree.Grows tree later
  other : ∀ place, later.entry? place = tree.entry? place ∨
    later.isDirectory place = true ∨ IsGenerated place

/-- The directories out of which the search for source files climbs by two dots. -/
def climbed (tree : FileTree) (directory : String) (patterns : List String) : List Place :=
  (meant patterns).flatMap fun pattern =>
    ((PathPattern.parse? (join directory pattern)).map (·.climbed tree)).getD []

/-- Patterns of which no part stands for two dots climb out of no directory. -/
theorem climbed_of_not_climbs
    (hnot : ∀ pattern ∈ meant patterns, ∀ parsed ∈ PathPattern.parse? (join directory pattern),
      ∀ segment ∈ parsed.segments, segment.climbs = false) :
    climbed tree directory patterns = [] := by
  refine List.flatMap_eq_nil_iff.mpr fun pattern hpattern => ?_
  cases hparsed : PathPattern.parse? (join directory pattern) with
  | none => rfl
  | some parsed =>
    exact PathPattern.climbed_of_not_climbs (hnot pattern hpattern parsed hparsed) tree

section again

variable (hsound : FileTree.Sound tree) (hadds : AddsGenerated tree later)
include hsound hadds

/-- A file that was loaded is still there, with the same content. -/
theorem entry?_of_isSource (hdirectory : tree.content? directory = none)
    (hsource : IsSource tree directory found) :
    later.entry? found.place = tree.entry? found.place := by
  rcases hadds.other found.place with hsame | hmade | hgenerated
  · exact hsame
  · have := FileTree.isDirectory_of_isFile (hadds.grows.file hsource.file)
    simp [hmade] at this
  · exact absurd hgenerated (hsource.not_isGenerated hsound hdirectory)

theorem content?_of_isSource (hdirectory : tree.content? directory = none)
    (hsource : IsSource tree directory found) :
    later.content? found.path = tree.content? found.path := by
  have hresolve := hsource.leads.resolve
  rw [FileTree.content?, FileTree.content?, FileTree.lookup, FileTree.lookup, hresolve,
    hadds.grows.resolve hresolve, Option.bind_some, Option.bind_some,
    entry?_of_isSource hsound hadds hdirectory hsource]

variable (hdirectory : later.content? directory = none)
include hdirectory

omit hsound in
/-- A file that is new is none of those that are meant. -/
theorem isOld_of_not_isSkipped (hleads : found.Leads later)
    (hfile : later.isFile found.place = true) (hkept : isSkipped directory found.path = false) :
    found.isOld tree = true := by
  rcases hadds.other found.place with hsame | hmade | hgenerated
  · rw [Found.isOld, FileTree.has, ← hsame]
    exact FileTree.has_of_isFile hfile
  · have := FileTree.isDirectory_of_isFile hfile
    simp [hmade] at this
  · have := isSkipped_of_isGenerated hadds.sound hdirectory hleads hfile hgenerated
    simp [hkept] at this

theorem matching_eq {pattern : String}
    (hclimbed : ∀ parsed, PathPattern.parse? (join directory pattern) = some parsed →
      ∀ place ∈ parsed.climbed later, tree.has place = true) :
    matching later directory pattern = matching tree directory pattern := by
  unfold matching
  cases hparsed : PathPattern.parse? (join directory pattern) with
  | none => rfl
  | some parsed =>
    have hfind := PathPattern.filter_find hsound hadds.sound hadds.grows (hclimbed parsed hparsed)
    simp only [Except.ok.injEq]
    rw [← hfind, List.filter_filter]
    refine List.filter_congr fun found hfound => ?_
    have hleads := PathPattern.leads_find hadds.sound hparsed hfound
    cases hold : found.isOld tree with
    | true => rw [hadds.grows.isFile_eq hold, Bool.and_true]
    | false =>
      rw [Bool.and_false, ← Bool.not_eq_true, Bool.and_eq_true, Bool.not_eq_true']
      rintro ⟨hfile, hkept⟩
      have := isOld_of_not_isSkipped hadds hdirectory hleads hfile hkept
      simp [hold] at this

theorem files_eq
    (hclimbed : ∀ place ∈ climbed later directory patterns, tree.has place = true) :
    files later directory patterns = files tree directory patterns := by
  have hmatched : (meant patterns).mapM (matching later directory) =
      (meant patterns).mapM (matching tree directory) := by
    refine mapM_congr fun pattern hpattern => matching_eq hsound hadds hdirectory ?_
    intro parsed hparsed place hplace
    exact hclimbed place (List.mem_flatMap.mpr ⟨pattern, hpattern, by simpa [hparsed] using hplace⟩)
  rw [files, files]
  change ((meant patterns).mapM (matching later directory) >>= _) =
    ((meant patterns).mapM (matching tree directory) >>= _)
  rw [hmatched]

/-- The same units are loaded from a tree to which generated files were added, unless patterns
climb out of new directories. -/
theorem units_eq
    (hclimbed : ∀ place ∈ climbed later directory patterns, tree.has place = true) :
    units later directory patterns = units tree directory patterns := by
  have hbefore := hadds.grows.content?_eq_none hdirectory
  rw [units, units, files_eq hsound hadds hdirectory hclimbed]
  cases hfiles : files tree directory patterns with
  | error cause => rfl
  | ok loaded =>
    refine mapM_congr fun found hfound => ?_
    have hsource := isSource_of_mem_files hsound hfiles hfound
    rw [unit, unit, FileTree.text?, FileTree.text?,
      content?_of_isSource hsound hadds hbefore hsource]

end again

theorem units_of_files {found : List Found} (hfiles : files tree directory patterns = .ok found) :
    units tree directory patterns = found.mapM (Loading.unit tree directory) := by
  rw [units, hfiles]
  rfl

theorem exists_files_of_units {loaded : List SourceUnit}
    (hunits : units tree directory patterns = .ok loaded) :
    ∃ found, files tree directory patterns = .ok found ∧
      found.mapM (Loading.unit tree directory) = .ok loaded := by
  cases hfiles : files tree directory patterns with
  | error cause => simp [units, hfiles, bind, Except.bind] at hunits
  | ok found => exact ⟨found, rfl, (units_of_files hfiles).symm.trans hunits⟩

/-- Loading of which the paths of the units are known succeeds. -/
theorem exists_of_paths {paths : List String}
    (hpaths : (units tree directory patterns).toOption.map (·.map SourceUnit.path) = some paths) :
    ∃ loaded, units tree directory patterns = .ok loaded ∧
      loaded.map SourceUnit.path = paths := by
  obtain ⟨loaded, hloaded, hpaths⟩ := Option.map_eq_some_iff.mp hpaths
  exact ⟨loaded, toOption_eq_some.mp hloaded, hpaths⟩

/-- A unit is what is read from the text that the path of a file leads to. -/
theorem unit_eq_ok {unit : SourceUnit} : Loading.unit tree directory found = .ok unit ↔
    ∃ text, tree.text? found.path = some text ∧
      SourceUnit.ofText (SourceUnit.packageName (components (unitPath directory found.path))
        (components directory)) (unitPath directory found.path) text = .ok unit := by
  rw [Loading.unit]
  cases tree.text? found.path with
  | none => simp
  | some text => simp [mapError_eq_ok]

theorem path_of_unit {unit : SourceUnit}
    (hunit : Loading.unit tree directory found = .ok unit) :
    unit.path = unitPath directory found.path := by
  obtain ⟨text, -, hread⟩ := unit_eq_ok.mp hunit
  exact (SourceUnit.ofText_eq hread).2

theorem isLoaded_of_unit {unit : SourceUnit}
    (hunit : Loading.unit tree directory found = .ok unit) : unit.IsLoaded := by
  obtain ⟨text, -, hread⟩ := unit_eq_ok.mp hunit
  obtain ⟨hpackage, hpath⟩ := SourceUnit.ofText_eq hread
  refine ⟨⟨_, ?_, hpath⟩, ?_⟩
  · intro name hname
    obtain ⟨component, hcomponent, hsome⟩ := List.mem_filterMap.mp hname
    cases component with
    | named other =>
      obtain rfl := Option.some.inj hsome
      exact isName_of_mem_components (mem_behind hcomponent)
    | root | current | above => exact absurd hsome (by simp [Component.name?])
  · rw [hpackage]
    exact SourceUnit.uncut_packageName (fun _ => isName_of_mem_components)
      fun _ => isName_of_mem_components

theorem isLoaded_of_mem_units {loaded : List SourceUnit}
    (hunits : units tree directory patterns = .ok loaded) {unit : SourceUnit}
    (hunit : unit ∈ loaded) : unit.IsLoaded := by
  obtain ⟨found, -, hmap⟩ := exists_files_of_units hunits
  obtain ⟨each, -, hok⟩ := exists_of_mem_mapM hmap hunit
  exact isLoaded_of_unit hok

end Loading

end ServiceGen
