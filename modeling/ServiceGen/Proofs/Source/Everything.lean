import ServiceGen.Proofs.Source.Below

/-!
Loading everything below a directory. The pattern that is meant if no other is given finds the files
whose names end with `.rs`, in every directory below; of these, generated files and what builds
leave behind are passed over. So there is one unit for each of the others, and none for anything
else.
-/
namespace ServiceGen

open Files FileTree

namespace Loading

variable {tree : FileTree} {directory : String} {top : Place} {names : List String}
  {found : Found} {unit : SourceUnit}

/-- That the names on the way to a file are those of a source file: the last one ends like those of
all source files and not like those of generated ones, and none is that of a directory for
builds. -/
structure IsSourceWay (names : List String) : Prop where
  ending : ∃ last, names.getLast? = some last ∧ last.endsWith ".rs" = true ∧
    last.endsWith Artifact.ending = false
  outside : buildDirectory ∉ names

theorem isSkipped_of_below {path : String} (hdirectory : IsLiteral directory)
    (hbelow : Below directory path names) : isSkipped directory path =
      (names.getLast?.any (·.endsWith Artifact.ending) || names.contains buildDirectory) := by
  have hname : fileName? (names.map .named) = names.getLast? := by
    rw [fileName?, List.getLast?_map]
    cases names.getLast? <;> rfl
  have hcontains : (names.map Component.named).contains (.named buildDirectory) =
      names.contains buildDirectory := by
    rw [Bool.eq_iff_iff, List.contains_iff_mem, List.contains_iff_mem]
    simp
  rw [isSkipped, behind_of_below hdirectory hbelow, hname, hcontains]

/-- What the pattern of all source files finds behind a directory: what is below it with a name that
ends with `.rs`. -/
theorem exists_found_everything (hsound : Sound tree) (hdirectory : IsLiteral directory)
    (htop : tree.resolve directory = some top) (hisdir : tree.isDirectory top = true) :
    ∃ parsed, ∃ start : Found, PathPattern.parse? (join directory everything) = some parsed ∧
      start.Tidy ∧ way start.path = way directory ∧ start.place = top ∧
      parsed.find tree = ((tree.below top).map start.inside).filter fun entry =>
        NamePattern.matchesText (.anyText :: ['.', 'r', 's'].map .exactly) entry.name := by
  have hrelative : isAbsolute everything = false := by decide
  have hsegments : (PathPattern.parts everything.toList).mapM Segment.parse? =
      some [.deep, .name (.anyText :: ['.', 'r', 's'].map .exactly)] := by decide +kernel
  obtain ⟨start, hstart, htidy, hway, hplace⟩ :=
    Files.exists_of_resolve hsound hdirectory htop hisdir
  have honly : ((join directory everything).toList.getLast? == some '/') = false := by
    obtain ⟨front, hfront⟩ := exists_toList_join directory hrelative
    have hne : everything.toList ≠ [] := by decide
    rw [hfront, List.getLast?_append_of_ne_nil _ hne]
    decide
  have hparse := parse?_join hdirectory hrelative (by decide)
  rw [hsegments, honly] at hparse
  refine ⟨_, start, hparse, htidy, hway, hplace, ?_⟩
  rw [PathPattern.find, if_neg (by simp)]
  change (Files.start tree directory).search tree _ = _
  rw [Found.search_spelled, hstart, Option.toList_some, List.flatMap_singleton, Found.search,
    hplace]
  exact List.flatMap_singleton' _

/-- That something found is the file which some names below a directory lead to. -/
structure IsAt (tree : FileTree) (directory : String) (top : Place) (names : List String)
    (found : Found) : Prop where
  below : Below directory found.path names
  place : found.place = top ++ names
  leads : found.Leads tree

theorem names_eq_of_below {a b : List String} {path : String} (ha : Below directory path a)
    (hb : Below directory path b) : a = b := by
  have hsame := List.append_cancel_left (ha.symm.trans hb)
  exact List.map_injective_iff.mpr (fun _ _ => Component.named.inj) hsame

theorem isSourceWay_iff {last : String} (hlast : names.getLast? = some last) :
    IsSourceWay names ↔ last.endsWith ".rs" = true ∧ last.endsWith Artifact.ending = false ∧
      buildDirectory ∉ names := by
  constructor
  · rintro ⟨⟨other, hother, hsource, hgenerated⟩, houtside⟩
    obtain rfl := Option.some.inj (hlast.symm.trans hother)
    exact ⟨hsource, hgenerated, houtside⟩
  · rintro ⟨hsource, hgenerated, houtside⟩
    exact ⟨⟨last, hlast, hsource, hgenerated⟩, houtside⟩

/-- What is inside at some names matches and is not passed over if the names are those of a source
file. -/
theorem isSourceWay_iff_inside (hdirectory : IsLiteral directory) {start : Found}
    (hne : names ≠ []) (hbelow : Below directory (start.inside (start.place ++ names)).path names) :
    IsSourceWay names ↔
      NamePattern.matchesText (.anyText :: ['.', 'r', 's'].map .exactly)
          (start.inside (start.place ++ names)).name = true ∧
        isSkipped directory (start.inside (start.place ++ names)).path = false := by
  obtain ⟨front, last, rfl⟩ : ∃ front last, names = front ++ [last] :=
    ⟨_, _, (List.dropLast_append_getLast hne).symm⟩
  have hlast : (front ++ [last]).getLast? = some last := List.getLast?_concat
  have hname : (start.inside (start.place ++ (front ++ [last]))).name = last.toList :=
    Found.name_inside start (by rw [← List.append_assoc, List.getLast?_concat])
  have hending : last.endsWith ".rs" = true ↔ ['.', 'r', 's'] <:+ last.toList := by
    rw [String.endsWith_eq_endsWith_toSlice, String.Slice.endsWith_string_iff, String.copy_toSlice]
    rfl
  rw [isSourceWay_iff hlast, hname, NamePattern.matchesText_ending,
    isSkipped_of_below hdirectory hbelow, hlast, hending, Option.any_some, Bool.or_eq_false_iff]
  simp

theorem IsSourceWay.ne_nil (hsource : IsSourceWay names) : names ≠ [] := by
  rintro rfl
  obtain ⟨last, hlast, -⟩ := hsource.ending
  exact absurd hlast (by simp)

/-- Of all that is below something found, the source files match and are not passed over. -/
theorem mem_matching_iff (hdirectory : IsLiteral directory) {start : Found}
    (hbelow : ∀ names, names ≠ [] → tree.has (start.place ++ names) = true →
      Below directory (start.inside (start.place ++ names)).path names) :
    found ∈ (((tree.below start.place).map start.inside).filter fun entry =>
        NamePattern.matchesText (.anyText :: ['.', 'r', 's'].map .exactly) entry.name).filter
        (fun entry => tree.isFile entry.place && !isSkipped directory entry.path) ↔
      ∃ names, tree.isFile (start.place ++ names) = true ∧ IsSourceWay names ∧
        found = start.inside (start.place ++ names) := by
  rw [List.mem_filter, List.mem_filter, List.mem_map, Bool.and_eq_true_iff, Bool.not_eq_true']
  constructor
  · rintro ⟨⟨⟨place, hplace, rfl⟩, hmatches⟩, hfile, hkept⟩
    obtain ⟨hhas, names, hne, rfl⟩ := mem_below hplace
    have hsource := isSourceWay_iff_inside hdirectory hne (hbelow names hne hhas)
    exact ⟨names, hfile, hsource.mpr ⟨hmatches, hkept⟩, rfl⟩
  · rintro ⟨names, hfile, hsource, rfl⟩
    have hhas := has_of_isFile hfile
    obtain ⟨hmatches, hkept⟩ := (isSourceWay_iff_inside hdirectory hsource.ne_nil
      (hbelow names hsource.ne_nil hhas)).mp hsource
    exact ⟨⟨⟨_, mem_below_of_has hsource.ne_nil hhas, rfl⟩, hmatches⟩, hfile, hkept⟩

/-- The pattern of all source files matches the source files below a directory, and each is at some
names. -/
theorem exists_matching_everything (hsound : Sound tree) (hdirectory : IsLiteral directory)
    (htop : tree.resolve directory = some top) (hisdir : tree.isDirectory top = true) :
    ∃ matched, matching tree directory everything = .ok matched ∧
      (∀ found ∈ matched, ∃ names, IsAt tree directory top names found ∧
        tree.isFile (top ++ names) = true ∧ IsSourceWay names) ∧
      ∀ names, tree.isFile (top ++ names) = true → IsSourceWay names →
        ∃ found ∈ matched, IsAt tree directory top names found := by
  obtain ⟨parsed, start, hparse, htidy, hway, rfl, hfind⟩ :=
    exists_found_everything hsound hdirectory htop hisdir
  have hbelow (names : Place) (hne : names ≠ []) (hhas : tree.has (start.place ++ names) = true) :
      Below directory (start.inside (start.place ++ names)).path names := by
    rw [Below, ← hway]
    exact Found.components_inside hsound htidy hne hhas
  have hmatching : matching tree directory everything = .ok ((parsed.find tree).filter fun found =>
      tree.isFile found.place && !isSkipped directory found.path) := by
    unfold matching
    rw [hparse]
  have hat (names : Place) (hfile : tree.isFile (start.place ++ names) = true)
      (hsource : IsSourceWay names)
      (hmem : start.inside (start.place ++ names) ∈ parsed.find tree) :
      IsAt tree directory start.place names (start.inside (start.place ++ names)) :=
    ⟨hbelow names hsource.ne_nil (has_of_isFile hfile), rfl,
      PathPattern.leads_find hsound hparse hmem⟩
  refine ⟨_, hmatching, fun found hfound => ?_, fun names hfile hsource => ?_⟩
  · have hmem := List.mem_of_mem_filter hfound
    rw [hfind] at hfound
    obtain ⟨names, hfile, hsource, rfl⟩ := (mem_matching_iff hdirectory hbelow).mp hfound
    exact ⟨names, hat names hfile hsource hmem, hfile, hsource⟩
  · have hfound := (mem_matching_iff hdirectory hbelow).mpr ⟨names, hfile, hsource, rfl⟩
    rw [← hfind] at hfound
    exact ⟨_, hfound, hat names hfile hsource (List.mem_of_mem_filter hfound)⟩

/-- The source files below a directory are loaded, each at some names, and all of them are. -/
theorem exists_files_everything (hsound : Sound tree) (hdirectory : IsLiteral directory)
    (htop : tree.resolve directory = some top) (hisdir : tree.isDirectory top = true) :
    ∃ loaded, files tree directory [] = .ok loaded ∧
      (∀ found ∈ loaded, ∃ names, IsAt tree directory top names found ∧
        tree.isFile (top ++ names) = true ∧ IsSourceWay names) ∧
      ∀ names, tree.isFile (top ++ names) = true → IsSourceWay names →
        ∃ found ∈ loaded, IsAt tree directory top names found := by
  obtain ⟨matched, hmatching, honly, hall⟩ :=
    exists_matching_everything hsound hdirectory htop hisdir
  have hfiles : files tree directory [] = .ok (withoutRepeats (matched.mergeSort inOrder)) := by
    simp [files, hmatching, bind, Except.bind, pure, Except.pure]
  have hsubset : withoutRepeats (matched.mergeSort inOrder) ⊆ matched := fun found hfound =>
    List.mem_mergeSort.mp (withoutRepeats_subset _ hfound)
  refine ⟨_, hfiles, fun found hfound => honly found (hsubset hfound),
    fun names hfile hsource => ?_⟩
  obtain ⟨found, hfound, hat⟩ := hall names hfile hsource
  obtain ⟨kept, hkept, hpath⟩ := exists_kept (List.mem_mergeSort.mpr hfound)
  obtain ⟨names', hat', -⟩ := honly kept (hsubset hkept)
  have hsame : Below directory kept.path names := hpath.trans hat.below
  obtain rfl := names_eq_of_below hat'.below hsame
  exact ⟨kept, hkept, hat'⟩

/-- The unit that is read from the file which some names below a directory lead to, if it can be
read. -/
def read? (tree : FileTree) (directory : String) (top : Place) (names : List String) :
    Option SourceUnit :=
  match tree.entry? (top ++ names) with
  | some (.file content) => (String.fromUTF8? content).bind fun text =>
    (SourceUnit.ofText (SourceUnit.packageName (names.map .named) (components directory))
      (String.intercalate "/" names) text).toOption
  | _ => none

theorem read?_eq_some : read? tree directory top names = some unit ↔
    ∃ content text, tree.entry? (top ++ names) = some (.file content) ∧
      String.fromUTF8? content = some text ∧
      SourceUnit.ofText (SourceUnit.packageName (names.map .named) (components directory))
        (String.intercalate "/" names) text = .ok unit := by
  rw [read?]
  split
  · next content hentry =>
    rw [Option.bind_eq_some_iff]
    constructor
    · rintro ⟨text, htext, hread⟩
      exact ⟨content, text, hentry, htext, toOption_eq_some.mp hread⟩
    · rintro ⟨_, text, hentry', htext, hread⟩
      obtain rfl := Entry.file.inj (Option.some.inj (hentry.symm.trans hentry'))
      exact ⟨text, htext, toOption_eq_some.mpr hread⟩
  · next hother =>
    refine iff_of_false (by simp) ?_
    rintro ⟨content, _, hentry, -⟩
    exact hother content hentry

theorem unit_eq_ok_iff (hdirectory : IsLiteral directory)
    (hat : IsAt tree directory top names found) :
    Loading.unit tree directory found = .ok unit ↔ read? tree directory top names = some unit := by
  have hpath := unitPath_of_below hdirectory hat.below
  have hcomponents := components_intercalate fun name hname => isName_of_below hat.below hname
  rw [unit_eq_ok, hpath, hcomponents, read?_eq_some]
  simp only [text?_eq_some, hat.leads.resolve, hat.place, Option.some.injEq]
  constructor
  · rintro ⟨text, ⟨_, content, rfl, hentry, htext⟩, hread⟩
    exact ⟨content, text, hentry, htext, hread⟩
  · rintro ⟨content, text, hentry, htext, hread⟩
    exact ⟨text, ⟨_, content, rfl, hentry, htext⟩, hread⟩

/-- The units of files below a directory are in the order of their paths. -/
theorem pairwise_units {found : List Found} {loaded : List SourceUnit}
    (hdirectory : IsLiteral directory) (hordered : found.Pairwise Precedes)
    (hbelow : ∀ each ∈ found, ∃ names, Below directory each.path names)
    (hmap : found.mapM (Loading.unit tree directory) = .ok loaded) :
    loaded.Pairwise fun a b => before (components a.path) (components b.path) = true := by
  have hpaths : found.map (fun each => components (unitPath directory each.path)) =
      loaded.map fun unit => components unit.path := by
    rw [← List.forall₂_eq_eq_eq, List.forall₂_map_left_iff, List.forall₂_map_right_iff]
    exact (forall₂_of_mapM hmap).imp fun each unit hok => by rw [path_of_unit hok]
  rw [← List.pairwise_map (R := fun a b => before a b = true), ← hpaths, List.pairwise_map]
  refine hordered.imp_of_mem fun {a b} ha hb hprecedes => ?_
  obtain ⟨names, hnames⟩ := hbelow a ha
  obtain ⟨names', hnames'⟩ := hbelow b hb
  rw [Precedes, hnames, hnames', before_append] at hprecedes
  rwa [unitPath_of_below hdirectory hnames, unitPath_of_below hdirectory hnames',
    components_intercalate fun name hname => isName_of_below hnames hname,
    components_intercalate fun name hname => isName_of_below hnames' hname]

/-- If all source files below a directory can be read, one unit is loaded for each of them and none
for anything else, in the order of their paths. -/
theorem units_everything (tree : FileTree) (directory : String) (top : Place)
    (hsound : Sound tree) (hdirectory : IsLiteral directory)
    (htop : tree.resolve directory = some top) (hisdir : tree.isDirectory top = true)
    (hreadable : ∀ names, tree.isFile (top ++ names) = true → IsSourceWay names →
      (read? tree directory top names).isSome = true) :
    ∃ loaded, units tree directory [] = .ok loaded ∧
      (loaded.Pairwise fun a b => before (components a.path) (components b.path) = true) ∧
      ∀ unit, unit ∈ loaded ↔
        ∃ names, IsSourceWay names ∧ read? tree directory top names = some unit := by
  obtain ⟨found, hfiles, honly, hall⟩ :=
    exists_files_everything hsound hdirectory htop hisdir
  have heach : ∀ each ∈ found, ∃ unit, Loading.unit tree directory each = .ok unit := by
    intro each hmem
    obtain ⟨names, hat, hfile, hsource⟩ := honly each hmem
    obtain ⟨unit, hread⟩ := Option.isSome_iff_exists.mp (hreadable names hfile hsource)
    exact ⟨unit, (unit_eq_ok_iff hdirectory hat).mpr hread⟩
  obtain ⟨loaded, hmap⟩ := exists_mapM_eq_ok heach
  refine ⟨loaded, by rw [units, hfiles]; exact hmap, ?_, fun unit => ⟨fun hunit => ?_, ?_⟩⟩
  · refine pairwise_units hdirectory (pairwise_files hfiles) (fun each hmem => ?_) hmap
    obtain ⟨names, hat, -⟩ := honly each hmem
    exact ⟨names, hat.below⟩
  · obtain ⟨each, hmem, hok⟩ := exists_of_mem_mapM hmap hunit
    obtain ⟨names, hat, -, hsource⟩ := honly each hmem
    exact ⟨names, hsource, (unit_eq_ok_iff hdirectory hat).mp hok⟩
  · rintro ⟨names, hsource, hread⟩
    have hfile : tree.isFile (top ++ names) = true := by
      obtain ⟨content, _, hentry, -⟩ := read?_eq_some.mp hread
      exact isFile_iff.mpr ⟨content, hentry⟩
    obtain ⟨each, hmem, hat⟩ := hall names hfile hsource
    exact mem_of_mapM hmap hmem ((unit_eq_ok_iff hdirectory hat).mpr hread)

/-- A tree with source files, a generated file, and what a build left behind. -/
def yardTree : FileTree :=
  { entries := [(["yard"], .directory), (["yard", "src"], .directory),
      (["yard", "target"], .directory), (["yard", "src", "orders"], .directory),
      (["yard", "src", "orders", "mod.rs"], .file "pub trait A \x7b\x7d\n".toUTF8),
      (["yard", "src", "orders", "orders.gen.rs"], .file "pub trait B \x7b\x7d\n".toUTF8),
      (["yard", "src", "billing.rs"], .file "pub struct C;\n".toUTF8),
      (["yard", "target", "build.rs"], .file "pub struct D;\n".toUTF8)]
    base := ["yard"]
    journal := [] }

/-- The source files of the yard can be read, and `billing.rs` is one of them. -/
theorem yard_units_everything : IsSourceWay ["src", "billing.rs"] ∧
    (read? yardTree "/yard" ["yard"] ["src", "billing.rs"]).isSome = true ∧
    ∃ loaded, units yardTree "/yard" [] = .ok loaded ∧
      (loaded.Pairwise fun a b => before (components a.path) (components b.path) = true) ∧
      ∀ unit, unit ∈ loaded ↔
        ∃ names, IsSourceWay names ∧ read? yardTree "/yard" ["yard"] names = some unit := by
  have hreadable : ∀ place ∈ yardTree.places, yardTree.isFile place = true →
      (read? yardTree "/yard" ["yard"] (place.drop 1)).isSome = true := by decide +kernel
  refine ⟨⟨⟨_, rfl, by decide +kernel, by decide +kernel⟩, by decide⟩, by decide +kernel, ?_⟩
  refine units_everything yardTree "/yard" ["yard"] (by decide +kernel) (by decide)
    (by decide +kernel) (by decide +kernel) fun names hfile _ => ?_
  have hplace := (has_iff.mp (has_of_isFile hfile)).resolve_left (by simp)
  simpa using hreadable _ hplace hfile

/-- A tree with a source file in a directory whose name reads as a class of characters. -/
def bracketTree : FileTree :=
  { entries := [(["[p]"], .directory), (["[p]", "a.rs"], .file "struct A;\n".toUTF8)]
    base := []
    journal := [] }

/-- Nothing is loaded from a directory whose name is read as a pattern that it does not fit. -/
theorem bracket_units_missing : Sound bracketTree ∧
    bracketTree.resolve "/[p]" = some ["[p]"] ∧ IsSourceWay ["a.rs"] ∧
    (read? bracketTree "/[p]" ["[p]"] ["a.rs"]).isSome = true ∧
    units bracketTree "/[p]" [] = .ok [] := by
  refine ⟨by decide +kernel, by decide +kernel,
    ⟨⟨_, rfl, by decide +kernel, by decide +kernel⟩, by decide⟩, by decide +kernel, ?_⟩
  obtain ⟨loaded, hunits, hpaths⟩ := exists_of_paths
    (by decide +kernel : (units bracketTree "/[p]" []).toOption.map (·.map SourceUnit.path) =
      some [])
  rw [hunits, List.map_eq_nil_iff.mp hpaths]

end Loading

end ServiceGen
