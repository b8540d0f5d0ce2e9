import ServiceGen.Proofs.Generation.Batch
import ServiceGen.Proofs.Generation.Production
import ServiceGen.Proofs.Source.Below

/-!
Where units and their artifacts are. Each unit is where its path leads from the working directory,
no file is loaded as two units, and where output goes below that directory, the artifact of a unit
is in the directory of its file. That asks for patterns which stay below the working directory: one
that climbs by two dots finds files of which the path of the unit says nothing true.
-/
namespace ServiceGen

open Files FileTree Generation

namespace Production

variable {settings : Settings} {tree : FileTree} {found : Found} {unit : SourceUnit}

/-- That a unit was read from a file, that its path leads to this file, and that its artifact has a
place in the directory of the file. -/
structure IsPlaced (settings : Settings) (tree : FileTree) (found : Found) (unit : SourceUnit) :
    Prop where
  read : Loading.unit tree settings.directory found = .ok unit
  leads : tree.resolve found.path = some found.place
  file : tree.isFile found.place = true
  path : tree.resolve (join settings.directory unit.path) = some found.place
  artifact : ∀ artifact, artifact? settings.generation unit = some artifact →
    tree.resolve (join settings.outputRoot artifact.path) =
      some (found.place.dropLast ++ [unit.package ++ Artifact.ending])

/-- What has another name in the same directory as a file has a place there. -/
theorem resolve_beside (hsound : Sound tree) {directory path file : String} {names : List String}
    {top : Place} (htop : tree.resolve directory = some top)
    (hdirectory : tree.isDirectory top = true) (hfile : tree.isFile (top ++ names) = true)
    (hpath : components path = (names.dropLast ++ [file]).map .named) :
    tree.resolve (join directory path) = some ((top ++ names).dropLast ++ [file]) := by
  have hne : names ≠ [] := by
    rintro rfl
    have hnot := isDirectory_of_isFile hfile
    simp [hdirectory] at hnot
  have hparent : tree.isDirectory (top ++ names.dropLast) = true := by
    rw [← List.dropLast_append_of_ne_nil hne]
    exact hsound.isDirectory_dropLast (has_of_isFile hfile)
  have hfollow := hsound.follow_names hdirectory (has_of_isDirectory hparent)
  obtain ⟨hrelative, hmeaning⟩ := relative_of_components hpath
  rw [resolve_join hsound.base htop hrelative, hmeaning, List.map_append, List.foldlM_append,
    hfollow, List.dropLast_append_of_ne_nil hne, Option.bind_eq_bind, Option.bind_some,
    List.map_singleton, List.foldlM_cons, step_named.mpr ⟨hparent, rfl⟩]
  rfl

theorem isPlaced_of_below (hsound : Sound tree) (houtput : settings.output = none)
    (hdirectory : IsLiteral settings.directory) {names : List String}
    (hbelow : Below settings.directory found.path names)
    (hsource : Loading.IsSource tree settings.directory found) {top : Place}
    (htop : tree.resolve settings.directory = some top) (hisdir : tree.isDirectory top = true)
    (hread : Loading.unit tree settings.directory found = .ok unit) :
    IsPlaced settings tree found unit := by
  have hleads := hsource.leads.resolve
  have hpath := Loading.path_of_unit hread
  refine ⟨hread, hleads, hsource.file, ?_, fun artifact hartifact => ?_⟩
  · rw [hpath]
    exact Loading.resolve_unitPath hdirectory hbelow hsound hleads
  · obtain ⟨text, rfl⟩ := exists_text_of_generated (Option.join_eq_some_iff.mp hartifact)
    rw [Loading.unitPath_of_below hdirectory hbelow] at hpath
    have hcomponents := Artifact.components_of (fun name => Loading.isName_of_below hbelow) hpath
      (Loading.isLoaded_of_unit hread).package text
    obtain ⟨top', htop', hplace, -⟩ := Loading.exists_top_of_below hbelow hsound hleads
    obtain rfl := Option.some.inj (htop.symm.trans htop')
    rw [Settings.outputRoot, houtput, Option.getD_none, hplace]
    exact resolve_beside hsound htop hisdir (hplace ▸ hsource.file) hcomponents

/-- Each unit that patterns load which stay below the working directory is where its path says, no
file is loaded as two units, and each artifact has a place beside its source file. -/
theorem units_placed (settings : Settings) (tree : FileTree) (loaded : List SourceUnit)
    (hsound : Sound tree) (houtput : settings.output = none)
    (hdirectory : IsLiteral settings.directory)
    (hpatterns : ∀ pattern ∈ Loading.meant settings.patterns,
      Loading.StaysBelow settings.directory pattern)
    (hunits : Loading.units tree settings.directory settings.patterns = .ok loaded) :
    ∃ found, Loading.files tree settings.directory settings.patterns = .ok found ∧
      List.Forall₂ (IsPlaced settings tree) found loaded ∧ (found.map Found.place).Nodup := by
  obtain ⟨found, hfiles, hmap⟩ := Loading.exists_files_of_units hunits
  have hbelow := fun each (heach : each ∈ found) =>
    Loading.exists_below hsound hdirectory hpatterns hfiles heach
  have hsource := fun each (heach : each ∈ found) =>
    Loading.isSource_of_mem_files hsound hfiles heach
  refine ⟨found, hfiles, ?_, ?_⟩
  · have hread := Loading.forall₂_of_mapM hmap
    rw [List.forall₂_iff_zip] at hread ⊢
    refine ⟨hread.1, fun {each} {unit} hmem => ?_⟩
    have heach := (List.of_mem_zip hmem).1
    obtain ⟨⟨names, hnames⟩, top, htop, hisdir⟩ := hbelow each heach
    exact isPlaced_of_below hsound houtput hdirectory hnames (hsource each heach) htop hisdir
      (hread.2 hmem)
  · rw [List.Nodup, List.pairwise_map]
    refine (Loading.pairwise_files hfiles).imp_of_mem fun {a b} ha hb hprecedes hsame => ?_
    obtain ⟨⟨names, hnames⟩, -⟩ := hbelow a ha
    obtain ⟨⟨names', hnames'⟩, -⟩ := hbelow b hb
    have hpath := Loading.components_eq_of_below hsound hnames hnames' (hsource a ha).leads
      (hsource b hb).leads hsame
    exact lt_irrefl _ (hpath ▸ Loading.precedes_iff.mp hprecedes)

/-- The settings of the shop with its output beside the sources. -/
def besideSettings : Settings := { Settings.initial "/shop" 1 with patterns := ["src/*.rs"] }

/-- The unit of the shop is where its path says. -/
theorem shop_units_placed : ∃ loaded,
    Loading.units shopTree "/shop" ["src/*.rs"] = .ok loaded ∧
      loaded.map SourceUnit.path = ["src/a.rs"] ∧
      ∃ found, Loading.files shopTree "/shop" ["src/*.rs"] = .ok found ∧
        List.Forall₂ (IsPlaced besideSettings shopTree) found loaded ∧
        (found.map Found.place).Nodup := by
  obtain ⟨loaded, hunits, hpaths⟩ := Loading.exists_of_paths
    (by decide +kernel : (Loading.units shopTree "/shop" ["src/*.rs"]).toOption.map
      (·.map SourceUnit.path) = some ["src/a.rs"])
  refine ⟨loaded, hunits, hpaths, ?_⟩
  refine units_placed besideSettings shopTree loaded sound_shopTree rfl
    (by decide) (fun pattern hpattern => ?_) hunits
  obtain rfl := List.mem_singleton.mp hpattern
  exact ⟨"src/*.rs", by decide, rfl, by decide +kernel⟩

/-- A tree with a source file and a directory beside it. -/
def deskTree : FileTree :=
  { entries := [(["desk"], .directory), (["desk", "src"], .directory),
      (["desk", "a.rs"], .file "struct A;\n".toUTF8)]
    base := ["desk"]
    journal := [] }

/-- A pattern that climbs out of a directory finds a file whose unit has a path in that directory,
where no file is. -/
theorem climbing_misplaces : ∃ loaded,
    Loading.units deskTree "/desk" ["src/../a.rs"] = .ok loaded ∧
      loaded.map SourceUnit.path = ["src/a.rs"] ∧
      deskTree.resolve "/desk/src/../a.rs" = some ["desk", "a.rs"] ∧
      deskTree.resolve (join "/desk" "src/a.rs") = some ["desk", "src", "a.rs"] ∧
      deskTree.isFile ["desk", "src", "a.rs"] = false := by
  obtain ⟨loaded, hunits, hpaths⟩ := Loading.exists_of_paths
    (by decide +kernel : (Loading.units deskTree "/desk" ["src/../a.rs"]).toOption.map
      (·.map SourceUnit.path) = some ["src/a.rs"])
  exact ⟨loaded, hunits, hpaths, by decide +kernel, by decide +kernel, by decide +kernel⟩

end Production

end ServiceGen
