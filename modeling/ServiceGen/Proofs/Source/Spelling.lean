import ServiceGen.Proofs.Files.Path
import ServiceGen.Source.PackageName

/-!
The name of a package and the spelling of the working directory. A file that stands for the working
directory takes its name from the last component of the directory. A dot behind the directory does
not change that component, but a step into a directory and out again does: what is last then is no
name, and the package is called after the file itself. All other files have the name of their
package from their own path.
-/
namespace ServiceGen.SourceUnit

open Files

/-- The name of a file without its ending, if the path leads to a file. -/
def stemOf (path : List Component) : String := ((fileName? path).map stem).getD ""

/-- A name with underscores for its dashes. -/
def underscored (name : String) : String :=
  String.ofList (name.toList.map fun c => if c == '-' then '_' else c)

/-- A file that stands for the working directory: the path does not name the directory that it is
in, or that is a directory `src` and the path does not name the one around it. -/
inductive IsRootFile (path : List Component) : Prop
  | beside (hstem : stemOf path ∈ ["mod", "lib", "main"])
    (hparent : directoryName? (parent? path) = none)
  | inSource (hstem : stemOf path ∈ ["lib", "main"])
    (hparent : directoryName? (parent? path) = some "src")
    (haround : directoryName? ((parent? path).bind parent?) = none)

section

variable {path : List Component}

/-- The working directory is asked for its name only where the path alone gives none. -/
theorem packageName_eq (path directory : List Component) :
    packageName path directory =
      underscored (((ownName? path []).or (fileName? directory)).getD (stemOf path)) := by
  have hown : (ownName? path directory <|> fileName? directory) =
      (ownName? path []).or (fileName? directory) := by
    simp only [ownName?, Option.orElse_eq_orElse, Option.orElse_eq_or]
    split
    · rfl
    · split
      · split
        · rw [Option.or_assoc, Option.or_assoc, Option.or_self]
          rfl
        · rfl
      · rfl
  rw [packageName, hown]
  rfl

theorem ownName?_eq_none_iff : ownName? path [] = none ↔ IsRootFile path := by
  have hstem : stemOf path = ((fileName? path).map stem).getD "" := rfl
  have hnone : fileName? [] = none := rfl
  simp only [ownName?, ← hstem, hnone, beq_iff_eq, Bool.or_eq_true, Option.orElse_eq_orElse,
    Option.orElse_eq_or, Option.or_none]
  constructor
  · intro hown
    split at hown
    · next hmod => exact .beside (by simp [hmod]) hown
    · split at hown
      · next hroot =>
        split at hown
        · next hsource => exact .inSource (by simpa using hroot) hsource hown
        · exact .beside (by simpa using .inr hroot) hown
      · exact absurd hown (by simp)
  · rintro (⟨hroot, hparent⟩ | ⟨hroot, hparent, haround⟩)
    · have hstems : stemOf path = "mod" ∨ stemOf path = "lib" ∨ stemOf path = "main" := by
        simpa using hroot
      rcases hstems with hmod | hroot
      · rw [if_pos hmod, hparent]
      · have hsource : directoryName? (parent? path) ≠ some "src" := by simp [hparent]
        rw [if_pos hroot, if_neg hsource, hparent, ite_self]
    · have hroot : stemOf path = "lib" ∨ stemOf path = "main" := by simpa using hroot
      have hmod : stemOf path ≠ "mod" := by rcases hroot with h | h <;> simp [h]
      rw [if_neg hmod, if_pos hroot, if_pos hparent, haround]

/-- A file that stands for the working directory is called after it, or by its own name where the
directory has none. -/
theorem packageName_of_isRootFile (hroot : IsRootFile path) (directory : List Component) :
    packageName path directory = underscored ((fileName? directory).getD (stemOf path)) := by
  rw [packageName_eq, ownName?_eq_none_iff.mpr hroot, Option.none_or]

/-- For every other file it does not matter what the working directory is. -/
theorem packageName_of_not_isRootFile (hroot : ¬ IsRootFile path)
    (directory other : List Component) : packageName path directory = packageName path other := by
  obtain ⟨name, hname⟩ := Option.ne_none_iff_exists'.mp (mt ownName?_eq_none_iff.mp hroot)
  rw [packageName_eq, packageName_eq path other, hname, Option.some_or, Option.some_or]

/-- The name of the working directory is all that matters of it. -/
theorem packageName_congr {directory other : List Component}
    (hname : fileName? directory = fileName? other) :
    packageName path directory = packageName path other := by
  rw [packageName_eq, packageName_eq path other, hname]

theorem fileName?_map_named (names : List String) :
    fileName? (names.map .named) = names.getLast? := by
  rw [fileName?, List.getLast?_map]
  cases names.getLast? <;> rfl

theorem parent?_map_named (names : List String) (last : String) :
    parent? ((names ++ [last]).map .named) = some (names.map .named) := by
  rw [parent?, List.map_append, List.map_singleton, List.getLast?_concat, List.dropLast_concat]

/-- Of the paths that go down from the working directory, those of `mod`, `lib` and `main` right in
it and of the latter two in its directory `src` lead to files that stand for it. -/
theorem isRootFile_iff {names : List String} :
    IsRootFile (names.map .named) ↔
      (∃ file, names = [file] ∧ stem file ∈ ["mod", "lib", "main"]) ∨
        ∃ file, names = ["src", file] ∧ stem file ∈ ["lib", "main"] := by
  rcases List.eq_nil_or_concat' names with rfl | ⟨front, file, rfl⟩
  · constructor
    · rintro (⟨hstem, -⟩ | ⟨hstem, -, -⟩) <;> exact absurd hstem (by decide)
    · simp
  have hstem : stemOf ((front ++ [file]).map .named) = stem file := by
    rw [stemOf, fileName?_map_named, List.getLast?_concat]
    rfl
  have hparent : directoryName? (parent? ((front ++ [file]).map .named)) = front.getLast? := by
    rw [parent?_map_named, directoryName?, Option.bind_some, fileName?_map_named]
  constructor
  · rintro (⟨hfile, hnone⟩ | ⟨hfile, hsource, haround⟩)
    · rw [hparent, List.getLast?_eq_none_iff] at hnone
      exact .inl ⟨file, by rw [hnone, List.nil_append], hstem ▸ hfile⟩
    · rw [hparent] at hsource
      obtain ⟨around, rfl⟩ := List.getLast?_eq_some_iff.mp hsource
      rw [parent?_map_named, Option.bind_some, parent?_map_named, directoryName?,
        Option.bind_some, fileName?_map_named, List.getLast?_eq_none_iff] at haround
      exact .inr ⟨file, by rw [haround]; rfl, hstem ▸ hfile⟩
  · rintro (⟨last, hnames, hfile⟩ | ⟨last, hnames, hfile⟩)
    · obtain ⟨rfl, hlast⟩ := List.append_inj' (hnames.trans (List.nil_append [last]).symm) rfl
      obtain rfl := List.singleton_inj.mp hlast
      exact .beside (hstem ▸ hfile) (by rw [hparent]; rfl)
    · have hnames : front ++ [file] = ["src"] ++ [last] := hnames
      obtain ⟨rfl, hlast⟩ := List.append_inj' hnames rfl
      obtain rfl := List.singleton_inj.mp hlast
      exact .inSource (hstem ▸ hfile) (by rw [hparent]; rfl) rfl

end

section

theorem fileName?_join_dot (directory : String) :
    fileName? (components (join directory ".")) = fileName? (components directory) := by
  by_cases hempty : directory = ""
  · rw [hempty]
    decide
  · rw [components_join hempty (by decide)]
    have hdot : meaning "." = [] := by decide
    rw [hdot, List.append_nil]

/-- A way out of a directory has no name. -/
theorem fileName?_join_above (directory : String) :
    fileName? (components (join directory "..")) = none := by
  by_cases hempty : directory = ""
  · rw [hempty]
    decide
  · have habove : meaning ".." = [.above] := by decide
    rw [components_join hempty (by decide), habove, fileName?, List.getLast?_concat]
    rfl

/-- The names of files that stand for the working directory have no dashes. -/
theorem underscored_stemOf {path : List Component} (hroot : IsRootFile path) :
    underscored (stemOf path) = stemOf path := by
  have hstem : stemOf path ∈ ["mod", "lib", "main"] := by
    cases hroot with
    | beside hstem _ => exact hstem
    | inSource hstem _ _ => exact List.mem_cons_of_mem _ hstem
  have hplain : ∀ name ∈ ["mod", "lib", "main"], underscored name = name := by decide
  exact hplain _ hstem

end

/-- A dot behind the working directory never changes the name of a package. A step into a directory
and out again changes it exactly for the files that stand for the working directory, unless that
has no name or the name of the file: their package has the name of the directory without such a
step, and the name of the file with it. No other file has its package's name from the working
directory at all. Below the directory, the files that stand for it are `mod`, `lib` and `main` right
in it, and the latter two in its directory `src`. -/
theorem packageName_of_spellings (path directory between : String) :
    let name (directory : String) := packageName (components path) (components directory)
    let detour := join (join directory between) ".."
    name (join directory ".") = name directory ∧
    (name detour = name directory ↔ ¬ IsRootFile (components path) ∨
      ∀ called, fileName? (components directory) = some called →
        underscored called = stemOf (components path)) ∧
    (IsRootFile (components path) → name detour = stemOf (components path) ∧
      ∀ called, fileName? (components directory) = some called →
        name directory = underscored called) ∧
    (¬ IsRootFile (components path) → ∀ other, name directory = name other) ∧
    ∀ names : List String, IsRootFile (names.map .named) ↔
      (∃ file, names = [file] ∧ stem file ∈ ["mod", "lib", "main"]) ∨
        ∃ file, names = ["src", file] ∧ stem file ∈ ["lib", "main"] := by
  intro name detour
  have hdetour : IsRootFile (components path) → name detour = stemOf (components path) := by
    intro hroot
    rw [← underscored_stemOf hroot]
    exact (packageName_of_isRootFile hroot _).trans (by rw [fileName?_join_above, Option.getD_none])
  have hcalled (hroot : IsRootFile (components path)) (called : String)
      (hname : fileName? (components directory) = some called) :
      name directory = underscored called :=
    (packageName_of_isRootFile hroot _).trans (by rw [hname, Option.getD_some])
  have hother (hroot : ¬ IsRootFile (components path)) (other : String) :
      name directory = name other := packageName_of_not_isRootFile hroot _ _
  refine ⟨packageName_congr (fileName?_join_dot directory), ?_,
    fun hroot => ⟨hdetour hroot, hcalled hroot⟩, hother, fun _ => isRootFile_iff⟩
  by_cases hroot : IsRootFile (components path)
  · rw [hdetour hroot]
    cases hname : fileName? (components directory) with
    | none =>
      have hsame : name directory = underscored (stemOf (components path)) :=
        (packageName_of_isRootFile hroot _).trans (by rw [hname, Option.getD_none])
      simp [hsame, underscored_stemOf hroot]
    | some called =>
      rw [hcalled hroot called hname]
      simp [hroot, eq_comm]
  · exact iff_of_true (hother hroot detour).symm (.inl hroot)

/-- The file of a whole package is called after the directory `shop`, but not if that is spelled
with a step into a directory and out again. -/
theorem detour_renames :
    packageName (components "lib.rs") (components "/work/shop") = "shop" ∧
      packageName (components "lib.rs") (components (join "/work/shop" ".")) = "shop" ∧
      packageName (components "lib.rs") (components (join (join "/work/shop" "src") "..")) = "lib" ∧
      packageName (components "src/main.rs")
        (components (join (join "/work/shop" "src") "..")) = "main" := by
  decide

end ServiceGen.SourceUnit
