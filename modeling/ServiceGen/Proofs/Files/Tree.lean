import Mathlib.Data.List.Induction
import Mathlib.Data.List.Nodup
import ServiceGen.Files.Tree
import ServiceGen.Proofs.Files.Path

/-!
Trees that grow. Directories are made and files are written, but a directory never becomes a file
and nothing is taken away. So a path that leads somewhere keeps leading there, and what was made for
a path does not have to be made again.
-/
namespace ServiceGen.FileTree

open Files

/-- The places that have something at them, beside the top. -/
def places (tree : FileTree) : List Place := tree.entries.map Prod.fst

/-- Whether there is anything at a place. -/
def has (tree : FileTree) (place : Place) : Bool := (tree.entry? place).isSome

/-- What holds of the trees that there can be: whatever there is has a name and stands in a
directory, and nothing is at a place twice. -/
structure Sound (tree : FileTree) : Prop where
  base : tree.isDirectory tree.base = true
  parent : ∀ {place : Place}, place ∈ tree.places → tree.isDirectory place.dropLast = true
  proper : ∀ {place : Place}, place ∈ tree.places → place ≠ [] ∧ ∀ name ∈ place, IsName name
  distinct : tree.places.Nodup

instance (tree : FileTree) : Decidable (Sound tree) :=
  decidable_of_iff (tree.isDirectory tree.base = true ∧
      (∀ place ∈ tree.places, tree.isDirectory place.dropLast = true) ∧
      (∀ place ∈ tree.places, place ≠ [] ∧ ∀ name ∈ place, IsName name) ∧ tree.places.Nodup)
    ⟨fun h => ⟨h.1, fun hplace => h.2.1 _ hplace, fun hplace => h.2.2.1 _ hplace, h.2.2.2⟩,
      fun h => ⟨h.base, fun _ => h.parent, fun _ => h.proper, h.distinct⟩⟩

/-- That one tree came of another by making directories and writing files. -/
structure Grows (tree later : FileTree) : Prop where
  base : later.base = tree.base
  directory : ∀ {place : Place}, tree.isDirectory place = true → later.isDirectory place = true
  file : ∀ {place : Place}, tree.isFile place = true → later.isFile place = true

variable {tree later : FileTree} {place other : Place}

theorem isDirectory_iff : tree.isDirectory place = true ↔ tree.entry? place = some .directory := by
  rw [isDirectory]
  split
  · next h => simp [h]
  · next h => simpa using h

theorem isFile_iff :
    tree.isFile place = true ↔ ∃ content, tree.entry? place = some (.file content) := by
  rw [isFile]
  split
  · next content h => simp [h]
  · next h => simpa using fun content hcontent => h content hcontent

theorem isDirectory_nil : tree.isDirectory [] = true := isDirectory_iff.mpr rfl

theorem isDirectory_of_isFile (hfile : tree.isFile place = true) :
    tree.isDirectory place = false := by
  obtain ⟨content, hcontent⟩ := isFile_iff.mp hfile
  rw [isDirectory, hcontent]

theorem has_of_isDirectory (hdirectory : tree.isDirectory place = true) :
    tree.has place = true := by
  rw [has, isDirectory_iff.mp hdirectory, Option.isSome_some]

theorem has_of_isFile (hfile : tree.isFile place = true) : tree.has place = true := by
  obtain ⟨content, hcontent⟩ := isFile_iff.mp hfile
  rw [has, hcontent, Option.isSome_some]

theorem isFile_of_has (hhas : tree.has place = true) (hnot : tree.isDirectory place = false) :
    tree.isFile place = true := by
  obtain ⟨entry, hentry⟩ := Option.isSome_iff_exists.mp hhas
  cases entry with
  | file content => exact isFile_iff.mpr ⟨content, hentry⟩
  | directory => exact absurd (isDirectory_iff.mpr hentry) (by simp [hnot])

theorem has_iff : tree.has place = true ↔ place = [] ∨ place ∈ tree.places := by
  rw [has, entry?]
  split
  · next hempty => simp [List.isEmpty_iff.mp hempty]
  · next hempty =>
    have hne : place ≠ [] := by simpa using hempty
    simp [hne, places]

theorem content?_eq_some {path : String} {content : ByteArray} :
    tree.content? path = some content ↔
      ∃ place, tree.resolve path = some place ∧ tree.entry? place = some (.file content) := by
  rw [content?, lookup]
  cases hresolve : tree.resolve path with
  | none => simp
  | some place =>
    rw [Option.bind_some]
    split
    · next other hentry => simp [hentry]
    · next hother => simpa using hother content

theorem text?_eq_some {path text : String} :
    tree.text? path = some text ↔ ∃ place content, tree.resolve path = some place ∧
      tree.entry? place = some (.file content) ∧ String.fromUTF8? content = some text := by
  rw [text?, Option.bind_eq_some_iff]
  simp only [content?_eq_some]
  constructor
  · rintro ⟨content, ⟨place, hresolve, hentry⟩, htext⟩
    exact ⟨place, content, hresolve, hentry, htext⟩
  · rintro ⟨place, content, hresolve, hentry, htext⟩
    exact ⟨content, ⟨place, hresolve, hentry⟩, htext⟩

section put

variable {entry : Entry}

theorem entry?_put_self (hne : place ≠ []) : entry? (tree.put place entry) place = some entry := by
  have hnone : (tree.entries.filter (·.1 != place)).find? (·.1 == place) = none := by
    simp [List.find?_eq_none]
  simp [ entry?, put, hne, List.find?_append, hnone]

theorem entry?_put_of_ne (hne : other ≠ place) :
    entry? (tree.put place entry) other = tree.entry? other := by
  have hlast : (place == other) = false := by simpa using Ne.symm hne
  have hfilter : (tree.entries.filter (·.1 != place)).find? (·.1 == other) =
      tree.entries.find? (·.1 == other) := by
    rw [List.find?_filter]
    congr 1
    funext current
    by_cases hcurrent : current.1 = other
    · simp [hcurrent, hne]
    · simp [hcurrent]
  simp [ entry?, put, List.find?_append, hfilter, hlast]

theorem entry?_put (hne : place ≠ []) :
    entry? (tree.put place entry) other =
      if other = place then some entry else tree.entry? other := by
  split
  · next heq => rw [heq, entry?_put_self hne]
  · next hother => exact entry?_put_of_ne hother

theorem places_put :
    (tree.put place entry).places = tree.places.filter (· != place) ++ [place] := by
  rw [places, places, put, List.map_append, List.filter_map]
  rfl

end put

namespace Grows

protected theorem refl (tree : FileTree) : Grows tree tree := ⟨rfl, id, id⟩

protected theorem trans {last : FileTree} (hfirst : Grows tree later) (hsecond : Grows later last) :
    Grows tree last where
  base := hsecond.base.trans hfirst.base
  directory hdirectory := hsecond.directory (hfirst.directory hdirectory)
  file hfile := hsecond.file (hfirst.file hfile)

theorem has (hgrows : Grows tree later) (hhas : tree.has place = true) :
    later.has place = true := by
  cases hdirectory : tree.isDirectory place with
  | true => exact has_of_isDirectory (hgrows.directory hdirectory)
  | false => exact has_of_isFile (hgrows.file (isFile_of_has hhas hdirectory))

/-- What was there before is a directory if it was one. -/
theorem isDirectory_eq (hgrows : Grows tree later) (hhas : tree.has place = true) :
    later.isDirectory place = tree.isDirectory place := by
  cases hdirectory : tree.isDirectory place with
  | true => exact hgrows.directory hdirectory
  | false => exact isDirectory_of_isFile (hgrows.file (isFile_of_has hhas hdirectory))

theorem isFile_eq (hgrows : Grows tree later) (hhas : tree.has place = true) :
    later.isFile place = tree.isFile place := by
  cases hfile : tree.isFile place with
  | true => exact hgrows.file hfile
  | false =>
    cases hdirectory : tree.isDirectory place with
    | true =>
      rw [FileTree.isFile, isDirectory_iff.mp (hgrows.directory hdirectory)]
    | false => exact absurd (isFile_of_has hhas hdirectory) (by simp [hfile])

theorem put_directory (hnone : tree.entry? place = none) :
    Grows tree (tree.put place .directory) := by
  have hne {other : Place} (hother : tree.entry? other ≠ none) : other ≠ place := by
    rintro rfl
    exact hother hnone
  refine ⟨rfl, ?_, ?_⟩
  · intro other hother
    have hentry := isDirectory_iff.mp hother
    rw [isDirectory_iff, entry?_put_of_ne (hne (by simp [hentry])), hentry]
  · intro other hother
    obtain ⟨content, hentry⟩ := isFile_iff.mp hother
    exact isFile_iff.mpr ⟨content, by rw [entry?_put_of_ne (hne (by simp [hentry])), hentry]⟩

theorem put_file (hnot : tree.isDirectory place = false) (content : ByteArray) :
    Grows tree (tree.put place (.file content)) := by
  have hne : place ≠ [] := by
    rintro rfl
    simp [isDirectory_nil] at hnot
  refine ⟨rfl, ?_, ?_⟩
  · intro other hother
    have hother' : other ≠ place := by
      rintro rfl
      simp [hnot] at hother
    rw [isDirectory_iff, entry?_put_of_ne hother', isDirectory_iff.mp hother]
  · intro other hother
    obtain ⟨old, hold⟩ := isFile_iff.mp hother
    by_cases heq : other = place
    · exact isFile_iff.mpr ⟨content, by rw [heq, entry?_put_self hne]⟩
    · exact isFile_iff.mpr ⟨old, by rw [entry?_put_of_ne heq, hold]⟩

end Grows

section step

variable {component : Component} {name : String} {next : Place}

theorem step_named : tree.step place (.named name) = some next ↔
    tree.isDirectory place = true ∧ next = place ++ [name] := by
  rw [step]
  split
  · next hdirectory => simp [hdirectory, eq_comm]
  · next hnot => simp [hnot]

theorem Grows.step (hgrows : Grows tree later) (hstep : tree.step place component = some next) :
    later.step place component = some next := by
  cases component with
  | root => exact hstep
  | current | above | named _ =>
    rw [FileTree.step] at hstep ⊢
    split at hstep
    · next hdirectory => rw [if_pos (hgrows.directory hdirectory), hstep]
    · exact absurd hstep (by simp)

theorem Grows.follow (hgrows : Grows tree later) {way : List Component}
    (hway : way.foldlM tree.step place = some next) :
    way.foldlM later.step place = some next := by
  induction way generalizing place with
  | nil => exact hway
  | cons component rest ih =>
    rw [List.foldlM_cons] at hway ⊢
    obtain ⟨middle, hmiddle, hrest⟩ := Option.bind_eq_some_iff.mp hway
    exact Option.bind_eq_some_iff.mpr ⟨middle, hgrows.step hmiddle, ih hrest⟩

/-- A path keeps leading where it leads. -/
theorem Grows.resolve (hgrows : Grows tree later) {path : String}
    (hpath : tree.resolve path = some place) : later.resolve path = some place := by
  rw [FileTree.resolve, hgrows.base]
  exact hgrows.follow hpath

theorem Grows.content?_eq_none (hgrows : Grows tree later) {path : String}
    (hnone : later.content? path = none) : tree.content? path = none := by
  cases hcontent : tree.content? path with
  | none => rfl
  | some content =>
    obtain ⟨place, hresolve, hentry⟩ := content?_eq_some.mp hcontent
    obtain ⟨other, hother⟩ := isFile_iff.mp (hgrows.file (isFile_iff.mpr ⟨content, hentry⟩))
    have := content?_eq_some.mpr ⟨place, hgrows.resolve hresolve, hother⟩
    simp [hnone] at this

end step

namespace Sound

variable {component : Component} {name : String} {next : Place}

theorem isDirectory_dropLast (hsound : Sound tree) (hhas : tree.has place = true) :
    tree.isDirectory place.dropLast = true := by
  rcases has_iff.mp hhas with rfl | hmem
  · exact isDirectory_nil
  · exact hsound.parent hmem

theorem isName_of_has (hsound : Sound tree) (hhas : tree.has place = true) (hname : name ∈ place) :
    IsName name := by
  rcases has_iff.mp hhas with rfl | hmem
  · exact absurd hname List.not_mem_nil
  · exact (hsound.proper hmem).2 name hname

/-- Whatever something is below of is a directory. -/
theorem isDirectory_of_append (hsound : Sound tree) {more : Place} (hne : more ≠ [])
    (hhas : tree.has (place ++ more) = true) : tree.isDirectory place = true := by
  induction more using List.reverseRecOn with
  | nil => exact absurd rfl hne
  | append_singleton front name ih =>
    have hparent := hsound.isDirectory_dropLast hhas
    rw [← List.append_assoc, List.dropLast_concat] at hparent
    cases front with
    | nil => simpa using hparent
    | cons first others => exact ih (List.cons_ne_nil _ _) (has_of_isDirectory hparent)

theorem isDirectory_of_step (hsound : Sound tree) (hstep : tree.step place component = some next)
    (hnamed : ∀ name, component ≠ .named name) : tree.isDirectory next = true := by
  cases component with
  | named name => exact absurd rfl (hnamed name)
  | root =>
    obtain rfl : [] = next := Option.some.inj hstep
    exact isDirectory_nil
  | current =>
    rw [step] at hstep
    split at hstep
    · next hdirectory => exact Option.some.inj hstep ▸ hdirectory
    · exact absurd hstep (by simp)
  | above =>
    rw [step] at hstep
    split at hstep
    · next hdirectory =>
      exact Option.some.inj hstep ▸ hsound.isDirectory_dropLast (has_of_isDirectory hdirectory)
    · exact absurd hstep (by simp)

/-- A path that does not lead to a directory ends in a name, the name of what it leads to. -/
theorem exists_name (hsound : Sound tree) {path : String} (hpath : tree.resolve path = some place)
    (hnot : tree.isDirectory place = false) :
    ∃ front name parent, components path = front ++ [.named name] ∧ IsName name ∧
      front.foldlM tree.step tree.base = some parent ∧ tree.isDirectory parent = true ∧
      place = parent ++ [name] := by
  rw [resolve] at hpath
  rcases List.eq_nil_or_concat (components path) with hnil | ⟨front, last, hfront⟩
  · rw [hnil] at hpath
    obtain rfl : tree.base = place := Option.some.inj hpath
    simp [hsound.base] at hnot
  · rw [List.concat_eq_append] at hfront
    rw [hfront, List.foldlM_append] at hpath
    obtain ⟨parent, hparent, hlast⟩ := Option.bind_eq_some_iff.mp hpath
    rw [List.foldlM_cons] at hlast
    obtain ⟨_, hstep, hnil⟩ := Option.bind_eq_some_iff.mp hlast
    obtain rfl := Option.some.inj hnil
    cases last with
    | named name =>
      obtain ⟨hdirectory, hplace⟩ := step_named.mp hstep
      have hmem : .named name ∈ components path := by simp [hfront]
      have hname := isName_of_mem_components hmem
      exact ⟨front, name, parent, hfront, hname, hparent, hdirectory, hplace⟩
    | root | current | above =>
      have := hsound.isDirectory_of_step hstep (by simp)
      simp [hnot] at this

/-- Putting something into a directory, under a name, where no directory is. -/
theorem put (hsound : Sound tree) {entry : Entry} (hparent : tree.isDirectory place = true)
    (hname : IsName name) (hnot : tree.isDirectory (place ++ [name]) = false) :
    Sound (tree.put (place ++ [name]) entry) := by
  have hkeep {other : Place} (hother : tree.isDirectory other = true) :
      (tree.put (place ++ [name]) entry).isDirectory other = true := by
    have hne : other ≠ place ++ [name] := by
      rintro rfl
      simp [hnot] at hother
    rw [isDirectory_iff, entry?_put_of_ne hne, isDirectory_iff.mp hother]
  have hmem {other : Place} (hother : other ∈ (tree.put (place ++ [name]) entry).places) :
      other ∈ tree.places ∨ other = place ++ [name] := by
    rw [places_put, List.mem_append, List.mem_singleton] at hother
    exact hother.imp_left List.mem_of_mem_filter
  refine ⟨hkeep hsound.base, ?_, ?_, ?_⟩
  · intro other hother
    rcases hmem hother with hother | rfl
    · exact hkeep (hsound.parent hother)
    · rw [List.dropLast_concat]
      exact hkeep hparent
  · intro other hother
    rcases hmem hother with hother | rfl
    · exact hsound.proper hother
    · refine ⟨by simp, ?_⟩
      intro part hpart
      rcases List.mem_append.mp hpart with hpart | hpart
      · exact hsound.isName_of_has (has_of_isDirectory hparent) hpart
      · exact List.mem_singleton.mp hpart ▸ hname
  · rw [places_put, List.nodup_append]
    refine ⟨hsound.distinct.filter _, List.nodup_singleton _, ?_⟩
    intro other hother last hlast heq
    obtain rfl := List.mem_singleton.mp hlast
    simp [heq] at hother

end Sound

/-- A change of a tree in which the only new things are directories, each at one of the given
places. -/
structure MakesOnly (allowed : Place → Prop) (tree later : FileTree) : Prop where
  sound : Sound later
  grows : Grows tree later
  other : ∀ place, later.entry? place = tree.entry? place ∨
    (tree.entry? place = none ∧ later.entry? place = some .directory ∧ allowed place)

theorem MakesOnly.refl (hsound : Sound tree) (allowed : Place → Prop) :
    MakesOnly allowed tree tree :=
  ⟨hsound, .refl tree, fun _ => .inl rfl⟩

theorem MakesOnly.trans {allowed : Place → Prop} {last : FileTree}
    (hfirst : MakesOnly allowed tree later) (hsecond : MakesOnly allowed later last) :
    MakesOnly allowed tree last := by
  refine ⟨hsecond.sound, hfirst.grows.trans hsecond.grows, ?_⟩
  intro place
  rcases hsecond.other place with hsame | ⟨hnone, hmade, hallowed⟩
  · rw [hsame]
    exact hfirst.other place
  · rcases hfirst.other place with hsame | ⟨-, hmade', -⟩
    · exact .inr ⟨hsame ▸ hnone, hmade, hallowed⟩
    · exact absurd (hnone.symm.trans hmade') (by simp)

theorem MakesOnly.mono {allowed wider : Place → Prop}
    (hwider : ∀ place, allowed place → wider place)
    (hmakes : MakesOnly allowed tree later) : MakesOnly wider tree later :=
  ⟨hmakes.sound, hmakes.grows, fun place => (hmakes.other place).imp_right
    fun ⟨hnone, hmade, hallowed⟩ => ⟨hnone, hmade, hwider place hallowed⟩⟩

section enter

variable {component : Component} {next : Place}

theorem enter_of_ne_named (hnamed : ∀ name, component ≠ .named name) :
    tree.enter place component = (tree, tree.step place component) := by
  cases component with
  | named name => exact absurd rfl (hnamed name)
  | root | current | above => rfl

theorem enter_named {name : String} (hdirectory : tree.isDirectory place = true) :
    tree.enter place (.named name) =
      match tree.entry? (place ++ [name]) with
      | none =>
        if isNameable name then
          (tree.put (place ++ [name]) .directory, some (place ++ [name]))
        else (tree, none)
      | some .directory => (tree, some (place ++ [name]))
      | some (.file _) => (tree, none) := by
  have hstep : tree.step place (.named name) = some (place ++ [name]) :=
    step_named.mpr ⟨hdirectory, rfl⟩
  cases hentry : tree.entry? (place ++ [name]) with
  | none => simp only [enter, hstep, hentry]
  | some entry => cases entry <;> simp only [enter, hstep, hentry]

theorem enter_named_of_not {name : String} (hnot : tree.isDirectory place = false) :
    tree.enter place (.named name) = (tree, none) := by
  have hstep : tree.step place (.named name) = none := by simp [step, hnot]
  unfold enter
  rw [hstep]

/-- Entering a directory makes it if there is nothing, and leads where a step leads then. -/
theorem makesOnly_enter (hsound : Sound tree)
    (hcomponent : ∀ name, component = .named name → IsName name)
    (henter : tree.enter place component = (later, some next)) :
    MakesOnly (· = next) tree later ∧ later.step place component = some next ∧
      later.isDirectory next = true := by
  by_cases hnamed : ∃ name, component = .named name
  · obtain ⟨name, rfl⟩ := hnamed
    cases hdirectory : tree.isDirectory place with
    | false => simp [enter_named_of_not hdirectory] at henter
    | true =>
      rw [enter_named hdirectory] at henter
      cases hentry : tree.entry? (place ++ [name]) with
      | none =>
        simp only [hentry] at henter
        split at henter
        · obtain ⟨rfl, hnext⟩ := Prod.mk.inj henter
          obtain rfl := Option.some.inj hnext
          have hne : place ++ [name] ≠ [] := by simp
          have hnot : tree.isDirectory (place ++ [name]) = false := by
            rw [FileTree.isDirectory, hentry]
          have hgrows := Grows.put_directory hentry
          have hmade : entry? (tree.put (place ++ [name]) .directory) (place ++ [name]) =
            some .directory := entry?_put_self hne
          refine ⟨⟨hsound.put hdirectory (hcomponent name rfl) hnot, hgrows, ?_⟩,
            step_named.mpr ⟨hgrows.directory hdirectory, rfl⟩, isDirectory_iff.mpr hmade⟩
          intro other
          by_cases heq : other = place ++ [name]
          · exact .inr ⟨heq ▸ hentry, heq ▸ hmade, heq⟩
          · exact .inl (entry?_put_of_ne heq)
        · exact absurd henter (by simp)
      | some entry =>
        cases entry with
        | directory =>
          simp only [hentry] at henter
          obtain ⟨rfl, hnext⟩ := Prod.mk.inj henter
          obtain rfl := Option.some.inj hnext
          exact ⟨.refl hsound _, step_named.mpr ⟨hdirectory, rfl⟩, isDirectory_iff.mpr hentry⟩
        | file content => simp [hentry] at henter
  · have hnamed : ∀ name, component ≠ .named name := fun name hname => hnamed ⟨name, hname⟩
    rw [enter_of_ne_named hnamed] at henter
    obtain ⟨rfl, hstep⟩ := Prod.mk.inj henter
    exact ⟨.refl hsound _, hstep, hsound.isDirectory_of_step hstep hnamed⟩

/-- Whoever was let into a directory finds it there in every tree that comes after. -/
theorem enter_again {last : FileTree} (hmade : later.isDirectory next = true)
    (hstep : later.step place component = some next) (hafter : Grows later last) :
    last.enter place component = (last, some next) := by
  by_cases hnamed : ∃ name, component = .named name
  · obtain ⟨name, rfl⟩ := hnamed
    obtain ⟨hdirectory, rfl⟩ := step_named.mp (hafter.step hstep)
    rw [enter_named hdirectory, isDirectory_iff.mp (hafter.directory hmade)]
  · rw [enter_of_ne_named fun name hname => hnamed ⟨name, hname⟩, hafter.step hstep]

/-- That a component at the end of a way's beginning leads to a place. -/
def OnWay (tree : FileTree) (start : Place) (way : List Component) (place : Place) : Prop :=
  ∃ front, front <+: way ∧ front.foldlM tree.step start = some place

theorem OnWay.grows {start : Place} {way : List Component} (hgrows : Grows tree later)
    (hon : OnWay tree start way place) : OnWay later start way place := by
  obtain ⟨front, hfront, hfollow⟩ := hon
  exact ⟨front, hfront, hgrows.follow hfollow⟩

theorem OnWay.cons {start middle : Place} {way : List Component}
    (hstep : tree.step start component = some middle) (hon : OnWay tree middle way place) :
    OnWay tree start (component :: way) place := by
  obtain ⟨front, hfront, hfollow⟩ := hon
  refine ⟨component :: front, List.cons_prefix_cons.mpr ⟨rfl, hfront⟩, ?_⟩
  rw [List.foldlM_cons, hstep]
  exact hfollow

/-- Following a way makes nothing but the directories on it that are missing. -/
theorem makesOnly_enterAll {way : List Component} (hsound : Sound tree)
    (hway : ∀ name, .named name ∈ way → IsName name) (hstart : tree.isDirectory place = true)
    (henter : tree.enterAll place way = (later, some next)) :
    MakesOnly (OnWay later place way) tree later ∧ later.isDirectory next = true ∧
      ∀ last, Grows later last → last.enterAll place way = (last, some next) := by
  induction way generalizing tree place with
  | nil =>
    obtain ⟨rfl, hnext⟩ := Prod.mk.inj henter
    obtain rfl := Option.some.inj hnext
    exact ⟨.refl hsound _, hstart, fun _ _ => rfl⟩
  | cons component rest ih =>
    rw [enterAll] at henter
    split at henter
    · next made middle hmiddle =>
      obtain ⟨hmakes, hstep, hmade⟩ := makesOnly_enter hsound
        (fun name hname => hway name (hname ▸ List.mem_cons_self)) hmiddle
      obtain ⟨hmore, hlast, hagain⟩ := ih hmakes.sound
        (fun name hname => hway name (List.mem_cons_of_mem _ hname)) hmade henter
      refine ⟨.trans (hmakes.mono ?_) (hmore.mono ?_), hlast, ?_⟩
      · rintro _ rfl
        refine .cons (hmore.grows.step hstep) ⟨[], List.nil_prefix, rfl⟩
      · exact fun other hother => hother.cons (hmore.grows.step hstep)
      · intro last hgrows
        have hfirst := enter_again hmade hstep (hmore.grows.trans hgrows)
        rw [enterAll, hfirst]
        exact hagain last hgrows
    · exact absurd henter (by simp)

/-- Making the directories of a path makes nothing else, and has not to be done again. -/
theorem makesOnly_makeDirectories {path : String} (hsound : Sound tree)
    (hmake : tree.makeDirectories path = (later, true)) :
    MakesOnly (OnWay later tree.base (components path)) tree later ∧
      ∀ last, Grows later last → last.makeDirectories path = (last, true) := by
  rw [makeDirectories] at hmake
  split at hmake
  · next hpath =>
    obtain ⟨rfl, hsome⟩ := Prod.mk.inj hmake
    obtain ⟨next, hnext⟩ := Option.isSome_iff_exists.mp hsome
    obtain ⟨hmakes, -, hagain⟩ := makesOnly_enterAll hsound
      (fun name hname => isName_of_mem_components hname) hsound.base
      (Prod.ext rfl hnext : tree.enterAll tree.base (components path) = (_, some next))
    refine ⟨hmakes, ?_⟩
    intro last hgrows
    rw [makeDirectories, if_pos hpath, (hmakes.grows.trans hgrows).base, hagain last hgrows]
    rfl
  · exact absurd hmake (by simp)

end enter

/-- Writing a file changes what is at one place, where no directory is. -/
theorem write?_eq_some {path : String} {content : ByteArray} (hsound : Sound tree)
    (hwrite : tree.write? path content = some later) :
    ∃ place, tree.resolve path = some place ∧ tree.isDirectory place = false ∧
      later.entry? place = some (.file content) ∧ Sound later ∧ Grows tree later ∧
      ∀ other, other ≠ place → later.entry? other = tree.entry? other := by
  rw [write?] at hwrite
  split at hwrite
  · exact absurd hwrite (by simp)
  · next place hresolve =>
    split at hwrite
    · exact absurd hwrite (by simp)
    · next hclear =>
      obtain rfl := Option.some.inj hwrite
      have hnot : tree.isDirectory place = false := by
        cases hdirectory : tree.isDirectory place with
        | true => simp [hdirectory] at hclear
        | false => rfl
      obtain ⟨front, name, parent, -, hname, -, hparent, rfl⟩ := hsound.exists_name hresolve hnot
      have hput : Sound (tree.put (parent ++ [name]) (.file content)) :=
        hsound.put hparent hname hnot
      have hgrows := Grows.put_file hnot content
      exact ⟨parent ++ [name], hresolve, hnot, entry?_put_self (by simp),
        ⟨hput.base, hput.parent, hput.proper, hput.distinct⟩,
        ⟨hgrows.base, hgrows.directory, hgrows.file⟩, fun other hother => entry?_put_of_ne hother⟩

end ServiceGen.FileTree
