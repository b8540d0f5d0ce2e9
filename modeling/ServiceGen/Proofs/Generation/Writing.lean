import ServiceGen.Generation.Writing
import ServiceGen.Proofs.Source.Loading

/-!
What writing does to a tree of files. The file of each artifact holds its text, the directories on
the way to it are there, and nothing else is different. To write the same artifacts once more does
nothing.
-/
namespace ServiceGen

open Files

instance lawfulBEqByteArray : LawfulBEq ByteArray where
  eq_of_beq {a b} heq := by
    have hdata : (a.data == b.data) = true := heq
    exact ByteArray.ext (eq_of_beq hdata)
  rfl {a} := by
    change (a.data == a.data) = true
    exact beq_self_eq_true a.data

namespace Artifact

/-- That the path of an artifact consists of names, of which the last one is made of that of its
package. -/
def Stands (artifact : Artifact) : Prop :=
  ∃ names, components artifact.path = (names ++ [artifact.package ++ ending]).map .named

theorem isName_append_ending {package : String} (huncut : '/' ∉ package.toList) :
    IsName (package ++ ending) := by
  have htext : (package ++ ending).toList = package.toList ++ ".gen.rs".toList :=
    String.toList_append
  refine ⟨?_, ?_⟩
  · have hlength : 2 < (package ++ ending).toList.length := by
      rw [htext, List.length_append]
      exact lt_of_lt_of_le (by decide : 2 < ".gen.rs".toList.length) (Nat.le_add_left _ _)
    generalize hname : (package ++ ending).toList = cs at hlength
    match cs, hlength with
    | a :: b :: c :: rest, _ =>
      rw [Component.ofPart, if_neg (by simp), if_neg (by simp), ← hname, String.ofList_toList]
  · rw [htext, List.mem_append]
    exact fun hslash => hslash.elim huncut (by decide)

/-- The artifact of a unit stands in the directory of the unit. -/
theorem components_of {unit : SourceUnit} {names : List String}
    (hnames : ∀ name ∈ names, IsName name) (hpath : unit.path = String.intercalate "/" names)
    (hpackage : '/' ∉ unit.package.toList) (text : String) :
    components (Artifact.of unit.dir unit.package text).path =
      (names.dropLast ++ [unit.package ++ ending]).map .named := by
  have hdir := SourceUnit.dir_eq hnames hpath
  have hfile := isName_append_ending hpackage
  have hfront : ∀ name ∈ names.dropLast, IsName name := fun name hname =>
    hnames name (List.dropLast_subset _ hname)
  change components (outputPath unit.dir unit.package) = _
  rw [outputPath]
  split
  · next hempty =>
    have hnil : names.dropLast = [] := by
      have hcomponents := components_intercalate hfront
      rw [← hdir, String.isEmpty_iff.mp hempty] at hcomponents
      exact List.map_eq_nil_iff.mp hcomponents.symm
    rw [hnil, components_of_isName hfile]
    rfl
  · next hnonempty =>
    have hlast : components (unit.package ++ ending) =
        [unit.package ++ ending].map Component.named := components_of_isName hfile
    have hrelative := relative_of_components hlast
    rw [components_join (by simpa using hnonempty) hrelative.1, hrelative.2, hdir,
      components_intercalate hfront, List.map_append]

/-- The artifact of a unit that was loaded stands beside the source file. -/
theorem stands_of {unit : SourceUnit} (hunit : unit.IsLoaded) (text : String) :
    (Artifact.of unit.dir unit.package text).Stands := by
  obtain ⟨names, hnames, hpath⟩ := hunit.names
  exact ⟨names.dropLast, components_of hnames hpath hunit.package text⟩

end Artifact

namespace FileTree

variable {tree later : FileTree} {place start : Place} {path root : String} {names : List String}

theorem eq_of_follow_names
    (hfollow : (names.map Component.named).foldlM tree.step start = some place) :
    place = start ++ names := by
  induction names generalizing start with
  | nil => simpa using (Option.some.inj hfollow).symm
  | cons name rest ih =>
    rw [List.map_cons, List.foldlM_cons] at hfollow
    obtain ⟨next, hstep, hrest⟩ := Option.bind_eq_some_iff.mp hfollow
    obtain ⟨-, rfl⟩ := step_named.mp hstep
    rw [ih hrest, List.append_assoc, List.singleton_append]

/-- A path of names behind another one leads below the place of that one. -/
theorem exists_of_resolve_join (hpath : components path = names.map .named)
    (hresolve : tree.resolve (join root path) = some place) :
    ∃ top, tree.resolve root = some top ∧ place = top ++ names := by
  by_cases hempty : root = ""
  · subst hempty
    rw [join_empty, resolve, hpath] at hresolve
    exact ⟨tree.base, rfl, eq_of_follow_names hresolve⟩
  · obtain ⟨hrelative, hmeaning⟩ := relative_of_components hpath
    rw [resolve, components_join hempty hrelative, hmeaning, List.foldlM_append] at hresolve
    obtain ⟨top, htop, hrest⟩ := Option.bind_eq_some_iff.mp hresolve
    exact ⟨top, htop, eq_of_follow_names hrest⟩

end FileTree

open FileTree

namespace Writing

variable {tree later : FileTree} {root path text : String} {artifact : Artifact}

/-- That a place is on the way to the directory of a path. -/
def OnWayTo (tree : FileTree) (path : String) (place : Place) : Prop :=
  ∃ parent, parentPath? path = some parent ∧ OnWay tree tree.base (components parent) place

theorem OnWayTo.grows (hgrows : Grows tree later) {place : Place} (hon : OnWayTo tree path place) :
    OnWayTo later path place := by
  obtain ⟨parent, hparent, hway⟩ := hon
  exact ⟨parent, hparent, hgrows.base ▸ hway.grows hgrows⟩

theorem makesOnly_makeParent (hsound : Sound tree)
    (hmake : makeParent tree path = (later, .ok ())) :
    MakesOnly (OnWayTo later path) tree later ∧
      ∀ last, Grows later last → makeParent last path = (last, .ok ()) := by
  rw [makeParent] at hmake
  split at hmake
  · next hnone =>
    obtain ⟨rfl, -⟩ := Prod.mk.inj hmake
    exact ⟨.refl hsound _, fun last _ => by rw [makeParent, hnone]⟩
  · next parent hparent =>
    cases hmade : tree.makeDirectories parent with
    | mk made answer =>
      cases answer with
      | false => simp [hmade] at hmake
      | true =>
        simp only [hmade, if_pos, Prod.mk.injEq, and_true] at hmake
        subst hmake
        obtain ⟨hmakes, hagain⟩ := makesOnly_makeDirectories hsound hmade
        refine ⟨hmakes.mono fun place hway => ⟨parent, hparent, hmakes.grows.base ▸ hway⟩, ?_⟩
        intro last hgrows
        rw [makeParent, hparent]
        simp [hagain last hgrows]

/-- That a file holds a text, and that nothing else is different from an older tree. -/
structure Holds (path text : String) (tree later : FileTree) : Prop where
  sound : Sound later
  grows : Grows tree later
  content : later.content? path = some text.toUTF8
  other : ∀ place, later.resolve path ≠ some place → later.entry? place = tree.entry? place

theorem holds_writeText (hsound : Sound tree)
    (hwrite : writeText none tree path text = (later, .ok ())) : Holds path text tree later := by
  rw [writeText] at hwrite
  split at hwrite
  · next hsame =>
    obtain ⟨rfl, -⟩ := Prod.mk.inj hwrite
    exact ⟨hsound, .refl tree, eq_of_beq hsame, fun _ _ => rfl⟩
  · split at hwrite
    · exact absurd hwrite (by simp)
    · next written hwritten =>
      obtain ⟨rfl, -⟩ := Prod.mk.inj hwrite
      obtain ⟨place, hresolve, -, hentry, hsound', hgrows, hother⟩ := write?_eq_some hsound hwritten
      have hresolve' := hgrows.resolve hresolve
      refine ⟨hsound', hgrows, content?_eq_some.mpr ⟨place, hresolve', hentry⟩, ?_⟩
      exact fun other hne => hother other fun heq => hne (heq ▸ hresolve')

theorem writeText_again (hcontent : tree.content? path = some text.toUTF8) :
    writeText none tree path text = (tree, .ok ()) := by
  rw [writeText, if_pos (beq_iff_eq.mpr hcontent)]

/-- The path of the file of an artifact. -/
def target (root : String) (artifact : Artifact) : String := join root artifact.path

/-- What a tree has become by the writing of artifacts. -/
structure Holding (root : String) (artifacts : List Artifact) (tree later : FileTree) : Prop where
  sound : Sound later
  grows : Grows tree later
  content : ∀ artifact ∈ artifacts,
    later.content? (target root artifact) = some artifact.text.toUTF8
  other : ∀ place, later.entry? place = tree.entry? place ∨
    (∃ artifact ∈ artifacts, later.resolve (target root artifact) = some place) ∨
    (tree.entry? place = none ∧ later.entry? place = some .directory ∧
      ∃ artifact ∈ artifacts, OnWayTo later (target root artifact) place)

theorem Holding.refl (root : String) (hsound : Sound tree) : Holding root [] tree tree :=
  ⟨hsound, .refl tree, by simp, fun _ => .inl rfl⟩

/-- Two artifacts with different paths have different files. -/
theorem target_ne {a b : Artifact} (ha : a.Stands) (hb : b.Stands)
    (hne : components a.path ≠ components b.path) {place : Place}
    (hplace : tree.resolve (target root a) = some place) :
    tree.resolve (target root b) ≠ some place := by
  intro hother
  obtain ⟨names, hnames⟩ := ha
  obtain ⟨names', hnames'⟩ := hb
  obtain ⟨top, htop, rfl⟩ := exists_of_resolve_join hnames hplace
  obtain ⟨top', htop', hsame⟩ := exists_of_resolve_join hnames' hother
  obtain rfl := Option.some.inj (htop.symm.trans htop')
  exact hne (by rw [hnames, hnames', List.append_cancel_left hsame])

/-- Writing one artifact makes the directories on the way to its file and puts its text there. -/
theorem holding_writeArtifact (hsound : Sound tree) {answer : String}
    (hwrite : writeArtifact none root tree artifact = (later, .ok answer)) :
    answer = target root artifact ∧ Holding root [artifact] tree later ∧
      ∀ last, Grows later last →
        last.content? (target root artifact) = some artifact.text.toUTF8 →
        writeArtifact none root last artifact = (last, .ok (target root artifact)) := by
  simp only [writeArtifact] at hwrite
  split at hwrite
  · exact absurd hwrite (by simp)
  · next middle hparent =>
    split at hwrite
    · exact absurd hwrite (by simp)
    · next written htext =>
      obtain ⟨rfl, hanswer⟩ := Prod.mk.inj hwrite
      obtain ⟨hmakes, hagain⟩ := makesOnly_makeParent hsound hparent
      have hholds := holds_writeText hmakes.sound htext
      refine ⟨(Except.ok.inj hanswer).symm,
        ⟨hholds.sound, hmakes.grows.trans hholds.grows, ?_, ?_⟩, ?_⟩
      · intro other hother
        obtain rfl := List.mem_singleton.mp hother
        exact hholds.content
      · intro place
        by_cases htarget : written.resolve (target root artifact) = some place
        · exact .inr (.inl ⟨artifact, List.mem_singleton_self _, htarget⟩)
        · have hlater := hholds.other place htarget
          rcases hmakes.other place with hsame | ⟨hnone, hmade, hway⟩
          · exact .inl (hlater.trans hsame)
          · exact .inr (.inr ⟨hnone, hlater.trans hmade, artifact, List.mem_singleton_self _,
              hway.grows hholds.grows⟩)
      · intro last hgrows hcontent
        have hparent' := hagain last (hholds.grows.trans hgrows)
        rw [target] at hcontent
        simp only [writeArtifact, hparent', writeText_again hcontent, target]

/-- What was written first is still there when the others are written. -/
theorem Holding.cons {middle : FileTree} {artifacts : List Artifact}
    (hstands : artifact.Stands) (hothers : ∀ other ∈ artifacts, other.Stands)
    (hdistinct : ∀ other ∈ artifacts, components other.path ≠ components artifact.path)
    (hfirst : Holding root [artifact] tree middle) (hrest : Holding root artifacts middle later) :
    Holding root (artifact :: artifacts) tree later := by
  have hcontent := hfirst.content artifact List.mem_cons_self
  obtain ⟨file, hfile, hentry⟩ := content?_eq_some.mp hcontent
  refine ⟨hrest.sound, hfirst.grows.trans hrest.grows, ?_, ?_⟩
  · intro written hwritten
    rcases List.mem_cons.mp hwritten with rfl | hwritten
    · refine content?_eq_some.mpr ⟨file, hrest.grows.resolve hfile, ?_⟩
      rcases hrest.other file with hsame | ⟨other, hother, htarget⟩ | ⟨hnone, -⟩
      · rw [hsame, hentry]
      · exact absurd (hrest.grows.resolve hfile)
          (target_ne (hothers other hother) hstands (hdistinct other hother) htarget)
      · simp [hentry] at hnone
    · exact hrest.content written hwritten
  · intro place
    have hcons {other : Artifact} (hother : other ∈ artifacts) : other ∈ artifact :: artifacts :=
      List.mem_cons_of_mem _ hother
    rcases hrest.other place with
      hsame | ⟨other, hother, htarget⟩ | ⟨hnone, hmade, other, hother, hway⟩
    · rw [hsame]
      rcases hfirst.other place with
        hsame' | ⟨other, hother, htarget⟩ | ⟨hnone, hmade, other, hother, hway⟩
      · exact .inl hsame'
      · obtain rfl := List.mem_singleton.mp hother
        exact .inr (.inl ⟨other, List.mem_cons_self, hrest.grows.resolve htarget⟩)
      · obtain rfl := List.mem_singleton.mp hother
        exact .inr (.inr ⟨hnone, hmade, other, List.mem_cons_self, hway.grows hrest.grows⟩)
    · exact .inr (.inl ⟨other, hcons hother, htarget⟩)
    · rcases hfirst.other place with hsame | ⟨only, honly, htarget⟩ | ⟨-, hmade', -⟩
      · exact .inr (.inr ⟨hsame ▸ hnone, hmade, other, hcons hother, hway⟩)
      · obtain rfl := List.mem_singleton.mp honly
        obtain rfl := Option.some.inj (hfile.symm.trans htarget)
        simp [hentry] at hnone
      · simp [hnone] at hmade'

/-- Writing artifacts with different paths leaves the file of each with its text, and nothing else
is different but the directories on the way. -/
theorem holding_writeArtifacts {artifacts : List Artifact} (hsound : Sound tree)
    (hstands : ∀ artifact ∈ artifacts, artifact.Stands)
    (hdistinct : (artifacts.map fun artifact => components artifact.path).Nodup)
    {answers : List String}
    (hwrite : writeArtifacts none root tree artifacts = (later, .ok answers)) :
    answers = artifacts.map (target root) ∧ Holding root artifacts tree later ∧
      ∀ last, Grows later last →
        (∀ artifact ∈ artifacts,
          last.content? (target root artifact) = some artifact.text.toUTF8) →
        writeArtifacts none root last artifacts = (last, .ok (artifacts.map (target root))) := by
  induction artifacts generalizing tree answers with
  | nil =>
    obtain ⟨rfl, hanswers⟩ := Prod.mk.inj hwrite
    exact ⟨(Except.ok.inj hanswers).symm, .refl root hsound, fun _ _ _ => rfl⟩
  | cons artifact rest ih =>
    rw [List.map_cons, List.nodup_cons] at hdistinct
    rw [writeArtifacts] at hwrite
    split at hwrite
    · exact absurd hwrite (by simp)
    · next middle answer hfirst =>
      split at hwrite
      · exact absurd hwrite (by simp)
      · next written others hrest =>
        obtain ⟨rfl, hanswers⟩ := Prod.mk.inj hwrite
        obtain ⟨rfl, hholding, hagain⟩ := holding_writeArtifact hsound hfirst
        have hothers := fun other hother => hstands other (List.mem_cons_of_mem _ hother)
        obtain ⟨rfl, hmore, hagain'⟩ := ih hholding.sound hothers hdistinct.2 hrest
        refine ⟨(Except.ok.inj hanswers).symm,
          .cons (hstands artifact List.mem_cons_self) hothers ?_ hholding hmore, ?_⟩
        · exact fun other hother hsame =>
            hdistinct.1 (List.mem_map.mpr ⟨other, hother, hsame⟩)
        · intro last hgrows hcontent
          have hfirst' := hagain last (hmore.grows.trans hgrows)
            (hcontent artifact List.mem_cons_self)
          have hrest' := hagain' last hgrows fun other hother =>
            hcontent other (List.mem_cons_of_mem _ hother)
          rw [writeArtifacts, hfirst']
          simp only [hrest', List.map_cons]

end Writing

end ServiceGen
