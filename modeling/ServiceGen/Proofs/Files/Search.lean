import ServiceGen.Files.PathPattern
import ServiceGen.Proofs.Files.Tree

/-!
What a pattern finds: paths, and each of them leads to the place where it was found.
-/
namespace ServiceGen

namespace FileTree

open Files

variable {tree : FileTree}

/-- The places of a tree that meet a condition, in order. -/
def arranged (tree : FileTree) (meets : Place → Bool) : List Place :=
  (tree.places.filter meets).mergeSort inOrder

theorem children_eq (tree : FileTree) (place : Place) :
    tree.children place = tree.arranged fun other => !other.isEmpty && other.dropLast == place := by
  rw [children, arranged, places, List.filter_map]
  rfl

theorem below_eq (tree : FileTree) (place : Place) :
    tree.below place = tree.arranged fun other => place.isPrefixOf other && other != place := by
  rw [below, arranged, places, List.filter_map]
  rfl

theorem mem_arranged {meets : Place → Bool} {place : Place} :
    place ∈ tree.arranged meets ↔ place ∈ tree.places ∧ meets place = true := by
  rw [arranged, List.mem_mergeSort, List.mem_filter]

theorem mem_children (hsound : Sound tree) {place other : Place}
    (hother : other ∈ tree.children place) :
    tree.has other = true ∧ ∃ name, other = place ++ [name] := by
  rw [children_eq, mem_arranged] at hother
  obtain ⟨hmem, hmeets⟩ := hother
  simp only [Bool.and_eq_true, Bool.not_eq_true', beq_iff_eq] at hmeets
  obtain ⟨-, rfl⟩ := hmeets
  exact ⟨has_iff.mpr (.inr hmem), other.getLast (hsound.proper hmem).1,
    (List.dropLast_append_getLast _).symm⟩

theorem mem_below {place other : Place} (hother : other ∈ tree.below place) :
    tree.has other = true ∧ ∃ more, more ≠ [] ∧ other = place ++ more := by
  rw [below_eq, mem_arranged] at hother
  obtain ⟨hmem, hmeets⟩ := hother
  simp only [Bool.and_eq_true, List.isPrefixOf_iff_prefix, bne_iff_ne] at hmeets
  obtain ⟨⟨more, rfl⟩, hne⟩ := hmeets
  exact ⟨has_iff.mpr (.inr hmem), more, by rintro rfl; simp at hne, rfl⟩

theorem mem_below_of_has {place more : Place} (hne : more ≠ [])
    (hhas : tree.has (place ++ more) = true) : place ++ more ∈ tree.below place := by
  have hplace := (has_iff.mp hhas).resolve_left (by simp [hne])
  rw [below_eq, mem_arranged]
  exact ⟨hplace, by simp [hne]⟩

section resolve

variable {place next : Place} {path part : String}

/-- What a relative path means is followed from the directory where relative paths begin. -/
theorem resolve_relative (hbase : tree.isDirectory tree.base = true)
    (hrelative : isAbsolute path = false) :
    tree.resolve path = (meaning path).foldlM tree.step tree.base := by
  rw [resolve, components_eq, beginning, hrelative, if_neg (by simp)]
  split
  · rw [List.singleton_append, List.foldlM_cons, step, if_pos hbase]
    rfl
  · rfl

/-- A path behind another one is followed from where that one leads. -/
theorem resolve_join (hbase : tree.isDirectory tree.base = true)
    (hpath : tree.resolve path = some place) (hrelative : isAbsolute part = false) :
    tree.resolve (join path part) = (meaning part).foldlM tree.step place := by
  by_cases hempty : path = ""
  · subst hempty
    obtain rfl : tree.base = place := Option.some.inj hpath
    rw [join_empty, resolve_relative hbase hrelative]
  · rw [resolve] at hpath
    rw [resolve, components_join hempty hrelative, List.foldlM_append, hpath]
    rfl

/-- Names are followed as long as there is something where they lead. -/
theorem Sound.follow_names (hsound : Sound tree) {names : List String}
    (hdirectory : tree.isDirectory place = true) (hhas : tree.has (place ++ names) = true) :
    (names.map Component.named).foldlM tree.step place = some (place ++ names) := by
  induction names generalizing place with
  | nil => simp
  | cons name rest ih =>
    have hshift : place ++ name :: rest = place ++ [name] ++ rest := by simp
    rw [hshift] at hhas ⊢
    rw [List.map_cons, List.foldlM_cons, step_named.mpr ⟨hdirectory, rfl⟩, Option.bind_eq_bind,
      Option.bind_some]
    cases rest with
    | nil => simp
    | cons next others => exact ih (hsound.isDirectory_of_append (List.cons_ne_nil _ _) hhas) hhas

end resolve

end FileTree

namespace Files

open FileTree

namespace NamePattern

theorem suffix_of_bracket? {cs after : List Char} {element : NameElement}
    (hbracket : bracket? cs = some (element, after)) :
    after <:+ cs ∧ ∀ c, element ≠ .exactly c := by
  rw [bracket?.eq_def] at hbracket
  split at hbracket
  · next first rest =>
    obtain ⟨⟨more, behind⟩, hcut, heq⟩ := Option.map_eq_some_iff.mp hbracket
    obtain ⟨rfl, rfl⟩ := Prod.mk.inj heq
    obtain ⟨c, -, rfl, -⟩ := Text.eq_of_cutAt hcut
    exact ⟨⟨'!' :: first :: more ++ [c], by simp⟩, by simp⟩
  · exact absurd hbracket (by simp)
  · next first rest _ _ =>
    obtain ⟨⟨more, behind⟩, hcut, heq⟩ := Option.map_eq_some_iff.mp hbracket
    obtain ⟨rfl, rfl⟩ := Prod.mk.inj heq
    obtain ⟨c, -, rfl, -⟩ := Text.eq_of_cutAt hcut
    exact ⟨⟨first :: more ++ [c], by simp⟩, by simp⟩
  · exact absurd hbracket (by simp)

/-- A pattern spells out only characters of its text. -/
theorem mem_of_parse? {cs : List Char} {pattern : NamePattern} {c : Char}
    (hparse : parse? cs = some pattern) (hmem : .exactly c ∈ pattern) : c ∈ cs := by
  induction cs using parse?.induct generalizing pattern with
  | case1 =>
    obtain rfl : [] = pattern := by simpa [parse?] using hparse
    exact absurd hmem List.not_mem_nil
  | case2 rest ih =>
    obtain ⟨others, hothers, rfl⟩ := Option.map_eq_some_iff.mp (by simpa [parse?] using hparse)
    exact List.mem_cons_of_mem _ (ih hothers (by simpa using hmem))
  | case3 rest hstar => simp [parse?, hstar] at hparse
  | case4 rest hstar ih =>
    obtain ⟨others, hothers, rfl⟩ :=
      Option.map_eq_some_iff.mp (by simpa [parse?, hstar] using hparse)
    exact List.mem_cons_of_mem _ (ih hothers (by simpa using hmem))
  | case5 rest hnone =>
    rw [parse?] at hparse
    split at hparse
    · exact absurd hparse (by simp)
    · next helement => exact absurd (hnone.symm.trans helement) (by simp)
  | case6 rest element after hbracket hlength ih =>
    obtain ⟨hsuffix, helement⟩ := suffix_of_bracket? hbracket
    rw [parse?] at hparse
    split at hparse
    · exact absurd hparse (by simp)
    · next given behind hgiven =>
      obtain ⟨rfl, rfl⟩ := Prod.mk.inj (Option.some.inj (hbracket.symm.trans hgiven))
      obtain ⟨others, hothers, rfl⟩ := Option.map_eq_some_iff.mp hparse
      rcases List.mem_cons.mp hmem with heq | hmem
      · exact absurd heq.symm (helement c)
      · exact List.mem_cons_of_mem _ (hsuffix.subset (ih hothers hmem))
  | case7 d rest hmark hstar hopen ih =>
    have hlast : parse? (d :: rest) = (parse? rest).map (.exactly d :: ·) := by
      rw [parse?.eq_def]
      split
      all_goals simp_all
    obtain ⟨others, hothers, rfl⟩ := Option.map_eq_some_iff.mp (hlast ▸ hparse)
    rcases List.mem_cons.mp hmem with heq | hmem
    · injection heq with heq
      exact heq ▸ List.mem_cons_self
    · exact List.mem_cons_of_mem _ (ih hothers hmem)

theorem mem_of_literal? {pattern : NamePattern} {part : List Char} {c : Char}
    (hliteral : pattern.literal? = some part) (hmem : c ∈ part) : .exactly c ∈ pattern := by
  induction pattern generalizing part with
  | nil =>
    obtain rfl : [] = part := by simpa [literal?] using hliteral
    exact absurd hmem List.not_mem_nil
  | cons element rest ih =>
    cases element with
    | exactly d =>
      obtain ⟨others, hothers, rfl⟩ := Option.map_eq_some_iff.mp hliteral
      rcases List.mem_cons.mp hmem with rfl | hmem
      · exact List.mem_cons_self
      · exact List.mem_cons_of_mem _ (ih hothers hmem)
    | anyCharacter | anyText | within _ | outside _ => exact absurd hliteral (by simp [literal?])

end NamePattern

namespace Segment

/-- That a segment spells out no slash, as those of a text do not. -/
def Uncut : Segment → Prop
  | .name pattern => .exactly '/' ∉ pattern
  | .deep => True

end Segment

theorem exists_of_mem_mapM {α β : Type} {f : α → Option β} {as : List α} {bs : List β}
    (hmap : as.mapM f = some bs) {b : β} (hb : b ∈ bs) : ∃ a ∈ as, f a = some b := by
  induction as generalizing bs with
  | nil =>
    rw [List.mapM_nil] at hmap
    obtain rfl := Option.some.inj hmap
    exact absurd hb List.not_mem_nil
  | cons a rest ih =>
    rw [List.mapM_cons] at hmap
    obtain ⟨first, hfirst, hmap⟩ := Option.bind_eq_some_iff.mp hmap
    obtain ⟨others, hothers, hmap⟩ := Option.bind_eq_some_iff.mp hmap
    obtain rfl := Option.some.inj hmap
    rcases List.mem_cons.mp hb with rfl | hb
    · exact ⟨a, List.mem_cons_self, hfirst⟩
    · obtain ⟨other, hother, hsome⟩ := ih hothers hb
      exact ⟨other, List.mem_cons_of_mem _ hother, hsome⟩

theorem PathPattern.mem_of_mem_parts {cs part : List Char} (hpart : part ∈ parts cs) :
    part ∈ Text.pieces (· == '/') cs := by
  rw [parts] at hpart
  split at hpart
  · exact List.dropLast_subset _ hpart
  · exact hpart

theorem Segment.uncut_of_parse? {part : List Char} {segment : Segment}
    (hpart : ∀ c ∈ part, c ≠ '/') (hparse : Segment.parse? part = some segment) :
    segment.Uncut := by
  rw [Segment.parse?] at hparse
  split at hparse
  · obtain rfl := Option.some.inj hparse
    trivial
  · obtain ⟨name, hname, rfl⟩ := Option.map_eq_some_iff.mp hparse
    exact fun hslash => hpart _ (NamePattern.mem_of_parse? hname hslash) rfl

theorem PathPattern.uncut_of_parse? {text : String} {pattern : PathPattern}
    (hparse : parse? text = some pattern) : ∀ segment ∈ pattern.segments, segment.Uncut := by
  obtain ⟨segments, hsegments, rfl⟩ := Option.map_eq_some_iff.mp hparse
  generalize (if Files.isAbsolute text then text.toList.drop 1 else text.toList) = body
    at hsegments
  intro segment hsegment
  split at hsegments
  · obtain rfl := Option.some.inj hsegments
    obtain rfl := List.mem_singleton.mp hsegment
    exact List.not_mem_nil
  · obtain ⟨part, hpart, hparsed⟩ := exists_of_mem_mapM hsegments hsegment
    refine Segment.uncut_of_parse? (fun c hc => ?_) hparsed
    simpa using (Text.mem_of_mem_pieces (mem_of_mem_parts hpart) hc).2

namespace Found

variable {tree : FileTree} {found next : Found}

/-- That a path leads to where something was found. -/
structure Leads (tree : FileTree) (found : Found) : Prop where
  resolve : tree.resolve found.path = some found.place
  has : tree.has found.place = true

theorem resolve_extend (hbase : tree.isDirectory tree.base = true) (hfound : found.Leads tree)
    {part : String} (hpart : isAbsolute part = false) (place : Place) :
    tree.resolve (found.extend part place).path =
      (meaning part).foldlM tree.step found.place := by
  rw [extend]
  split
  · next hcurrent =>
    have hplace : tree.base = found.place := by
      have hresolve := hfound.resolve
      rw [FileTree.resolve, beq_iff_eq.mp hcurrent, List.foldlM_cons, FileTree.step,
        if_pos hbase] at hresolve
      exact Option.some.inj hresolve
    rw [resolve_relative hbase hpart, hplace]
  · exact resolve_join hbase hfound.resolve hpart

theorem isAbsolute_of_uncut {part : String} (huncut : '/' ∉ part.toList) :
    isAbsolute part = false := by
  rw [← Bool.not_eq_true, isAbsolute_iff]
  rintro ⟨rest, hrest⟩
  exact huncut (hrest ▸ List.mem_cons_self)

theorem meaning_of_uncut {part : String} (huncut : '/' ∉ part.toList) :
    meaning part = (Component.ofPart part.toList).toList := by
  rw [meaning, Text.pieces_of_notMem huncut, List.filterMap_cons, List.filterMap_nil]
  cases Component.ofPart part.toList <;> rfl

theorem leads_follow (hsound : Sound tree) (hfound : found.Leads tree) {part : List Char}
    (huncut : '/' ∉ part) (hfollow : found.follow tree part = some next) : next.Leads tree := by
  have huncut' : '/' ∉ (String.ofList part).toList := by rwa [String.toList_ofList]
  have hresolve := resolve_extend hsound.base hfound (isAbsolute_of_uncut huncut')
  rw [meaning_of_uncut huncut', String.toList_ofList] at hresolve
  rw [follow] at hfollow
  split at hfollow
  · cases hcomponent : Component.ofPart part with
    | none =>
      simp only [hcomponent, Option.filter_eq_some_iff, Option.some.injEq] at hfollow hresolve
      obtain ⟨rfl, -⟩ := hfollow
      exact ⟨hresolve _, hfound.has⟩
    | some component =>
      simp only [hcomponent] at hfollow hresolve
      cases hstep : tree.step found.place component with
      | none => simp [hstep] at hfollow
      | some place =>
        simp only [hstep, Option.ite_none_right_eq_some, Option.some.injEq] at hfollow
        obtain ⟨hhas, rfl⟩ := hfollow
        refine ⟨?_, hhas⟩
        rw [hresolve, Option.toList_some, List.foldlM_cons, hstep]
        rfl
  · exact absurd hfollow (by simp)

theorem leads_inside (hsound : Sound tree) (hfound : found.Leads tree) {more : Place}
    (hne : more ≠ []) (hhas : tree.has (found.place ++ more) = true) :
    (found.inside (found.place ++ more)).Leads tree := by
  have hnames : ∀ name ∈ more, IsName name := fun name hname =>
    hsound.isName_of_has hhas (List.mem_append_right _ hname)
  have hrelative : isAbsolute (String.intercalate "/" more) = false := by
    have hbeginning := beginning_intercalate hnames
    rw [beginning] at hbeginning
    split at hbeginning
    · exact absurd hbeginning (by simp)
    · next hnot => simpa using hnot
  refine ⟨?_, hhas⟩
  rw [inside, List.drop_left, resolve_extend hsound.base hfound hrelative,
    meaning_intercalate hnames]
  exact hsound.follow_names (hsound.isDirectory_of_append hne hhas) hhas

theorem leads_below (hsound : Sound tree) (hfound : found.Leads tree) {place : Place}
    (hplace : place ∈ tree.below found.place) : (found.inside place).Leads tree := by
  obtain ⟨hhas, more, hne, rfl⟩ := mem_below hplace
  exact leads_inside hsound hfound hne hhas

theorem leads_dots (hsound : Sound tree) (hfound : found.Leads tree)
    (hdirectory : tree.isDirectory found.place = true) {pattern : NamePattern}
    (hnext : next ∈ found.dots pattern) : next.Leads tree := by
  rw [dots] at hnext
  split at hnext
  · rcases List.mem_append.mp hnext with hnext | hnext
    · split at hnext
      · obtain rfl := List.mem_singleton.mp hnext
        refine ⟨?_, has_of_isDirectory (hsound.isDirectory_dropLast hfound.has)⟩
        have hmeaning : meaning ".." = [.above] := by decide
        rw [resolve_join hsound.base hfound.resolve (by decide), hmeaning, List.foldlM_cons, step,
          if_pos hdirectory]
        rfl
      · exact absurd hnext List.not_mem_nil
    · split at hnext
      · obtain rfl := List.mem_singleton.mp hnext
        refine ⟨?_, hfound.has⟩
        have hmeaning : meaning "." = [] := by decide
        rw [resolve_join hsound.base hfound.resolve (by decide), hmeaning]
        rfl
      · exact absurd hnext List.not_mem_nil
  · exact absurd hnext List.not_mem_nil

theorem leads_entries (hsound : Sound tree) (hfound : found.Leads tree) {pattern : NamePattern}
    (hnext : next ∈ found.entries tree pattern) : next.Leads tree := by
  rw [entries] at hnext
  split at hnext
  · next hdirectory =>
    rcases List.mem_append.mp hnext with hnext | hnext
    · exact leads_dots hsound hfound hdirectory hnext
    · obtain ⟨place, hplace, rfl⟩ := List.mem_map.mp (List.mem_of_mem_filter hnext)
      obtain ⟨hhas, name, rfl⟩ := mem_children hsound hplace
      exact leads_inside hsound hfound (List.cons_ne_nil _ _) hhas
  · exact absurd hnext List.not_mem_nil

/-- What is found behind a path by the pattern of a name. -/
def nexts (tree : FileTree) (found : Found) (pattern : NamePattern) : List Found :=
  match pattern.literal? with
  | some part => (found.follow tree part).toList
  | none => found.entries tree pattern

theorem search_name (tree : FileTree) (found : Found) (pattern : NamePattern)
    (rest : List Segment) : found.search tree (.name pattern :: rest) =
      (found.nexts tree pattern).flatMap (search tree rest) := by
  cases hliteral : pattern.literal? with
  | some part => cases hfollow : found.follow tree part <;> simp [search, nexts, hliteral, hfollow]
  | none => simp only [search, nexts, hliteral]

theorem leads_nexts (hsound : Sound tree) (hfound : found.Leads tree) {pattern : NamePattern}
    (huncut : (Segment.name pattern).Uncut) (hnext : next ∈ found.nexts tree pattern) :
    next.Leads tree := by
  rw [nexts] at hnext
  split at hnext
  · next part hliteral =>
    have hpart : '/' ∉ part := fun hslash =>
      huncut (NamePattern.mem_of_literal? hliteral hslash)
    exact leads_follow hsound hfound hpart (Option.mem_toList.mp hnext)
  · exact leads_entries hsound hfound hnext

/-- Every path that is found leads to where it was found. -/
theorem leads_search (hsound : Sound tree) :
    ∀ (segments : List Segment) (found : Found), (∀ segment ∈ segments, segment.Uncut) →
      found.Leads tree → ∀ next ∈ found.search tree segments, next.Leads tree
  | [], found, _, hfound, next, hnext => by
    rw [search] at hnext
    exact List.mem_singleton.mp hnext ▸ hfound
  | .deep :: .deep :: rest, found, huncut, hfound, next, hnext => by
    rw [search] at hnext
    exact leads_search hsound (.deep :: rest) found
      (fun segment hsegment => huncut segment (List.mem_cons_of_mem _ hsegment)) hfound next hnext
  | [.deep], found, _, hfound, next, hnext => by
    rw [search] at hnext
    obtain ⟨place, hplace, rfl⟩ := List.mem_map.mp (List.mem_of_mem_filter hnext)
    exact leads_below hsound hfound hplace
  | .deep :: .name pattern :: rest, found, huncut, hfound, next, hnext => by
    rw [search] at hnext
    obtain ⟨entry, hentry, hnext⟩ := List.mem_flatMap.mp hnext
    obtain ⟨place, hplace, rfl⟩ := List.mem_map.mp (List.mem_of_mem_filter hentry)
    exact leads_search hsound rest _ (fun segment hsegment =>
      huncut segment (List.mem_cons_of_mem _ (List.mem_cons_of_mem _ hsegment)))
      (leads_below hsound hfound hplace) next hnext
  | .name pattern :: rest, found, huncut, hfound, next, hnext => by
    rw [search_name] at hnext
    obtain ⟨entry, hentry, hnext⟩ := List.mem_flatMap.mp hnext
    exact leads_search hsound rest entry
      (fun segment hsegment => huncut segment (List.mem_cons_of_mem _ hsegment))
      (leads_nexts hsound hfound (huncut _ List.mem_cons_self) hentry) next hnext

end Found

theorem PathPattern.leads_origin {tree : FileTree} (hsound : Sound tree) (pattern : PathPattern) :
    (pattern.origin tree).Leads tree := by
  rw [origin]
  split
  · exact ⟨rfl, has_of_isDirectory isDirectory_nil⟩
  · refine ⟨?_, has_of_isDirectory hsound.base⟩
    have hcomponents : components "." = [.current] := by decide
    rw [resolve, hcomponents, List.foldlM_cons, step, if_pos hsound.base]
    rfl

theorem PathPattern.leads_find {tree : FileTree} (hsound : Sound tree) {text : String}
    {pattern : PathPattern} (hparse : parse? text = some pattern) {found : Found}
    (hfound : found ∈ pattern.find tree) : found.Leads tree := by
  have hmem : found ∈ (pattern.origin tree).search tree pattern.segments := by
    rw [find] at hfound
    split at hfound
    · exact List.mem_of_mem_filter hfound
    · exact hfound
  exact Found.leads_search hsound _ _ (uncut_of_parse? hparse) (leads_origin hsound pattern)
    found hmem

end Files

end ServiceGen
