import ServiceGen.Proofs.Files.Growth
import ServiceGen.Proofs.Files.NamePattern

/-!
Where a search gets to. Parts that are spelled out are followed one by one, and from there a search
goes on by names only, unless a part stands for two dots.
-/
namespace ServiceGen.Files

open FileTree

/-- What a path means, without a dot in front. -/
def way (path : String) : List Component := (components path).filter (· != .current)

theorem current_notMem_meaning (path : String) : .current ∉ meaning path := by
  intro hmem
  obtain habove | ⟨name, hnamed⟩ := above_or_named_of_mem hmem
  · exact absurd habove (by simp)
  · exact absurd hnamed (by simp)

theorem filter_meaning (path : String) : (meaning path).filter (· != .current) = meaning path :=
  List.filter_eq_self.mpr fun component hcomponent => by
    simpa using fun heq : component = .current => current_notMem_meaning path (heq ▸ hcomponent)

theorem way_eq (path : String) :
    way path = (if isAbsolute path then [.root] else []) ++ meaning path := by
  rw [way, components_eq, List.filter_append, filter_meaning, beginning]
  split
  · rfl
  · split <;> rfl

theorem way_of_relative {path : String} (hpath : isAbsolute path = false) :
    way path = meaning path := by
  rw [way_eq, hpath, if_neg (by simp), List.nil_append]

theorem components_eq_way {path : String} (hcurrent : .current ∉ components path) :
    components path = way path :=
  (List.filter_eq_self.mpr fun component hcomponent => by
    simpa using fun heq : component = .current => hcurrent (heq ▸ hcomponent)).symm

theorem way_join {base path : String} (hbase : base ≠ "") (hpath : isAbsolute path = false) :
    way (join base path) = way base ++ meaning path := by
  rw [way, components_join hbase hpath, List.filter_append, filter_meaning, way]

theorem join_ne_empty {base path : String} (hbase : base ≠ "") (hpath : isAbsolute path = false) :
    join base path ≠ "" := by
  obtain ⟨front, hfront, -⟩ := exists_front_of_join hbase hpath
  rintro hempty
  simp [hempty] at hfront

/-- A dot in front of a path changes nothing about where it leads. -/
theorem resolve_eq_way {tree : FileTree} (hbase : tree.isDirectory tree.base = true)
    (path : String) : tree.resolve path = (way path).foldlM tree.step tree.base := by
  rw [resolve, components_eq, way_eq, beginning]
  split
  · rfl
  · split
    · rw [List.singleton_append, List.foldlM_cons, step, if_pos hbase]
      rfl
    · rfl

/-- Nothing is meant by the empty part and by a dot. -/
theorem ofPart_eq_none {part : List Char} :
    Component.ofPart part = none ↔ part = [] ∨ part = ['.'] := by
  rw [Component.ofPart]
  split
  · next hblank => simpa using hblank
  · next hmeans =>
    have hnot : ¬ (part = [] ∨ part = ['.']) := by simpa using hmeans
    split <;> simp [hnot]

namespace Found

variable {tree : FileTree} {found next : Found} {part : String} {place : Place}

/-- That the path of what was found is not empty, and is only a dot if a dot is in front. -/
structure Tidy (found : Found) : Prop where
  nonempty : found.path ≠ ""
  current : .current ∈ components found.path → components found.path = [.current]

/-- What leads on from something found by names only. -/
structure Beneath (found next : Found) : Prop where
  tidy : next.Tidy
  names : ∃ names : List String, way next.path = way found.path ++ names.map .named

theorem Beneath.refl (htidy : found.Tidy) : Beneath found found := ⟨htidy, [], by simp⟩

theorem Beneath.trans {last : Found} (hfirst : Beneath found next) (hsecond : Beneath next last) :
    Beneath found last := by
  obtain ⟨names, hnames⟩ := hfirst.names
  obtain ⟨names', hnames'⟩ := hsecond.names
  exact ⟨hsecond.tidy, names ++ names', by simp [hnames, hnames']⟩

theorem way_extend (htidy : found.Tidy) (hpart : isAbsolute part = false) (place : Place) :
    way (found.extend part place).path = way found.path ++ meaning part := by
  rw [extend]
  split
  · next hcurrent =>
    have hstart : way found.path = [] := by rw [way, beq_iff_eq.mp hcurrent]; rfl
    rw [hstart, way_of_relative hpart, List.nil_append]
  · exact way_join htidy.nonempty hpart

theorem tidy_extend (htidy : found.Tidy) (hpart : isAbsolute part = false)
    (hcurrent : .current ∈ components part → components part = [.current])
    (hne : (found.extend part place).path ≠ "") : (found.extend part place).Tidy := by
  refine ⟨hne, ?_⟩
  rw [extend]
  split
  · exact hcurrent
  · next hmoved =>
    intro hmem
    rw [components_join htidy.nonempty hpart, List.mem_append] at hmem
    rcases hmem with hmem | hmem
    · exact absurd (beq_iff_eq.mpr (htidy.current hmem)) hmoved
    · exact absurd hmem (current_notMem_meaning part)

theorem components_of_uncut (huncut : '/' ∉ part.toList) (hmem : .current ∈ components part) :
    components part = [.current] := by
  rw [components_eq, List.mem_append] at hmem
  have hdot : part = "." := by
    have hbeginning := hmem.resolve_right (current_notMem_meaning part)
    rw [beginning, isAbsolute_of_uncut huncut, if_neg (by simp), Text.pieces_of_notMem huncut]
      at hbeginning
    split at hbeginning
    · next hhead => exact String.toList_inj.mp (Option.some.inj hhead)
    · exact absurd hbeginning List.not_mem_nil
  subst hdot
  decide

theorem extend_ne_empty (htidy : found.Tidy) (hpart : isAbsolute part = false) (hne : part ≠ "")
    (place : Place) : (found.extend part place).path ≠ "" := by
  rw [extend]
  split
  · exact hne
  · exact join_ne_empty htidy.nonempty hpart

/-- A part that is followed is what the path goes on by. -/
theorem tidy_of_follow (htidy : found.Tidy) {part : List Char} (huncut : '/' ∉ part)
    (hfollow : found.follow tree part = some next) :
    next.Tidy ∧ way next.path = way found.path ++ (Component.ofPart part).toList := by
  have huncut' : '/' ∉ (String.ofList part).toList := by rwa [String.toList_ofList]
  have hrelative := isAbsolute_of_uncut huncut'
  obtain ⟨place, rfl, hne⟩ : ∃ place, next = found.extend (String.ofList part) place ∧
      (found.extend (String.ofList part) place).path ≠ "" := by
    rw [follow] at hfollow
    split at hfollow
    · split at hfollow
      · obtain ⟨hnext, hne⟩ := Option.filter_eq_some_iff.mp hfollow
        obtain rfl := Option.some.inj hnext
        exact ⟨found.place, rfl, by simpa using hne⟩
      · next component hcomponent =>
        split at hfollow
        · exact absurd hfollow (by simp)
        · next place _ =>
          rw [Option.ite_none_right_eq_some] at hfollow
          obtain rfl := Option.some.inj hfollow.2
          refine ⟨place, rfl, extend_ne_empty htidy hrelative ?_ place⟩
          intro hempty
          rw [String.ofList_eq_empty_iff.mp hempty] at hcomponent
          exact absurd hcomponent (by simp [Component.ofPart])
    · exact absurd hfollow (by simp)
  refine ⟨tidy_extend htidy hrelative (components_of_uncut huncut') hne, ?_⟩
  rw [way_extend htidy hrelative, meaning_of_uncut huncut', String.toList_ofList]

theorem tidy_inside (htidy : found.Tidy) {more : Place} (hne : more ≠ [])
    (hnames : ∀ name ∈ more, IsName name) :
    (found.inside (found.place ++ more)).Tidy ∧
      way (found.inside (found.place ++ more)).path = way found.path ++ more.map .named := by
  have hcomponents := components_intercalate hnames
  obtain ⟨hrelative, hmeaning⟩ := relative_of_components hcomponents
  have hpath : String.intercalate "/" more ≠ "" := by
    intro hempty
    rw [hempty] at hcomponents
    exact hne (List.map_eq_nil_iff.mp hcomponents.symm)
  rw [inside, List.drop_left]
  refine ⟨tidy_extend htidy hrelative ?_ (extend_ne_empty htidy hrelative hpath _), ?_⟩
  · rw [hcomponents]
    exact fun hmem => absurd hmem (by simp)
  · rw [way_extend htidy hrelative, hmeaning]

/-- What is at a place below something found is found with a path that goes on by the names. -/
theorem components_inside (hsound : Sound tree) (htidy : found.Tidy) {more : Place}
    (hne : more ≠ []) (hhas : tree.has (found.place ++ more) = true) :
    components (found.inside (found.place ++ more)).path =
      way found.path ++ more.map .named := by
  have hnames : ∀ name ∈ more, IsName name := fun name hname =>
    hsound.isName_of_has hhas (List.mem_append_right _ hname)
  obtain ⟨htidy', hway⟩ := tidy_inside htidy hne hnames
  rw [← hway]
  refine components_eq_way fun hcurrent => ?_
  rw [way, htidy'.current hcurrent] at hway
  exact absurd hway (by simp [hne])

theorem name_inside (found : Found) {place : Place} {last : String}
    (hlast : place.getLast? = some last) : (found.inside place).name = last.toList := by
  change ((place.getLast?).getD "").toList = last.toList
  rw [hlast, Option.getD_some]

theorem beneath_dot (htidy : found.Tidy) (place : Place) :
    Beneath found ⟨join found.path ".", place⟩ := by
  have hdot : isAbsolute "." = false := by decide
  have hmeaning : meaning "." = [] := by decide
  refine ⟨⟨join_ne_empty htidy.nonempty hdot, ?_⟩, [], ?_⟩
  · rw [components_join htidy.nonempty hdot, hmeaning, List.append_nil]
    exact htidy.current
  · rw [way_join htidy.nonempty hdot, hmeaning]
    rfl

theorem beneath_dots (htidy : found.Tidy) {pattern : NamePattern}
    (hliteral : pattern.literal? = none) (hclimbs : pattern.climbs = false)
    (hnext : next ∈ found.dots pattern) : Beneath found next := by
  rw [NamePattern.climbs, hliteral] at hclimbs
  rw [dots] at hnext
  split at hnext
  · next hhead =>
    rcases List.mem_append.mp hnext with hnext | hnext
    · split at hnext
      · next habove => simp [hhead, habove] at hclimbs
      · exact absurd hnext List.not_mem_nil
    · split at hnext
      · obtain rfl := List.mem_singleton.mp hnext
        exact beneath_dot htidy found.place
      · exact absurd hnext List.not_mem_nil
  · exact absurd hnext List.not_mem_nil

theorem beneath_inside (hsound : Sound tree) (htidy : found.Tidy) {more : Place} (hne : more ≠ [])
    (hhas : tree.has (found.place ++ more) = true) :
    Beneath found (found.inside (found.place ++ more)) := by
  have hnames : ∀ name ∈ more, IsName name := fun name hname =>
    hsound.isName_of_has hhas (List.mem_append_right _ hname)
  obtain ⟨htidy', hway⟩ := tidy_inside htidy hne hnames
  exact ⟨htidy', more, hway⟩

theorem beneath_below (hsound : Sound tree) (htidy : found.Tidy) {place : Place}
    (hplace : place ∈ tree.below found.place) : Beneath found (found.inside place) := by
  obtain ⟨hhas, more, hne, rfl⟩ := mem_below hplace
  exact beneath_inside hsound htidy hne hhas

/-- A part that does not climb leads on by no more than one name. -/
theorem beneath_nexts (hsound : Sound tree) (htidy : found.Tidy) {pattern : NamePattern}
    (huncut : (Segment.name pattern).Uncut) (hclimbs : pattern.climbs = false)
    (hnext : next ∈ found.nexts tree pattern) : Beneath found next := by
  rw [nexts] at hnext
  split at hnext
  · next part hliteral =>
    have hpart : '/' ∉ part := fun hslash => huncut (NamePattern.mem_of_literal? hliteral hslash)
    obtain ⟨htidy', hway⟩ := tidy_of_follow htidy hpart (Option.mem_toList.mp hnext)
    refine ⟨htidy', ?_⟩
    cases hcomponent : Component.ofPart part with
    | none => exact ⟨[], by rw [hway, hcomponent]; rfl⟩
    | some component =>
      rcases cases_of_ofPart hcomponent with ⟨-, hdots⟩ | rfl
      · simp [NamePattern.climbs, hliteral, hdots] at hclimbs
      · exact ⟨[String.ofList part], by rw [hway, hcomponent]; rfl⟩
  · next hliteral =>
    rw [entries] at hnext
    split at hnext
    · rcases List.mem_append.mp hnext with hnext | hnext
      · exact beneath_dots htidy hliteral hclimbs hnext
      · obtain ⟨place, hplace, rfl⟩ := List.mem_map.mp (List.mem_of_mem_filter hnext)
        obtain ⟨hhas, name, rfl⟩ := mem_children hsound hplace
        exact beneath_inside hsound htidy (List.cons_ne_nil _ _) hhas
    · exact absurd hnext List.not_mem_nil

theorem isDirectory_of_mem_below (hsound : Sound tree) {other : Place}
    (hother : other ∈ tree.below place) : tree.isDirectory place = true := by
  obtain ⟨hhas, more, hne, rfl⟩ := mem_below hother
  exact hsound.isDirectory_of_append hne hhas

/-- Nothing is found behind what is no directory. -/
theorem isDirectory_of_mem_search (hsound : Sound tree) :
    ∀ (segments : List Segment) (found : Found), segments ≠ [] →
      ∀ next ∈ found.search tree segments, tree.isDirectory found.place = true
  | [], _, hne, _, _ => absurd rfl hne
  | .deep :: .deep :: rest, found, _, next, hnext => by
    rw [search] at hnext
    exact isDirectory_of_mem_search hsound (.deep :: rest) found (List.cons_ne_nil _ _) next hnext
  | [.deep], found, _, next, hnext => by
    rw [search] at hnext
    obtain ⟨place, hplace, -⟩ := List.mem_map.mp (List.mem_of_mem_filter hnext)
    exact isDirectory_of_mem_below hsound hplace
  | .deep :: .name pattern :: rest, found, _, next, hnext => by
    rw [search] at hnext
    obtain ⟨entry, hentry, -⟩ := List.mem_flatMap.mp hnext
    obtain ⟨place, hplace, -⟩ := List.mem_map.mp (List.mem_of_mem_filter hentry)
    exact isDirectory_of_mem_below hsound hplace
  | .name pattern :: rest, found, _, next, hnext => by
    rw [search_name] at hnext
    obtain ⟨entry, hentry, -⟩ := List.mem_flatMap.mp hnext
    exact isDirectory_of_mem_nexts hentry

/-- A search that does not climb goes on by names. -/
theorem beneath_search (hsound : Sound tree) :
    ∀ (segments : List Segment) (found : Found),
      (∀ segment ∈ segments, segment.Uncut ∧ segment.climbs = false) → found.Tidy →
      ∀ next ∈ found.search tree segments, Beneath found next
  | [], found, _, htidy, next, hnext => by
    rw [search] at hnext
    obtain rfl := List.mem_singleton.mp hnext
    exact .refl htidy
  | .deep :: .deep :: rest, found, hsegments, htidy, next, hnext => by
    rw [search] at hnext
    exact beneath_search hsound (.deep :: rest) found
      (fun segment hsegment => hsegments segment (List.mem_cons_of_mem _ hsegment)) htidy next hnext
  | [.deep], found, _, htidy, next, hnext => by
    rw [search] at hnext
    obtain ⟨place, hplace, rfl⟩ := List.mem_map.mp (List.mem_of_mem_filter hnext)
    exact beneath_below hsound htidy hplace
  | .deep :: .name pattern :: rest, found, hsegments, htidy, next, hnext => by
    rw [search] at hnext
    obtain ⟨entry, hentry, hnext⟩ := List.mem_flatMap.mp hnext
    obtain ⟨place, hplace, rfl⟩ := List.mem_map.mp (List.mem_of_mem_filter hentry)
    have hbeneath := beneath_below hsound htidy hplace
    exact hbeneath.trans (beneath_search hsound rest _ (fun segment hsegment =>
      hsegments segment (List.mem_cons_of_mem _ (List.mem_cons_of_mem _ hsegment)))
      hbeneath.tidy next hnext)
  | .name pattern :: rest, found, hsegments, htidy, next, hnext => by
    rw [search_name] at hnext
    obtain ⟨entry, hentry, hnext⟩ := List.mem_flatMap.mp hnext
    obtain ⟨huncut, hclimbs⟩ := hsegments _ List.mem_cons_self
    have hbeneath := beneath_nexts hsound htidy huncut hclimbs hentry
    exact hbeneath.trans (beneath_search hsound rest entry
      (fun segment hsegment => hsegments segment (List.mem_cons_of_mem _ hsegment))
      hbeneath.tidy next hnext)

end Found

/-- The part of a pattern that stands for a text and for nothing else. -/
def Segment.spelled (part : List Char) : Segment := .name (part.map .exactly)

theorem Segment.parse?_of_plain {part : List Char} (hplain : ∀ c ∈ part, c ∉ NamePattern.marks) :
    Segment.parse? part = some (.spelled part) := by
  have hdeep : (part == ['*', '*']) = false := by
    rw [beq_eq_false_iff_ne]
    rintro rfl
    exact absurd (hplain '*' List.mem_cons_self) (by decide)
  rw [Segment.parse?, hdeep, if_neg (by simp), NamePattern.parse?_of_plain hplain]
  rfl

/-- That parts can be followed from a path that is only a dot: they are a dot too, or begin with
something that means anything. -/
def Starts (ahead : List (List Char)) : Prop :=
  ahead = [['.']] ∨ ∀ part ∈ ahead.head?, Component.ofPart part ≠ none

namespace Found

variable {tree : FileTree} {found next : Found} {ahead : List (List Char)} {place : Place}

/-- Parts that are spelled out are followed before the search goes on. -/
theorem search_spelled (ahead : List (List Char)) (rest : List Segment) (found : Found) :
    found.search tree (ahead.map Segment.spelled ++ rest) =
      (ahead.foldlM (follow tree) found).toList.flatMap (search tree rest) := by
  induction ahead generalizing found with
  | nil => exact (List.flatMap_singleton _ _).symm
  | cons part others ih =>
    rw [List.map_cons, List.cons_append, Segment.spelled, search_name, nexts,
      NamePattern.literal?_exactly, List.foldlM_cons]
    change (found.follow tree part).toList.flatMap _ =
      ((found.follow tree part).bind _).toList.flatMap _
    cases found.follow tree part with
    | none => rfl
    | some next =>
      rw [Option.toList_some, List.flatMap_singleton, Option.bind_some]
      exact ih next

theorem tidy_of_foldlM (htidy : found.Tidy) (huncut : ∀ part ∈ ahead, '/' ∉ part)
    (hfollow : ahead.foldlM (follow tree) found = some next) :
    next.Tidy ∧ way next.path = way found.path ++ ahead.filterMap Component.ofPart := by
  induction ahead generalizing found with
  | nil =>
    obtain rfl := Option.some.inj hfollow
    exact ⟨htidy, by simp⟩
  | cons part others ih =>
    rw [List.foldlM_cons] at hfollow
    obtain ⟨middle, hmiddle, hrest⟩ := Option.bind_eq_some_iff.mp hfollow
    obtain ⟨htidy', hway⟩ := tidy_of_follow htidy (huncut part List.mem_cons_self) hmiddle
    obtain ⟨htidy'', hway'⟩ :=
      ih htidy' (fun other hother => huncut other (List.mem_cons_of_mem _ hother)) hrest
    refine ⟨htidy'', ?_⟩
    rw [hway', hway, List.filterMap_cons, List.append_assoc]
    cases Component.ofPart part <;> rfl

theorem leads_of_foldlM (hsound : Sound tree) (hleads : found.Leads tree)
    (huncut : ∀ part ∈ ahead, '/' ∉ part)
    (hfollow : ahead.foldlM (follow tree) found = some next) : next.Leads tree := by
  induction ahead generalizing found with
  | nil =>
    obtain rfl := Option.some.inj hfollow
    exact hleads
  | cons part others ih =>
    rw [List.foldlM_cons] at hfollow
    obtain ⟨middle, hmiddle, hrest⟩ := Option.bind_eq_some_iff.mp hfollow
    exact ih (leads_follow hsound hleads (huncut part List.mem_cons_self) hmiddle)
      (fun other hother => huncut other (List.mem_cons_of_mem _ hother)) hrest

/-- What components lead from to a directory is a directory. -/
theorem isDirectory_of_foldlM {start : Place} {components : List Component}
    (hroot : .root ∉ components) (hfollow : components.foldlM tree.step start = some place)
    (hplace : tree.isDirectory place = true) : tree.isDirectory start = true := by
  cases components with
  | nil => exact Option.some.inj hfollow ▸ hplace
  | cons component rest =>
    rw [List.foldlM_cons] at hfollow
    obtain ⟨next, hstep, -⟩ := Option.bind_eq_some_iff.mp hfollow
    rw [← Bool.not_eq_false]
    intro hnot
    cases component with
    | root => exact hroot List.mem_cons_self
    | current | above | named _ => simp [step, hnot] at hstep

theorem root_notMem_filterMap (ahead : List (List Char)) :
    .root ∉ ahead.filterMap Component.ofPart := by
  intro hmem
  obtain habove | ⟨name, hnamed⟩ := above_or_named_of_mem hmem
  · exact absurd habove (by simp)
  · exact absurd hnamed (by simp)

/-- The first of some parts that lead to a directory is followed to where the others lead there. -/
theorem exists_of_follow (htidy : found.Tidy) {part : List Char} (huncut : '/' ∉ part)
    (hway : ((part :: ahead).filterMap Component.ofPart).foldlM tree.step found.place = some place)
    (hplace : tree.isDirectory place = true)
    (hstarts : components found.path = [.current] → Starts (part :: ahead)) :
    ∃ next, found.follow tree part = some next ∧
      (ahead.filterMap Component.ofPart).foldlM tree.step next.place = some place ∧
      (components next.path = [.current] → Starts ahead) := by
  have hpart : '/' ∉ (String.ofList part).toList := by rwa [String.toList_ofList]
  have hrelative := isAbsolute_of_uncut hpart
  rw [follow, if_pos (isDirectory_of_foldlM (root_notMem_filterMap _) hway hplace)]
  cases hcomponent : Component.ofPart part with
  | none =>
    rw [List.filterMap_cons, hcomponent] at hway
    obtain ⟨hne, hstarts'⟩ : (found.extend (String.ofList part) found.place).path ≠ "" ∧
        (components (found.extend (String.ofList part) found.place).path = [.current] →
          Starts ahead) := by
      by_cases hcurrent : components found.path = [.current]
      · rcases hstarts hcurrent with hdot | hmeans
        · obtain ⟨rfl, rfl⟩ := List.cons.inj hdot
          exact ⟨extend_ne_empty htidy hrelative (by decide) _, fun _ => .inr (by simp)⟩
        · exact absurd hcomponent (hmeans part rfl)
      · rw [extend, if_neg (by simpa using hcurrent)]
        refine ⟨join_ne_empty htidy.nonempty hrelative, fun hjoined => absurd ?_ hcurrent⟩
        rw [components_join htidy.nonempty hrelative, meaning_of_uncut hpart,
          String.toList_ofList, hcomponent] at hjoined
        simpa using hjoined
    exact ⟨found.extend (String.ofList part) found.place, by simp [hne], hway, hstarts'⟩
  | some component =>
    rw [List.filterMap_cons, hcomponent, List.foldlM_cons] at hway
    obtain ⟨middle, hstep, hrest⟩ := Option.bind_eq_some_iff.mp hway
    have hmiddle := isDirectory_of_foldlM (root_notMem_filterMap _) hrest hplace
    refine ⟨found.extend (String.ofList part) middle, ?_, hrest, fun hcurrent => ?_⟩
    · simp only [hstep]
      exact if_pos (has_of_isDirectory hmiddle)
    · have hway' := way_extend htidy hrelative middle
      rw [way, hcurrent, meaning_of_uncut hpart, String.toList_ofList, hcomponent] at hway'
      exact absurd hway' (by simp)

/-- Parts that lead to a directory can be followed. -/
theorem exists_of_foldlM (htidy : found.Tidy) (huncut : ∀ part ∈ ahead, '/' ∉ part)
    (hway : (ahead.filterMap Component.ofPart).foldlM tree.step found.place = some place)
    (hplace : tree.isDirectory place = true)
    (hstarts : components found.path = [.current] → Starts ahead) :
    ∃ next, ahead.foldlM (follow tree) found = some next ∧ next.place = place := by
  induction ahead generalizing found with
  | nil => exact ⟨found, rfl, Option.some.inj hway⟩
  | cons part others ih =>
    have hpart := huncut part List.mem_cons_self
    obtain ⟨next, hfollow, hrest, hstarts'⟩ := exists_of_follow htidy hpart hway hplace hstarts
    have htidy' := (tidy_of_follow htidy hpart hfollow).1
    obtain ⟨last, hlast, hend⟩ :=
      ih htidy' (fun other hother => huncut other (List.mem_cons_of_mem _ hother)) hrest hstarts'
    exact ⟨last, by rw [List.foldlM_cons, hfollow]; exact hlast, hend⟩

end Found

end ServiceGen.Files
