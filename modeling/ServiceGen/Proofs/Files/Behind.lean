import ServiceGen.Proofs.Files.Descent

/-!
Patterns behind a directory. The path of the directory stands in front of such a pattern, and if all
of its characters stand for themselves, the search follows it part by part. So what is found is
below the directory, by a path that says so.
-/
namespace ServiceGen.Files

open FileTree

/-- A text without the slash that makes it absolute. -/
def body (text : String) : List Char :=
  if isAbsolute text then text.toList.drop 1 else text.toList

/-- The parts of the path of a directory, which are in front when a pattern goes on behind it. -/
def ahead (directory : String) : List (List Char) := PathPattern.parts (body directory)

namespace PathPattern

theorem parts_append_cut (front cs : List Char) :
    parts (front ++ '/' :: cs) = Text.pieces (· == '/') front ++ parts cs := by
  have hne : Text.pieces (· == '/') cs ≠ [] := Text.pieces_ne_nil cs
  rw [parts, parts, Text.pieces_append_cut rfl, List.getLast?_append_of_ne_nil _ hne]
  split
  · rw [List.dropLast_append_of_ne_nil hne]
  · rfl

theorem parts_ne_nil {cs : List Char} (hne : cs ≠ []) : parts cs ≠ [] := by
  obtain ⟨c, rest, rfl⟩ := List.exists_cons_of_ne_nil hne
  obtain ⟨piece, others, hpieces⟩ := Text.exists_pieces (· == '/') rest
  by_cases hc : c = '/'
  · have hcut : Text.pieces (· == '/') (c :: rest) = [] :: piece :: others := by
      rw [hc, ← hpieces]
      exact Text.pieces_append_cut rfl [] rest
    rw [parts, hcut]
    split <;> simp
  · have huncut : Text.pieces (· == '/') (c :: rest) = (c :: piece) :: others :=
      Text.pieces_cons_of_uncut (by simpa using hc) hpieces
    rw [parts, huncut]
    cases others with
    | nil => simp
    | cons second more => split <;> simp

/-- A slash at the end of a text changes nothing about its parts. -/
theorem parts_eq_pieces {front cs : List Char}
    (hcs : cs = front ∧ front ≠ [] ∧ front.getLast? ≠ some '/' ∨ cs = front ++ ['/']) :
    parts cs = Text.pieces (· == '/') front := by
  rcases hcs with ⟨rfl, hne, hlast⟩ | rfl
  · obtain ⟨init, last, rfl⟩ : ∃ init last, cs = init ++ [last] :=
      ⟨_, _, (List.dropLast_append_getLast hne).symm⟩
    have huncut : (last == '/') = false := by simpa using hlast
    have hpieces : (Text.pieces (· == '/') (init ++ [last])).getLast? ≠ some [] :=
      Text.getLast?_pieces_ne List.getLast?_concat huncut
    rw [parts, if_neg (by simpa using hpieces)]
  · rw [parts_append_cut]
    exact List.append_nil _

theorem filterMap_parts (cs : List Char) :
    (parts cs).filterMap Component.ofPart =
      (Text.pieces (· == '/') cs).filterMap Component.ofPart := by
  rw [parts]
  split
  · next hlast =>
    obtain ⟨init, hpieces⟩ := List.getLast?_eq_some_iff.mp (beq_iff_eq.mp hlast)
    rw [hpieces, List.dropLast_concat, List.filterMap_append]
    exact (List.append_nil _).symm
  · rfl

end PathPattern

section ahead

variable {directory pattern : String}

theorem mem_of_mem_ahead {part : List Char} (hpart : part ∈ ahead directory) {c : Char}
    (hc : c ∈ part) : c ∈ directory.toList := by
  have hmem := (Text.mem_of_mem_pieces (PathPattern.mem_of_mem_parts hpart) hc).1
  rw [body] at hmem
  split at hmem
  · exact List.mem_of_mem_drop hmem
  · exact hmem

theorem uncut_of_mem_ahead {part : List Char} (hpart : part ∈ ahead directory) : '/' ∉ part :=
  fun hslash => by
    simpa using (Text.mem_of_mem_pieces (PathPattern.mem_of_mem_parts hpart) hslash).2

/-- What the path of a directory means is what its parts mean. -/
theorem way_eq_ahead (directory : String) :
    way directory = (if isAbsolute directory then [.root] else []) ++
      (ahead directory).filterMap Component.ofPart := by
  rw [way_eq, ahead, PathPattern.filterMap_parts, meaning, body]
  split
  · next habsolute =>
    obtain ⟨rest, hrest⟩ := isAbsolute_iff.mp habsolute
    have hpieces : Text.pieces (· == '/') ('/' :: rest) = [] :: Text.pieces (· == '/') rest :=
      Text.pieces_append_cut rfl [] rest
    rw [hrest, hpieces, List.filterMap_cons]
    rfl
  · rfl

/-- A relative path that has no dot in front begins with something that means anything. -/
theorem starts_ahead (hrelative : isAbsolute directory = false)
    (hcurrent : .current ∉ components directory) : Starts (ahead directory) := by
  refine .inr fun part hpart hnone => ?_
  have hhead : (Text.pieces (· == '/') directory.toList).head? = some part := by
    rw [ahead, body, hrelative, if_neg (by simp), PathPattern.parts] at hpart
    split at hpart
    · rw [List.head?_dropLast] at hpart
      split at hpart
      · exact hpart
      · exact absurd hpart (by simp)
    · exact hpart
  rcases ofPart_eq_none.mp hnone with rfl | rfl
  · cases hchars : directory.toList with
    | nil =>
      obtain rfl : directory = "" := String.toList_inj.mp hchars
      exact absurd hpart (by decide)
    | cons c rest =>
      have hc : (c == '/') = false := by
        rw [isAbsolute, hchars] at hrelative
        simpa using hrelative
      obtain ⟨piece, others, hpieces⟩ := Text.exists_pieces (· == '/') rest
      have hfirst : Text.pieces (· == '/') (c :: rest) = (c :: piece) :: others :=
        Text.pieces_cons_of_uncut (by simpa using hc) hpieces
      rw [hchars, hfirst] at hhead
      exact absurd hhead (by simp)
  · refine hcurrent ?_
    rw [components_eq, beginning, hrelative, if_neg (by simp), if_pos hhead]
    exact List.mem_append_left _ (List.mem_singleton_self _)

/-- The parts of a pattern behind a directory are those of the directory and its own. -/
theorem exists_body_join (directory : String) (hrelative : isAbsolute pattern = false) :
    ∃ front, body (join directory pattern) = front ++ pattern.toList ∧
      PathPattern.parts (front ++ pattern.toList) =
        ahead directory ++ PathPattern.parts pattern.toList := by
  by_cases hempty : directory = ""
  · subst hempty
    refine ⟨[], ?_, rfl⟩
    rw [join_empty, body, hrelative]
    rfl
  obtain ⟨front, hfront, hpieces⟩ := exists_front_of_join hempty hrelative
  have hcut (start : List Char) (hstart : PathPattern.parts (body directory) =
      Text.pieces (· == '/') start) :
      PathPattern.parts (start ++ ['/'] ++ pattern.toList) =
        ahead directory ++ PathPattern.parts pattern.toList := by
    rw [List.append_assoc, List.singleton_append, PathPattern.parts_append_cut, ahead, hstart]
  rw [body, isAbsolute_join hempty hrelative, hfront]
  cases habsolute : isAbsolute directory with
  | false =>
    refine ⟨front ++ ['/'], by simp, hcut front (PathPattern.parts_eq_pieces ?_)⟩
    rw [body, habsolute, if_neg (by simp)]
    refine hpieces.imp_left fun ⟨hsame, hlast⟩ => ⟨hsame, ?_, hlast⟩
    rintro rfl
    exact hempty (String.toList_inj.mp hsame)
  | true =>
    obtain ⟨rest, hrest⟩ := isAbsolute_iff.mp habsolute
    cases front with
    | nil =>
      refine ⟨[], by simp, ?_⟩
      rcases hpieces with ⟨hnone, -⟩ | hslash
      · exact absurd (hrest.symm.trans hnone) (by simp)
      · rw [ahead, body, habsolute, if_pos rfl, hslash]
        rfl
    | cons c more =>
      refine ⟨more ++ ['/'], by simp, hcut more (PathPattern.parts_eq_pieces ?_)⟩
      rw [body, habsolute, if_pos rfl]
      rcases hpieces with ⟨hsame, hlast⟩ | hslash
      · obtain ⟨rfl, rfl⟩ := List.cons.inj (hrest.symm.trans hsame)
        refine .inl ⟨by rw [hrest]; rfl, ?_, ?_⟩
        · rintro rfl
          exact hlast rfl
        · intro hend
          obtain ⟨init, rfl⟩ := List.getLast?_eq_some_iff.mp hend
          exact hlast (by rw [← List.cons_append, List.getLast?_concat])
      · exact .inr (by rw [hslash]; rfl)

/-- What is behind a directory is at the end of the whole. -/
theorem exists_toList_join {pattern : String} (directory : String)
    (hrelative : isAbsolute pattern = false) :
    ∃ front, (join directory pattern).toList = front ++ pattern.toList := by
  by_cases hempty : directory = ""
  · exact ⟨[], by rw [hempty, join_empty, List.nil_append]⟩
  · obtain ⟨front, hfront, -⟩ := exists_front_of_join hempty hrelative
    exact ⟨front ++ ['/'], by simp [hfront]⟩

/-- That the path of a directory is read as it is in a pattern: no character of it stands for
others, and no dot is in front of anything. -/
structure IsLiteral (directory : String) : Prop where
  plain : ∀ c ∈ directory.toList, c ∉ NamePattern.marks
  current : .current ∈ components directory → directory = "." ∨ directory = "./"

instance (directory : String) : Decidable (IsLiteral directory) :=
  decidable_of_iff (directory.toList.all (fun c => !NamePattern.marks.contains c) = true ∧
      (.current ∈ components directory → directory = "." ∨ directory = "./"))
    ⟨fun h => ⟨by simpa using h.1, h.2⟩, fun h => ⟨by simpa using h.plain, h.current⟩⟩

theorem mapM_parse?_ahead (hdirectory : IsLiteral directory) :
    (ahead directory).mapM Segment.parse? = some ((ahead directory).map Segment.spelled) := by
  have hplain : ∀ part ∈ ahead directory, Segment.parse? part = some (.spelled part) :=
    fun part hpart => Segment.parse?_of_plain fun c hc =>
      hdirectory.plain c (mem_of_mem_ahead hpart hc)
  generalize ahead directory = parts at hplain
  induction parts with
  | nil => rfl
  | cons part rest ih =>
    rw [List.mapM_cons, hplain part List.mem_cons_self,
      ih fun other hother => hplain other (List.mem_cons_of_mem _ hother)]
    rfl

/-- A relative pattern behind a directory is the pattern with the parts of the directory in front,
as they are. -/
theorem parse?_join (hdirectory : IsLiteral directory) (hrelative : isAbsolute pattern = false)
    (hne : pattern ≠ "") : PathPattern.parse? (join directory pattern) =
      ((PathPattern.parts pattern.toList).mapM Segment.parse?).map fun segments =>
        ⟨isAbsolute directory, (ahead directory).map Segment.spelled ++ segments,
          (join directory pattern).toList.getLast? == some '/'⟩ := by
  obtain ⟨front, hbody, hparts⟩ := exists_body_join directory hrelative
  have habsolute : isAbsolute (join directory pattern) = isAbsolute directory := by
    by_cases hempty : directory = ""
    · subst hempty
      rw [join_empty, hrelative]
      rfl
    · exact isAbsolute_join hempty hrelative
  have hsome : (front ++ pattern.toList).isEmpty = false := by simpa using fun _ => hne
  rw [PathPattern.parse?]
  change Option.map _ (if (body (join directory pattern)).isEmpty then _
    else (PathPattern.parts (body (join directory pattern))).mapM _) = _
  rw [hbody, hsome, if_neg (by simp), hparts, List.mapM_append, mapM_parse?_ahead hdirectory,
    habsolute]
  cases (PathPattern.parts pattern.toList).mapM Segment.parse? <;> rfl

/-- The empty pattern behind a directory stands for no more than the directory. -/
theorem isDirectory_of_find {tree : FileTree} {parsed : PathPattern}
    (hparse : PathPattern.parse? (join directory "") = some parsed) {found : Found}
    (hfound : found ∈ parsed.find tree) : tree.isDirectory found.place = true := by
  by_cases hempty : directory = ""
  · subst hempty
    have hblank : PathPattern.parse? (join "" "") = some ⟨false, [.name []], false⟩ := by decide
    obtain rfl := Option.some.inj (hblank.symm.trans hparse)
    have hnone : Found.follow tree ⟨".", tree.base⟩ [] = none := by
      have hdot : components "." = [.current] := by decide
      simp [Found.follow, Found.extend, Component.ofPart, hdot]
    have hfound : found ∈ Found.search tree [.name []] ⟨".", tree.base⟩ := hfound
    simp [Found.search, NamePattern.literal?, hnone] at hfound
  · obtain ⟨front, hfront, -⟩ := exists_front_of_join hempty (by decide : isAbsolute "" = false)
    obtain ⟨segments, -, rfl⟩ := Option.map_eq_some_iff.mp hparse
    have honly : ((join directory "").toList.getLast? == some '/') = true := by simp [hfront]
    rw [PathPattern.find, if_pos honly] at hfound
    exact (List.mem_filter.mp hfound).2

/-- That a path goes on by names behind that of a directory. -/
def Below (directory path : String) (names : List String) : Prop :=
  components path = way directory ++ names.map .named

variable {tree : FileTree}

/-- Where a search for a relative pattern begins. -/
def start (tree : FileTree) (directory : String) : Found :=
  if isAbsolute directory then ⟨"/", []⟩ else ⟨".", tree.base⟩

theorem tidy_start (tree : FileTree) (directory : String) :
    (start tree directory).Tidy ∧
      way (start tree directory).path = if isAbsolute directory then [.root] else [] := by
  have hdot : components "." = [.current] := by decide
  rw [start]
  split
  · exact ⟨⟨by decide, by decide⟩, by decide⟩
  · exact ⟨⟨by simp, fun _ => hdot⟩, by rw [way, hdot]; rfl⟩

theorem leads_start (hsound : Sound tree) (directory : String) :
    (start tree directory).Leads tree :=
  PathPattern.leads_origin hsound ⟨isAbsolute directory, [], false⟩

/-- Every path that a pattern finds behind a directory goes on by names. -/
theorem exists_names_of_find (hsound : Sound tree) (hdirectory : IsLiteral directory)
    (hrelative : isAbsolute pattern = false) (hne : pattern ≠ "")
    (hstays : ∀ part ∈ PathPattern.parts pattern.toList, ∀ segment ∈ Segment.parse? part,
      segment.climbs = false)
    {parsed : PathPattern} (hparse : PathPattern.parse? (join directory pattern) = some parsed)
    {found : Found} (hfound : found ∈ parsed.find tree) :
    found.Tidy ∧ (∃ names : List String, way found.path = way directory ++ names.map .named) ∧
      ∃ top, tree.resolve directory = some top ∧ tree.isDirectory top = true := by
  have huncut := PathPattern.uncut_of_parse? hparse
  rw [parse?_join hdirectory hrelative hne] at hparse
  obtain ⟨segments, hsegments, rfl⟩ := Option.map_eq_some_iff.mp hparse
  have hsearch : found ∈ (start tree directory).search tree
      ((ahead directory).map Segment.spelled ++ segments) := by
    rw [PathPattern.find] at hfound
    split at hfound
    · exact List.mem_of_mem_filter hfound
    · exact hfound
  rw [Found.search_spelled] at hsearch
  obtain ⟨middle, hmiddle, hfound⟩ := List.mem_flatMap.mp hsearch
  rw [Option.mem_toList] at hmiddle
  obtain ⟨htidy, hway⟩ := tidy_start tree directory
  obtain ⟨htidy', hway'⟩ := Found.tidy_of_foldlM htidy (fun _ => uncut_of_mem_ahead) hmiddle
  rw [hway, ← way_eq_ahead] at hway'
  have hsegment : ∀ segment ∈ segments, segment.Uncut ∧ segment.climbs = false := by
    intro segment hsegment
    obtain ⟨part, hpart, hparsed⟩ := exists_of_mem_mapM hsegments hsegment
    exact ⟨huncut segment (List.mem_append_right _ hsegment), hstays part hpart segment hparsed⟩
  have hbeneath := Found.beneath_search hsound segments middle hsegment htidy' found hfound
  refine ⟨hbeneath.tidy, hway' ▸ hbeneath.names, middle.place, ?_, ?_⟩
  · have hleads := Found.leads_of_foldlM hsound (leads_start hsound directory)
      (fun _ => uncut_of_mem_ahead) hmiddle
    rw [resolve_eq_way hsound.base, ← hway', ← resolve_eq_way hsound.base, hleads.resolve]
  · refine Found.isDirectory_of_mem_search hsound segments middle ?_ found hfound
    rintro rfl
    obtain ⟨part, rest, hparts⟩ := List.exists_cons_of_ne_nil
      (PathPattern.parts_ne_nil (by simpa using hne) : PathPattern.parts pattern.toList ≠ [])
    rw [hparts, List.mapM_cons] at hsegments
    obtain ⟨_, -, hothers⟩ := Option.bind_eq_some_iff.mp hsegments
    obtain ⟨_, -, hnil⟩ := Option.bind_eq_some_iff.mp hothers
    exact absurd (Option.some.inj hnil) (List.cons_ne_nil _ _)

/-- The parts of a path that leads to a directory are followed to that directory. -/
theorem exists_of_resolve (hsound : Sound tree) (hdirectory : IsLiteral directory) {place : Place}
    (hresolve : tree.resolve directory = some place) (hplace : tree.isDirectory place = true) :
    ∃ found, (ahead directory).foldlM (Found.follow tree) (start tree directory) = some found ∧
      found.Tidy ∧ way found.path = way directory ∧ found.place = place := by
  obtain ⟨htidy, hway⟩ := tidy_start tree directory
  have hfollow : ((ahead directory).filterMap Component.ofPart).foldlM tree.step
      (start tree directory).place = some place := by
    rw [resolve_eq_way hsound.base, way_eq_ahead] at hresolve
    rw [start]
    split at hresolve
    · next habsolute => rwa [if_pos habsolute]
    · next hrelative => rwa [if_neg hrelative]
  have hstarts (hcurrent : components (start tree directory).path = [.current]) :
      Starts (ahead directory) := by
    by_cases hmem : .current ∈ components directory
    · rcases hdirectory.current hmem with rfl | rfl <;> exact .inl (by decide)
    · refine starts_ahead ?_ hmem
      rw [start] at hcurrent
      split at hcurrent
      · exact absurd hcurrent (by decide)
      · next hrelative => simpa using hrelative
  obtain ⟨found, hfound, hend⟩ :=
    Found.exists_of_foldlM htidy (fun _ => uncut_of_mem_ahead) hfollow hplace hstarts
  obtain ⟨htidy', hway'⟩ := Found.tidy_of_foldlM htidy (fun _ => uncut_of_mem_ahead) hfound
  exact ⟨found, hfound, htidy', by rw [hway', hway, way_eq_ahead], hend⟩

end ahead

end ServiceGen.Files
