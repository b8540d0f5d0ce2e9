import ServiceGen.Proofs.Tag.Grammar

/-!
The canonical text of a tag: its path, then one word for each key with all of its values. A tag that
can be read at all is read from its canonical text again, so that lines are different ways of
writing one tag exactly if their canonical texts are the same.
-/
namespace ServiceGen

open Text

/-- An option with all of its values, as one word. -/
def Options.entryText (entry : String × List String) : String :=
  entry.1 ++ "=" ++ String.intercalate "," entry.2

namespace Tag

/-- The text that stands for all texts of a tag. -/
def canonical (tag : Tag) : String :=
  String.intercalate " " (tag.text :: tag.options.entries.map Options.entryText)

/-- Whether an option is one that can be written: its key is a word without equals signs, and its
values are words without commas. -/
structure IsWritableOption (option : String × List String) : Prop where
  key : IsWord option.1.toList
  uncut : '=' ∉ option.1.toList
  value : ∀ value ∈ option.2, IsWord value.toList ∧ ',' ∉ value.toList

/-- Whether a tag is one that can be written: it begins as tags do, its path is of words without
colons, and no two of its options have the same key. -/
structure IsWritable (tag : Tag) : Prop where
  begins : Begins tag.text.toList
  segment : ∀ segment ∈ tag.path, IsWord segment.toList ∧ ':' ∉ segment.toList
  nodup : tag.options.keys.Nodup
  option : ∀ option ∈ tag.options.entries, IsWritableOption option

theorem toList_text (tag : Tag) :
    tag.text.toList = List.intercalate [':'] (tag.path.map String.toList) :=
  String.toList_intercalate

theorem toList_entryText (entry : String × List String) :
    (Options.entryText entry).toList =
      entry.1.toList ++ '=' :: List.intercalate [','] (entry.2.map String.toList) := by
  rw [Options.entryText, String.toList_append, String.toList_append, String.toList_intercalate,
    List.append_assoc]
  rfl

theorem toList_canonical (tag : Tag) :
    tag.canonical.toList = List.intercalate [' '] (tag.text.toList ::
      tag.options.entries.map fun entry => (Options.entryText entry).toList) := by
  rw [canonical, String.toList_intercalate, List.map_cons, List.map_map]
  rfl

section

variable {line : String} {tag : Tag}

theorem isWord_of_mem_joined {c : Char} {text part : List Char} {parts : List (List Char)}
    (htext : IsWord text) (hparts : JoinedBy c text parts) (hpart : part ∈ parts)
    (hne : part ≠ []) : IsWord part := by
  rw [← pieces_eq_iff.mpr hparts] at hpart
  exact ⟨hne, fun d hd => htext.unblank d (mem_of_mem_pieces hpart hd).1⟩

/-- What a word says as an option can be written. -/
theorem isWritableOption_of_gives {word : List Char} {option : String × List String}
    (hword : IsWord word) (h : Gives word option) : IsWritableOption option := by
  cases h with
  | @keyed key behind parts hne hkey hparts =>
    have hunblank : ∀ c ∈ key ++ '=' :: behind, isBlank c = false := hword.unblank
    refine ⟨?_, ?_, ?_⟩
    · simpa using (⟨hne, fun c hc => hunblank c (by simp [hc])⟩ : IsWord key)
    · simpa using hkey
    · intro value hvalue
      obtain ⟨part, hpart, rfl⟩ := List.mem_map.mp hvalue
      obtain ⟨hpart, hfull⟩ := List.mem_filter.mp hpart
      rw [String.toList_ofList]
      refine ⟨⟨by simpa using hfull, fun c hc => ?_⟩, hparts.notMem part hpart⟩
      rw [← pieces_eq_iff.mpr hparts] at hpart
      exact hunblank c (by simp [(mem_of_mem_pieces hpart hc).1])
  | bare hbare =>
    refine ⟨by simpa using hword, by simpa using hbare, fun value hvalue => ?_⟩
    obtain rfl : value = "true" := by simpa using hvalue
    exact ⟨by decide +kernel, by decide +kernel⟩

theorem isWritable_of_parse (hparse : parse line = .ok tag) : tag.IsWritable := by
  obtain ⟨first, later, segments, pairs, hwords, hbegins, hsegments, hfull, hoptions, rfl⟩ :=
    parse_eq_ok_iff.mp hparse
  have hallWords : ∀ word ∈ first :: later, IsWord word :=
    fun word hword => isWord_of_mem_words (hwords ▸ hword)
  obtain ⟨hfirst, hlater⟩ := List.forall_mem_cons.mp hallWords
  refine ⟨?_, ?_, Options.nodup_keys_ofPairs pairs, ?_⟩
  · rw [toList_text, List.map_map]
    simpa [Function.comp_def, hsegments.intercalate] using hbegins
  · intro segment hsegment
    obtain ⟨part, hpart, rfl⟩ := List.mem_map.mp hsegment
    rw [String.toList_ofList]
    have hne : part ≠ [] := fun hnil => hfull (hnil ▸ hpart)
    exact ⟨isWord_of_mem_joined hfirst hsegments hpart hne, hsegments.notMem part hpart⟩
  · have hpairs : ∀ pair ∈ pairs, IsWritableOption pair := by
      intro pair hpair
      obtain ⟨word, hword, hgives⟩ := exists_gives_of_mem hoptions hpair
      exact isWritableOption_of_gives (hlater word hword) hgives
    intro option hoption
    obtain ⟨⟨pair, hpair, hkey⟩, hvalues⟩ := Options.exists_of_mem_entries hoption
    refine ⟨hkey ▸ (hpairs pair hpair).key, hkey ▸ (hpairs pair hpair).uncut, ?_⟩
    intro value hvalue
    obtain ⟨giver, hgiver, hmem⟩ := hvalues value hvalue
    exact (hpairs giver hgiver).value value hmem

theorem mem_intercalate_singleton {c d : Char} {parts : List (List Char)}
    (h : d ∈ List.intercalate [c] parts) : d = c ∨ ∃ part ∈ parts, d ∈ part := by
  induction parts with
  | nil => exact absurd h (by simp)
  | cons part rest ih =>
    cases rest with
    | nil => exact .inr ⟨part, List.mem_cons_self, by simpa using h⟩
    | cons next others =>
      rw [List.intercalate_cons_cons, List.mem_append, List.mem_append, List.mem_singleton] at h
      rcases h with (hpart | hc) | hrest
      · exact .inr ⟨part, List.mem_cons_self, hpart⟩
      · exact .inl hc
      · exact (ih hrest).imp_right fun ⟨other, hother, hd⟩ =>
          ⟨other, List.mem_cons_of_mem _ hother, hd⟩

/-- Words with a character between them that is no blank have no blank among them. -/
theorem unblank_intercalate {c : Char} (hc : isBlank c = false) {parts : List (List Char)}
    (hparts : ∀ part ∈ parts, IsWord part) :
    ∀ d ∈ List.intercalate [c] parts, isBlank d = false := by
  intro d hd
  rcases mem_intercalate_singleton hd with rfl | ⟨part, hpart, hmem⟩
  · exact hc
  · exact (hparts part hpart).unblank d hmem

theorem listed_intercalate {values : List String}
    (hvalues : ∀ value ∈ values, IsWord value.toList ∧ ',' ∉ value.toList) :
    listed (List.intercalate [','] (values.map String.toList)) = values := by
  by_cases hnone : values = []
  · rw [hnone]
    rfl
  have hparts : JoinedBy ',' (List.intercalate [','] (values.map String.toList))
      (values.map String.toList) := by
    refine ⟨by simpa using hnone, ?_, rfl⟩
    exact List.forall_mem_map.mpr fun value hvalue => (hvalues value hvalue).2
  have hfull : ∀ part ∈ values.map String.toList, decide (part ≠ []) = true :=
    List.forall_mem_map.mpr fun value hvalue => by simpa using (hvalues value hvalue).1.ne_nil
  rw [listed_of_joinedBy hparts, List.filter_eq_self.mpr hfull, List.map_map]
  simp [Function.comp_def]

namespace IsWritableOption

variable {option : String × List String}

theorem isWord (h : IsWritableOption option) : IsWord (Options.entryText option).toList := by
  have hvalues : ∀ part ∈ option.2.map String.toList, IsWord part :=
    List.forall_mem_map.mpr fun value hvalue => (h.value value hvalue).1
  rw [toList_entryText]
  refine ⟨by simp, fun c hc => ?_⟩
  rcases List.mem_append.mp hc with hc | hc
  · exact h.key.unblank c hc
  · rcases List.mem_cons.mp hc with rfl | hc
    · decide
    · exact unblank_intercalate (by decide) hvalues c hc

theorem gives (h : IsWritableOption option) : Gives (Options.entryText option).toList option := by
  rw [← optionOfWord_eq_some_iff, toList_entryText, optionOfWord_keyed h.uncut,
    if_neg h.key.ne_nil, listed_intercalate h.value, String.ofList_toList]

end IsWritableOption

namespace IsWritable

theorem ofPath (h : tag.IsWritable) : (ofPath tag.path).IsWritable :=
  ⟨h.begins, h.segment, List.nodup_nil, fun _ hoption => absurd hoption List.not_mem_nil⟩

theorem isWord_text (h : tag.IsWritable) : IsWord tag.text.toList := by
  refine ⟨fun hnil => absurd h.begins.colon_mem (by simp [hnil]), ?_⟩
  rw [toList_text]
  exact unblank_intercalate (by decide)
    (List.forall_mem_map.mpr fun segment hsegment => (h.segment segment hsegment).1)

theorem joinedBy_text (h : tag.IsWritable) :
    JoinedBy ':' tag.text.toList (tag.path.map String.toList) := by
  refine ⟨fun hnil => ?_, ?_, (toList_text tag).symm⟩
  · exact absurd (toList_text tag) (by simp [hnil, h.isWord_text.ne_nil])
  · exact List.forall_mem_map.mpr fun segment hsegment => (h.segment segment hsegment).2

/-- A tag that can be written is read from its canonical text. -/
theorem parse_canonical (h : tag.IsWritable) : parse tag.canonical = .ok tag := by
  have hentries : ∀ word ∈ tag.options.entries.map fun entry => (Options.entryText entry).toList,
      IsWord word :=
    List.forall_mem_map.mpr fun entry hentry => (h.option entry hentry).isWord
  have hwords : words tag.canonical.toList = tag.text.toList ::
      tag.options.entries.map fun entry => (Options.entryText entry).toList := by
    rw [toList_canonical]
    exact words_intercalate (by decide) (List.forall_mem_cons.mpr ⟨h.isWord_text, hentries⟩)
  rw [parse_eq_ok_iff]
  refine ⟨_, _, _, tag.options.entries, hwords, h.begins, h.joinedBy_text, ?_, ?_, ?_⟩
  · intro hempty
    obtain ⟨segment, hsegment, hnil⟩ := List.mem_map.mp hempty
    exact (h.segment segment hsegment).1.ne_nil hnil
  · rw [List.forall₂_map_left_iff, List.forall₂_same]
    exact fun entry hentry => (h.option entry hentry).gives
  · rw [Options.ofPairs_entries h.nodup, List.map_map]
    simp [Function.comp_def]

end IsWritable

/-- The tags that lines can hold are those that can be written. -/
theorem exists_parse_iff : (∃ line, parse line = .ok tag) ↔ tag.IsWritable :=
  ⟨fun ⟨_, hparse⟩ => isWritable_of_parse hparse, fun h => ⟨_, h.parse_canonical⟩⟩

/-- A tag is read from its canonical text as it was read from a line, and from its path alone
without its options. So two lines hold one tag exactly if their tags have one canonical text. -/
theorem canonical_faithful (hparse : parse line = .ok tag) :
    parse tag.canonical = .ok tag ∧ parse tag.text = .ok (ofPath tag.path) ∧
      ∀ line' tag', parse line' = .ok tag' →
        (parse line = parse line' ↔ tag.canonical = tag'.canonical) := by
  have h := isWritable_of_parse hparse
  have hcanonical : (ofPath tag.path).canonical = tag.text := by
    simp [canonical, ofPath, Options.empty, text]
  refine ⟨h.parse_canonical, hcanonical ▸ h.ofPath.parse_canonical, ?_⟩
  intro line' tag' hparse'
  have h' := isWritable_of_parse hparse'
  rw [hparse, hparse']
  constructor
  · intro heq
    rw [Except.ok.inj heq]
  · intro heq
    rw [← h.parse_canonical, ← h'.parse_canonical, heq]

end

/-- The tag of a line with a repeated key, a key that is set, an empty value and a key without
values. -/
def unruly : Tag :=
  ⟨["lint", "allow"], ⟨[("rule", ["a", "b", "c=d"]), ("once", ["true"]), ("scope", [])]⟩⟩

theorem unruly_canonical :
    parse " lint:allow  rule=a,,b once\trule=c=d scope= " = .ok unruly ∧
      parse "lint:allow rule=a,b,c=d once=true scope=" = .ok unruly ∧
      parse "lint:allow" = .ok (ofPath ["lint", "allow"]) ∧
      ∀ line tag, parse line = .ok tag →
        (parse " lint:allow  rule=a,,b once\trule=c=d scope= " = parse line ↔
          unruly.canonical = tag.canonical) := by
  have hparse : parse " lint:allow  rule=a,,b once\trule=c=d scope= " = .ok unruly := by
    decide +kernel
  have hcanonical : unruly.canonical = "lint:allow rule=a,b,c=d once=true scope=" := by
    decide +kernel
  have htext : unruly.text = "lint:allow" := by decide +kernel
  obtain ⟨hagain, hpath, hsame⟩ := canonical_faithful hparse
  exact ⟨hparse, hcanonical ▸ hagain, htext ▸ hpath, hsame⟩

end Tag

end ServiceGen
