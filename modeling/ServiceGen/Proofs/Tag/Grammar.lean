import Mathlib.Data.List.Forall2
import ServiceGen.Proofs.Tag.Options
import ServiceGen.Proofs.Text.Words
import ServiceGen.Tag.Grammar

/-!
The grammar of tags, as a relation between a text and what it reads as. A text is given by its
words, its first word by the segments between colons, and each later word by what it says as an
option. Reading a line answers what the relation says of the trimmed line and nothing else, and the
two tests for the beginning of a tag, on the line and on the trimmed line, agree.
-/
namespace ServiceGen.Tag

open Text

/-- How a tag begins: the name of a tool, a colon and one more character of that class. -/
inductive Begins : List Char → Prop
  | intro {tool : List Char} {c : Char} (rest : List Char) (hne : tool ≠ [])
    (htool : ∀ d ∈ tool, isToolChar d = true) (hc : isToolChar c = true) :
    Begins (tool ++ ':' :: c :: rest)

/-- What a word says as an option: a key in front of its first equals sign, with those texts between
commas behind the sign that are not empty, or the whole word as a key that is set. -/
inductive Gives : List Char → String × List String → Prop
  | keyed {key behind : List Char} {parts : List (List Char)} (hne : key ≠ []) (hkey : '=' ∉ key)
    (hparts : JoinedBy ',' behind parts) :
    Gives (key ++ '=' :: behind) (String.ofList key, (parts.filter (· ≠ [])).map String.ofList)
  | bare {word : List Char} (hword : '=' ∉ word) : Gives word (String.ofList word, ["true"])

/-- What a text reads as that has no blanks at its ends. The first flaw counts: a wrong beginning,
then an empty segment, then the first option that begins with its equals sign. -/
inductive Reads : List Char → Except ParseError Tag → Prop
  | stranger {text : List Char} (hbegins : ¬ Begins text) :
    Reads text (.error (.notATag (String.ofList text)))
  | emptySegment {text first : List Char} {later segments : List (List Char)}
    (hbegins : Begins text) (hwords : Spaced text (first :: later))
    (hsegments : JoinedBy ':' first segments) (hempty : [] ∈ segments) :
    Reads text (.error (.emptySegment (String.ofList first)))
  | emptyKey {text first word : List Char} {before after segments : List (List Char)}
    (hbegins : Begins text) (hwords : Spaced text (first :: (before ++ word :: after)))
    (hsegments : JoinedBy ':' first segments) (hfull : [] ∉ segments)
    (hbefore : ∀ earlier ∈ before, earlier.head? ≠ some '=') (hword : word.head? = some '=') :
    Reads text (.error (.emptyOptionKey (String.ofList first) (String.ofList word)))
  | tag {text first : List Char} {later segments : List (List Char)}
    {pairs : List (String × List String)}
    (hbegins : Begins text) (hwords : Spaced text (first :: later))
    (hsegments : JoinedBy ':' first segments) (hfull : [] ∉ segments)
    (hoptions : List.Forall₂ Gives later pairs) :
    Reads text (.ok ⟨segments.map String.ofList, Options.ofPairs pairs⟩)

section Begins

theorem isBlank_of_isToolChar {c : Char} (hc : isToolChar c = true) : isBlank c = false := by
  have hrange : (0x61 ≤ c.toNat ∧ c.toNat ≤ 0x7a) ∨ (0x30 ≤ c.toNat ∧ c.toNat ≤ 0x39) := by
    simpa [isToolChar, Char.le_def, UInt32.le_iff_toNat_le] using hc
  have hspace : c ≠ ' ' := by
    rintro rfl
    exact absurd hc (by decide)
  simp only [isBlank, Bool.or_eq_false_iff, Bool.and_eq_false_iff, decide_eq_false_iff_not,
    beq_eq_false_iff_ne, ne_eq, hspace, not_false_eq_true, and_true]
  omega

theorem beginsLikeTag_iff {text : List Char} : beginsLikeTag text = true ↔ Begins text := by
  constructor
  · intro h
    rw [beginsLikeTag, Bool.and_eq_true] at h
    obtain ⟨hne, hrest⟩ := h
    split at hrest
    · next c rest hdrop =>
      have htext : text = text.takeWhile isToolChar ++ ':' :: c :: rest := by
        rw [← hdrop, List.takeWhile_append_dropWhile]
      rw [htext]
      exact .intro rest (by simpa using hne) (fun d hd => List.mem_takeWhile_imp hd) hrest
    · exact absurd hrest (by simp)
  · rintro ⟨rest, hne, htool, hc⟩
    have hcolon : isToolChar ':' = false := by decide
    simp [beginsLikeTag, List.takeWhile_append_of_pos htool, List.dropWhile_append_of_pos htool,
      hcolon, hne, hc]

theorem Begins.append {text : List Char} (h : Begins text) (behind : List Char) :
    Begins (text ++ behind) := by
  obtain ⟨rest, hne, htool, hc⟩ := h
  rw [List.append_assoc]
  exact .intro (rest ++ behind) hne htool hc

/-- The beginning of a tag lies in its first word. -/
theorem begins_append_iff {first rest : List Char} (hends : ∀ c ∈ rest.head?, isBlank c = true) :
    Begins (first ++ rest) ↔ Begins first := by
  refine ⟨fun h => ?_, fun h => h.append rest⟩
  generalize htext : first ++ rest = text at h
  obtain @⟨tool, c, behind, hne, htool, hc⟩ := h
  have hsplit : first ++ rest = (tool ++ [':', c]) ++ behind := by simpa using htext
  have hunblank : ∀ d ∈ tool ++ [':', c], isBlank d = false := by
    intro d hd
    rcases List.mem_append.mp hd with hd | hd
    · exact isBlank_of_isToolChar (htool d hd)
    · rcases List.mem_cons.mp hd with rfl | hd
      · decide
      · exact isBlank_of_isToolChar (List.mem_singleton.mp hd ▸ hc)
  rcases List.append_eq_append_iff.mp hsplit with ⟨more, hmore, hrest⟩ | ⟨more, hfirst, -⟩
  · cases more with
    | nil =>
      rw [List.append_nil] at hmore
      exact hmore ▸ .intro [] hne htool hc
    | cons d others =>
      have hblank : isBlank d = true := hends d (by simp [hrest])
      exact absurd hblank (by simp [hunblank d (by simp [hmore])])
  · rw [hfirst, List.append_assoc]
    exact .intro more hne htool hc

theorem Begins.colon_mem {text : List Char} (h : Begins text) : ':' ∈ text := by
  obtain ⟨rest, -, -, -⟩ := h
  simp

theorem Begins.words_ne_nil {text : List Char} (h : Begins text) : words text ≠ [] := by
  intro hnone
  have hblank : isBlank ':' = true := words_eq_nil_iff.mp hnone ':' h.colon_mem
  exact absurd hblank (by decide)

/-- Of a text that begins with no blank, the first word decides whether it begins like a tag. -/
theorem begins_iff {text : List Char} (hhead : ∀ c ∈ text.head?, isBlank c = false) :
    Begins text ↔ ∃ first later, words text = first :: later ∧ Begins first := by
  constructor
  · intro h
    obtain ⟨first, later, hwords⟩ := List.exists_cons_of_ne_nil h.words_ne_nil
    obtain ⟨rest, rfl, hends⟩ := exists_eq_append hhead hwords
    exact ⟨first, later, hwords, (begins_append_iff hends).mp h⟩
  · rintro ⟨first, later, hwords, h⟩
    obtain ⟨rest, rfl, -⟩ := exists_eq_append hhead hwords
    exact h.append rest

/-- It does not matter whether blanks are taken off one end of a line or off both. -/
theorem isTag_iff (line : String) : isTag line = true ↔ Begins (trim line.toList) := by
  rw [isTag, beginsLikeTag_iff, begins_iff (head?_trimStart _), begins_iff (head?_trim _),
    words_trimStart, words_trim]

end Begins

section Gives

/-- The texts between commas that are not empty. -/
def listed (text : List Char) : List String :=
  ((pieces (· == ',') text).filter (!·.isEmpty)).map String.ofList

theorem optionOfWord_keyed {key : List Char} (hkey : '=' ∉ key) (behind : List Char) :
    optionOfWord (key ++ '=' :: behind) =
      if key = [] then none else some (String.ofList key, listed behind) := by
  have huncut : ∀ d ∈ key, (d == '=') = false :=
    fun d hd => beq_false_of_ne fun heq : d = '=' => hkey (heq ▸ hd)
  rw [optionOfWord, cutAt_append huncut (by decide)]
  cases key <;> rfl

theorem optionOfWord_bare {word : List Char} (hword : '=' ∉ word) :
    optionOfWord word = some (String.ofList word, ["true"]) := by
  have huncut : ∀ d ∈ word, (d == '=') = false :=
    fun d hd => beq_false_of_ne fun heq : d = '=' => hword (heq ▸ hd)
  rw [optionOfWord, cutAt_of_uncut huncut]
  rfl

theorem listed_of_joinedBy {text : List Char} {parts : List (List Char)}
    (hparts : JoinedBy ',' text parts) :
    listed text = (parts.filter (· ≠ [])).map String.ofList := by
  rw [listed, pieces_eq_iff.mpr hparts]
  congr 1
  exact List.filter_congr fun part _ => by cases part <;> rfl

theorem optionOfWord_eq_some_iff {word : List Char} {option : String × List String} :
    optionOfWord word = some option ↔ Gives word option := by
  constructor
  · intro h
    by_cases hmem : '=' ∈ word
    · obtain ⟨key, behind, rfl, hkey⟩ := List.eq_append_cons_of_mem hmem
      rw [optionOfWord_keyed hkey] at h
      split at h
      · exact absurd h (by simp)
      · next hne =>
        obtain rfl := Option.some.inj h
        have hparts : JoinedBy ',' behind (pieces (· == ',') behind) := pieces_eq_iff.mp rfl
        rw [listed_of_joinedBy hparts]
        exact .keyed hne hkey hparts
    · rw [optionOfWord_bare hmem] at h
      obtain rfl := Option.some.inj h
      exact .bare hmem
  · rintro (⟨hne, hkey, hparts⟩ | hword)
    · rw [optionOfWord_keyed hkey, if_neg hne, listed_of_joinedBy hparts]
    · exact optionOfWord_bare hword

theorem optionOfWord_eq_none_iff {word : List Char} :
    optionOfWord word = none ↔ word.head? = some '=' := by
  by_cases hmem : '=' ∈ word
  · obtain ⟨key, behind, rfl, hkey⟩ := List.eq_append_cons_of_mem hmem
    rw [optionOfWord_keyed hkey]
    cases key with
    | nil => simp
    | cons c rest => simpa using fun heq : c = '=' => hkey (heq ▸ List.mem_cons_self)
  · have hhead : word.head? ≠ some '=' := fun h => hmem (List.mem_of_mem_head? h)
    simp [optionOfWord_bare hmem, hhead]

/-- Words are options, all of them, if none begins with its equals sign. -/
theorem exists_gives_iff {words : List (List Char)} :
    (∃ pairs, List.Forall₂ Gives words pairs) ↔ ∀ word ∈ words, word.head? ≠ some '=' := by
  constructor
  · rintro ⟨pairs, hpairs⟩
    induction hpairs with
    | nil => exact fun _ hword => absurd hword List.not_mem_nil
    | cons hgives hrest ih =>
      refine List.forall_mem_cons.mpr ⟨fun hhead => ?_, ih⟩
      have hsome := optionOfWord_eq_some_iff.mpr hgives
      exact absurd (optionOfWord_eq_none_iff.mpr hhead) (by simp [hsome])
  · intro h
    induction words with
    | nil => exact ⟨[], .nil⟩
    | cons word rest ih =>
      obtain ⟨pairs, hpairs⟩ := ih fun other hother => h other (List.mem_cons_of_mem _ hother)
      cases hword : optionOfWord word with
      | none => exact absurd (optionOfWord_eq_none_iff.mp hword) (h word List.mem_cons_self)
      | some option => exact ⟨option :: pairs, .cons (optionOfWord_eq_some_iff.mp hword) hpairs⟩

theorem exists_gives_of_mem {words : List (List Char)} {pairs : List (String × List String)}
    (h : List.Forall₂ Gives words pairs) {pair : String × List String} (hpair : pair ∈ pairs) :
    ∃ word ∈ words, Gives word pair := by
  induction h with
  | nil => exact absurd hpair List.not_mem_nil
  | cons hgives _ ih =>
    rcases List.mem_cons.mp hpair with rfl | hpair
    · exact ⟨_, List.mem_cons_self, hgives⟩
    · obtain ⟨word, hword, hgives⟩ := ih hpair
      exact ⟨word, List.mem_cons_of_mem _ hword, hgives⟩

theorem optionsOfWords_of_gives (key : String) {words : List (List Char)}
    {pairs : List (String × List String)} (h : List.Forall₂ Gives words pairs)
    (options : Options) : optionsOfWords key words options = .ok (options.extendAll pairs) := by
  induction h generalizing options with
  | nil => rfl
  | cons hgives hrest ih =>
    rw [optionsOfWords, optionOfWord_eq_some_iff.mpr hgives]
    exact ih _

/-- Reading options ends at the first word that is none. -/
theorem optionsOfWords_of_head (key : String) {before : List (List Char)} {word : List Char}
    (after : List (List Char)) (hbefore : ∀ earlier ∈ before, earlier.head? ≠ some '=')
    (hword : word.head? = some '=') (options : Options) :
    optionsOfWords key (before ++ word :: after) options =
      .error (.emptyOptionKey key (String.ofList word)) := by
  induction before generalizing options with
  | nil => rw [List.nil_append, optionsOfWords, optionOfWord_eq_none_iff.mpr hword]
  | cons earlier rest ih =>
    have hrest := ih fun other hother => hbefore other (List.mem_cons_of_mem _ hother)
    rw [List.cons_append, optionsOfWords]
    cases hearlier : optionOfWord earlier with
    | none =>
      exact absurd (optionOfWord_eq_none_iff.mp hearlier) (hbefore earlier List.mem_cons_self)
    | some option => exact hrest _

end Gives

section parse

variable {line : String}

theorem any_isEmpty_iff {segments : List (List Char)} :
    (segments.map String.ofList).any String.isEmpty = true ↔ [] ∈ segments := by
  simp

theorem parse_of_not_begins (h : ¬ Begins (trim line.toList)) :
    parse line = .error (.notATag (String.ofList (trim line.toList))) := by
  rw [← beginsLikeTag_iff, Bool.not_eq_true] at h
  simp [parse, h]

/-- Behind the right beginning the words of the line are read. -/
theorem parse_of_begins (h : Begins (trim line.toList)) {first : List Char}
    {later segments : List (List Char)} (hwords : words (trim line.toList) = first :: later)
    (hsegments : JoinedBy ':' first segments) :
    parse line =
      if [] ∈ segments then .error (.emptySegment (String.ofList first))
      else (optionsOfWords (String.ofList first) later .empty).map
        (Tag.mk (segments.map String.ofList)) := by
  rw [← pieces_eq_iff] at hsegments
  simp only [parse, beginsLikeTag_iff.mpr h, hwords, hsegments, any_isEmpty_iff]
  rfl

theorem parse_of_reads {answer : Except ParseError Tag} (h : Reads (trim line.toList) answer) :
    parse line = answer := by
  generalize htext : trim line.toList = text at h
  cases h with
  | stranger hbegins => exact htext ▸ parse_of_not_begins (htext ▸ hbegins)
  | emptySegment hbegins hwords hsegments hempty =>
    rw [parse_of_begins (htext ▸ hbegins) (htext ▸ words_of_spaced hwords) hsegments,
      if_pos hempty]
  | emptyKey hbegins hwords hsegments hfull hbefore hword =>
    rw [parse_of_begins (htext ▸ hbegins) (htext ▸ words_of_spaced hwords) hsegments,
      if_neg hfull, optionsOfWords_of_head _ _ hbefore hword]
    rfl
  | tag hbegins hwords hsegments hfull hoptions =>
    rw [parse_of_begins (htext ▸ hbegins) (htext ▸ words_of_spaced hwords) hsegments,
      if_neg hfull, optionsOfWords_of_gives _ hoptions]
    rfl

/-- Every text reads as something. -/
theorem exists_reads (text : List Char) : ∃ answer, Reads text answer := by
  by_cases hbegins : Begins text
  · obtain ⟨first, later, hfirst⟩ := List.exists_cons_of_ne_nil hbegins.words_ne_nil
    have hwords := words_eq_iff.mp hfirst
    have hsegments : JoinedBy ':' first (pieces (· == ':') first) := pieces_eq_iff.mp rfl
    by_cases hempty : [] ∈ pieces (· == ':') first
    · exact ⟨_, .emptySegment hbegins hwords hsegments hempty⟩
    cases hfind : later.find? (·.head? == some '=') with
    | none =>
      have hkeys : ∀ word ∈ later, word.head? ≠ some '=' := by
        simpa using List.find?_eq_none.mp hfind
      obtain ⟨pairs, hoptions⟩ := exists_gives_iff.mpr hkeys
      exact ⟨_, .tag hbegins hwords hsegments hempty hoptions⟩
    | some word =>
      obtain ⟨hword, before, after, rfl, hbefore⟩ := List.find?_eq_some_iff_append.mp hfind
      exact ⟨_, .emptyKey hbegins hwords hsegments hempty (by simpa using hbefore)
        (by simpa using hword)⟩
  · exact ⟨_, .stranger hbegins⟩

theorem parse_eq_iff {answer : Except ParseError Tag} :
    parse line = answer ↔ Reads (trim line.toList) answer := by
  refine ⟨?_, parse_of_reads⟩
  rintro rfl
  obtain ⟨answer, h⟩ := exists_reads (trim line.toList)
  rwa [parse_of_reads h]

/-- A tag is read from the words of a line, wherever they stand in it. -/
theorem parse_eq_ok_iff {tag : Tag} :
    parse line = .ok tag ↔ ∃ first later segments pairs, words line.toList = first :: later ∧
      Begins first ∧ JoinedBy ':' first segments ∧ [] ∉ segments ∧
      List.Forall₂ Gives later pairs ∧
      tag = ⟨segments.map String.ofList, Options.ofPairs pairs⟩ := by
  rw [parse_eq_iff]
  have hhead := head?_trim line.toList
  have htrim := words_trim line.toList
  constructor
  · generalize trim line.toList = text at hhead htrim ⊢
    rintro (_ | _ | _ | ⟨hbegins, hwords, hsegments, hfull, hoptions⟩)
    obtain ⟨first, later, hfirst, hbegins⟩ := (begins_iff hhead).mp hbegins
    obtain ⟨rfl, rfl⟩ := List.cons.inj (hfirst.symm.trans (words_of_spaced hwords))
    exact ⟨first, later, _, _, htrim ▸ hfirst, hbegins, hsegments, hfull, hoptions, rfl⟩
  · rintro ⟨first, later, segments, pairs, hfirst, hbegins, hsegments, hfull, hoptions, rfl⟩
    rw [← htrim] at hfirst
    exact .tag ((begins_iff hhead).mpr ⟨first, later, hfirst, hbegins⟩) (words_eq_iff.mp hfirst)
      hsegments hfull hoptions

theorem two_le_length {first : List Char} {segments : List (List Char)} (hbegins : Begins first)
    (hsegments : JoinedBy ':' first segments) : 2 ≤ segments.length := by
  obtain ⟨hne, hnot, hjoined⟩ := hsegments
  match segments, hne with
  | [segment], _ =>
    rw [List.intercalate_singleton] at hjoined
    exact absurd hbegins.colon_mem (hjoined ▸ hnot segment List.mem_cons_self)
  | _ :: _ :: _, _ => simp

/-- Reading a line follows the grammar. What it answers is what the grammar makes of the line
without the blanks at its ends, flaws included, and the line is said to have the shape of a tag
exactly if it begins like one. It is a tag exactly if it begins like one, no segment of its first
word is empty and no later word begins with an equals sign; the path then has two segments at
least. -/
theorem parse_follows_grammar (line : String) :
    (isTag line = true ↔ Begins (trim line.toList)) ∧
      (∀ answer, parse line = answer ↔ Reads (trim line.toList) answer) ∧
      ((∃ tag, parse line = .ok tag) ↔ Begins (trim line.toList) ∧
        ∃ first later segments, Spaced (trim line.toList) (first :: later) ∧
          JoinedBy ':' first segments ∧ [] ∉ segments ∧ ∀ word ∈ later, word.head? ≠ some '=') ∧
      ∀ tag, parse line = .ok tag → 2 ≤ tag.path.length := by
  refine ⟨isTag_iff line, fun answer => parse_eq_iff, ⟨?_, ?_⟩, ?_⟩
  · rintro ⟨tag, htag⟩
    rw [parse_eq_iff] at htag
    generalize trim line.toList = text at htag ⊢
    obtain _ | _ | _ | ⟨hbegins, hwords, hsegments, hfull, hoptions⟩ := htag
    exact ⟨hbegins, _, _, _, hwords, hsegments, hfull, exists_gives_iff.mp ⟨_, hoptions⟩⟩
  · rintro ⟨hbegins, first, later, segments, hwords, hsegments, hfull, hkeys⟩
    obtain ⟨pairs, hoptions⟩ := exists_gives_iff.mpr hkeys
    exact ⟨_, parse_of_reads (.tag hbegins hwords hsegments hfull hoptions)⟩
  · intro tag htag
    obtain ⟨first, later, segments, pairs, -, hbegins, hsegments, -, -, rfl⟩ :=
      parse_eq_ok_iff.mp htag
    simpa using two_le_length hbegins hsegments

end parse

end ServiceGen.Tag
