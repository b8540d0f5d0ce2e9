import ServiceGen.Proofs.Tag.Grammar

/-!
Options of one key in a line. What a line says of a key does not depend on how its values are
divided among words, as long as no other word of that key stands between them: two words of a key
say what one word says that lists the values of both.
-/
namespace ServiceGen.Tag

open Text

/-- Two options of one key in a line behind its path. Both are words of their own, and all words
between them are options of other keys. -/
structure Repeats (front key first middle second behind : List Char) : Prop where
  path : words front ≠ []
  front : front.getLast?.all isBlank = true
  uncut : '=' ∉ key
  first : IsWord (key ++ '=' :: first)
  apart : middle ≠ []
  opens : middle.head?.all isBlank = true
  closes : middle.getLast?.all isBlank = true
  others : ∀ word ∈ words middle, word.takeWhile (· ≠ '=') ≠ key
  second : IsWord (key ++ '=' :: second)
  behind : behind.head?.all isBlank = true

theorem listed_append (first second : List Char) :
    listed (first ++ ',' :: second) = listed first ++ listed second := by
  rw [listed, pieces_append_cut (by decide), List.filter_append, List.map_append]
  rfl

theorem gives_keyed_iff {key : List Char} (hkey : '=' ∉ key) {behind : List Char}
    {option : String × List String} :
    Gives (key ++ '=' :: behind) option ↔
      key ≠ [] ∧ option = (String.ofList key, listed behind) := by
  rw [← optionOfWord_eq_some_iff, optionOfWord_keyed hkey]
  by_cases hne : key = []
  · simp [hne]
  · simp [hne, eq_comm]

theorem key_of_gives {word : List Char} {option : String × List String} (h : Gives word option) :
    option.1 = String.ofList (word.takeWhile (· ≠ '=')) := by
  have huncut {key : List Char} (hkey : '=' ∉ key) : ∀ c ∈ key, decide (c ≠ '=') = true := by
    intro c hc
    simpa using fun heq : c = '=' => hkey (heq ▸ hc)
  cases h with
  | keyed hne hkey hparts =>
    rw [List.takeWhile_append_of_pos (huncut hkey)]
    simp
  | bare hword => rw [List.takeWhile_eq_self_iff.mpr (huncut hword)]

/-- What words side by side say as options. -/
theorem forall₂_append_left_iff {α β : Type} {r : α → β → Prop} {front behind : List α}
    {list : List β} : List.Forall₂ r (front ++ behind) list ↔
      ∃ before after, List.Forall₂ r front before ∧ List.Forall₂ r behind after ∧
        list = before ++ after := by
  constructor
  · intro h
    induction front generalizing list with
    | nil => exact ⟨[], list, .nil, h, rfl⟩
    | cons a front ih =>
      obtain ⟨b, rest, hb, hrest, rfl⟩ := List.forall₂_cons_left_iff.mp h
      obtain ⟨before, after, hbefore, hafter, rfl⟩ := ih hrest
      exact ⟨b :: before, after, .cons hb hbefore, hafter, rfl⟩
  · rintro ⟨before, after, hbefore, hafter, rfl⟩
    exact List.rel_append hbefore hafter

/-- What words around an option with a key say. -/
theorem forall₂_gives_keyed_iff {key : List Char} (hkey : '=' ∉ key) {values : List Char}
    {before after : List (List Char)} {pairs : List (String × List String)} :
    List.Forall₂ Gives (before ++ (key ++ '=' :: values) :: after) pairs ↔
      key ≠ [] ∧ ∃ front behind, List.Forall₂ Gives before front ∧
        List.Forall₂ Gives after behind ∧
        pairs = front ++ (String.ofList key, listed values) :: behind := by
  rw [forall₂_append_left_iff]
  constructor
  · rintro ⟨front, _, hfront, hfrom, rfl⟩
    obtain ⟨_, behind, hgives, hbehind, rfl⟩ := List.forall₂_cons_left_iff.mp hfrom
    obtain ⟨hne, rfl⟩ := (gives_keyed_iff hkey).mp hgives
    exact ⟨hne, front, behind, hfront, hbehind, rfl⟩
  · rintro ⟨hne, front, behind, hfront, hbehind, rfl⟩
    exact ⟨front, _, hfront, .cons ((gives_keyed_iff hkey).mpr ⟨hne, rfl⟩) hbehind, rfl⟩

/-- The options that words give, all of them. -/
def GivesAll (words : List (List Char)) (options : Options) : Prop :=
  ∃ pairs, List.Forall₂ Gives words pairs ∧ options = Options.ofPairs pairs

/-- Two words of a key say what one says with the values of both. -/
theorem givesAll_join {key first second : List Char} (hkey : '=' ∉ key)
    {before between after : List (List Char)}
    (hothers : ∀ word ∈ between, word.takeWhile (· ≠ '=') ≠ key) {options : Options} :
    GivesAll (before ++ (key ++ '=' :: first) :: (between ++ (key ++ '=' :: second) :: after))
        options ↔
      GivesAll (before ++ (key ++ '=' :: (first ++ ',' :: second)) :: (between ++ after))
        options := by
  have hbetween {pairs : List (String × List String)} (h : List.Forall₂ Gives between pairs) :
      String.ofList key ∉ pairs.map Prod.fst := by
    intro hmem
    obtain ⟨pair, hpair, hfst⟩ := List.mem_map.mp hmem
    obtain ⟨word, hword, hgives⟩ := exists_gives_of_mem h hpair
    rw [key_of_gives hgives, String.ofList_inj] at hfst
    exact hothers word hword hfst
  constructor
  · rintro ⟨_, hpairs, rfl⟩
    obtain ⟨hne, front, _, hfront, hlater, rfl⟩ := (forall₂_gives_keyed_iff hkey).mp hpairs
    obtain ⟨-, middle, behind, hmiddle, hbehind, rfl⟩ := (forall₂_gives_keyed_iff hkey).mp hlater
    rw [Options.ofPairs_join _ _ (hbetween hmiddle), ← listed_append]
    exact ⟨_, (forall₂_gives_keyed_iff hkey).mpr
      ⟨hne, front, _, hfront, List.rel_append hmiddle hbehind, rfl⟩, rfl⟩
  · rintro ⟨_, hpairs, rfl⟩
    obtain ⟨hne, front, _, hfront, hlater, rfl⟩ := (forall₂_gives_keyed_iff hkey).mp hpairs
    obtain ⟨middle, behind, hmiddle, hbehind, rfl⟩ := forall₂_append_left_iff.mp hlater
    rw [listed_append, ← Options.ofPairs_join _ _ (hbetween hmiddle)]
    exact ⟨_, (forall₂_gives_keyed_iff hkey).mpr ⟨hne, front, _, hfront,
      (forall₂_gives_keyed_iff hkey).mpr ⟨hne, middle, behind, hmiddle, hbehind, rfl⟩, rfl⟩, rfl⟩

/-- A line is a tag by its words. Others behind the path that give the same options make the same
tag. -/
theorem parse_ok_of_words {text text' first : List Char} {later later' : List (List Char)}
    (hwords : words text = first :: later) (hwords' : words text' = first :: later')
    (hoptions : ∀ options, GivesAll later options → GivesAll later' options) {tag : Tag}
    (hparse : parse (String.ofList text) = .ok tag) : parse (String.ofList text') = .ok tag := by
  rw [parse_eq_ok_iff, String.toList_ofList] at hparse ⊢
  obtain ⟨path, others, segments, pairs, htext, hbegins, hsegments, hfull, hpairs, rfl⟩ := hparse
  obtain ⟨rfl, rfl⟩ := List.cons.inj (hwords.symm.trans htext)
  obtain ⟨pairs', hpairs', heq⟩ := hoptions _ ⟨pairs, hpairs, rfl⟩
  rw [heq]
  exact ⟨_, _, segments, pairs', hwords', hbegins, hsegments, hfull, hpairs', rfl⟩

namespace Repeats

variable {front key first middle second behind : List Char}

theorem blank_of_all {end? : Option Char} (h : end?.all isBlank = true) :
    ∀ c ∈ end?, isBlank c = true := by
  rintro c rfl
  exact h

theorem opens_append (h : Repeats front key first middle second behind) (rest : List Char) :
    ∀ c ∈ (middle ++ rest).head?, isBlank c = true := by
  rw [List.head?_append_of_ne_nil _ h.apart]
  exact blank_of_all h.opens

theorem words_apart (h : Repeats front key first middle second behind) :
    words (front ++ (key ++ '=' :: first) ++ middle ++ (key ++ '=' :: second) ++ behind) =
      words front ++ (key ++ '=' :: first) ::
        (words middle ++ (key ++ '=' :: second) :: words behind) := by
  rw [List.append_assoc, List.append_assoc, List.append_assoc,
    words_append_of_getLast? (blank_of_all h.front), words_append (h.opens_append _),
    words_of_isWord h.first, words_append_of_getLast? (blank_of_all h.closes),
    words_append (blank_of_all h.behind), words_of_isWord h.second, List.singleton_append,
    List.singleton_append]

theorem isWord_joint (h : Repeats front key first middle second behind) :
    IsWord (key ++ '=' :: (first ++ ',' :: second)) := by
  refine ⟨by simp, fun c hc => ?_⟩
  have hcases : c ∈ key ++ '=' :: first ∨ c = ',' ∨ c ∈ key ++ '=' :: second := by
    simp only [List.mem_append, List.mem_cons] at hc ⊢
    tauto
  rcases hcases with hfirst | rfl | hsecond
  · exact h.first.unblank c hfirst
  · decide
  · exact h.second.unblank c hsecond

theorem words_joint (h : Repeats front key first middle second behind) :
    words (front ++ (key ++ '=' :: (first ++ ',' :: second)) ++ middle ++ behind) =
      words front ++ (key ++ '=' :: (first ++ ',' :: second)) ::
        (words middle ++ words behind) := by
  rw [List.append_assoc, List.append_assoc, words_append_of_getLast? (blank_of_all h.front),
    words_append (h.opens_append _), words_of_isWord h.isWord_joint,
    words_append (blank_of_all h.behind), List.singleton_append]

end Repeats

/-- Options are an ordered multimap, and it cannot be seen how they were put together. However pairs
were added, each key has one entry, in the order in which keys came first, and its values are those
of all pairs with the key, in order; a key is there as soon as some pair has it, with values or
without. So a tag stays the same when of two options with one key in its line, and only options of
other keys between them, the first takes over the values of the second and the second goes. -/
theorem repeated_keys_merge :
    (∀ pairs : List (String × List String),
      (Options.ofPairs pairs).keys.Nodup ∧
      (Options.ofPairs pairs).keys = (pairs.map Prod.fst).eraseDups ∧
      (∀ more, (Options.ofPairs pairs).extendAll more = Options.ofPairs (pairs ++ more)) ∧
      ∀ key, (Options.ofPairs pairs).getAll key = Options.given pairs key ∧
        (Options.ofPairs pairs).get? key = (Options.given pairs key).head? ∧
        ((Options.ofPairs pairs).has key = true ↔ ∃ pair ∈ pairs, pair.1 = key)) ∧
    ∀ front key first middle second behind, Repeats front key first middle second behind →
      ∀ tag, parse (String.ofList (front ++ (key ++ '=' :: first) ++ middle ++
          (key ++ '=' :: second) ++ behind)) = .ok tag ↔
        parse (String.ofList (front ++ (key ++ '=' :: (first ++ ',' :: second)) ++ middle ++
          behind)) = .ok tag := by
  refine ⟨fun pairs => ⟨Options.nodup_keys_ofPairs pairs, Options.keys_ofPairs pairs,
    fun more => (Options.ofPairs_append pairs more).symm, fun key => ?_⟩, ?_⟩
  · refine ⟨Options.getAll_ofPairs pairs key, ?_, Options.has_iff.trans Options.mem_keys_ofPairs⟩
    rw [Options.get?, Options.getAll_ofPairs]
  · intro front key first middle second behind h tag
    obtain ⟨path, before, hfront⟩ := List.exists_cons_of_ne_nil h.path
    have hapart := h.words_apart
    have hjoint := h.words_joint
    rw [hfront, List.cons_append] at hapart hjoint
    have hjoin (options : Options) :
        GivesAll (before ++ (key ++ '=' :: first) ::
            (words middle ++ (key ++ '=' :: second) :: words behind)) options ↔
          GivesAll (before ++ (key ++ '=' :: (first ++ ',' :: second)) ::
            (words middle ++ words behind)) options :=
      givesAll_join h.uncut h.others
    exact ⟨parse_ok_of_words hapart hjoint fun options => (hjoin options).mp,
      parse_ok_of_words hjoint hapart fun options => (hjoin options).mpr⟩

/-- The tag of a line that gives its rules in two words. -/
def ruled : Tag :=
  ⟨["lint", "allow"], ⟨[("rule", ["a", "b", "c=d"]), ("scope", []), ("once", ["true"])]⟩⟩

theorem repeats_rule :
    Repeats " lint:allow ".toList "rule".toList "a".toList " scope= once\t".toList
      "b,,c=d".toList " ".toList where
  path := by decide +kernel
  front := by decide +kernel
  uncut := by decide +kernel
  first := by decide +kernel
  apart := by decide +kernel
  opens := by decide +kernel
  closes := by decide +kernel
  others := by decide +kernel
  second := by decide +kernel
  behind := by decide +kernel

/-- The first of the two words takes over the values of the second. -/
theorem rules_merge :
    parse " lint:allow rule=a scope= once\trule=b,,c=d " = .ok ruled ∧
      parse " lint:allow rule=a,b,,c=d scope= once\t " = .ok ruled := by
  have hparse : parse " lint:allow rule=a scope= once\trule=b,,c=d " = .ok ruled := by
    decide +kernel
  exact ⟨hparse, (repeated_keys_merge.2 _ _ _ _ _ _ repeats_rule _).mp hparse⟩

end ServiceGen.Tag
