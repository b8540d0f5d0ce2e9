import ServiceGen.Proofs.Naming.LetterCase

/-!
Names with an ending. Generated types have the name of a service with an ending such as `Proxy`, and
the functions that make them the snake case of that. The ending is a word of its own, unless the
name ends in a word without letters of either case, which the ending then continues. Either way the
shouty case of a name with an ending tells that of the name, as no word ends in an underscore.
-/
namespace ServiceGen

namespace Text

/-- Pieces keep what stands behind the last cut in one. -/
theorem pieces_append {α : Type} {cut : α → Bool} {ending : List α}
    (hending : ∀ c ∈ ending, cut c = false) (cs : List α) :
    ∃ init last, pieces cut cs = init ++ [last] ∧
      pieces cut (cs ++ ending) = init ++ [last ++ ending] := by
  induction cs with
  | nil =>
    refine ⟨[], [], rfl, ?_⟩
    induction ending with
    | nil => rfl
    | cons c rest ih =>
      have hc : cut c = false := hending c List.mem_cons_self
      have hrest := ih fun next hnext => hending next (List.mem_cons_of_mem _ hnext)
      simp only [List.nil_append] at hrest ⊢
      rw [pieces, hc, hrest]
      rfl
  | cons c rest ih =>
    obtain ⟨init, last, hpieces, hmore⟩ := ih
    by_cases hcut : cut c = true
    · refine ⟨[] :: init, last, ?_, ?_⟩
      · rw [pieces, if_pos hcut, hpieces, List.cons_append]
      · rw [List.cons_append, pieces, if_pos hcut, hmore, List.cons_append]
    · cases init with
      | nil =>
        refine ⟨[], c :: last, ?_, ?_⟩
        · rw [pieces, if_neg hcut, hpieces]
          rfl
        · rw [List.cons_append, pieces, if_neg hcut, hmore]
          rfl
      | cons first others =>
        refine ⟨(c :: first) :: others, last, ?_, ?_⟩
        · rw [pieces, if_neg hcut, hpieces]
          rfl
        · rw [List.cons_append, pieces, if_neg hcut, hmore]
          rfl

end Text

namespace Text.LetterCase

theorem mapped_ne_nil {expansions : List (Nat × List Nat)}
    (hrows : ∀ row ∈ expansions, row.2 ≠ []) (shifts : List (Nat × Nat × Nat × Nat)) (c : Char) :
    mapped expansions shifts c ≠ [] := by
  rw [mapped]
  split
  · next points hlookup =>
    obtain ⟨before, behind, htable, -⟩ := List.lookup_eq_some_iff.mp hlookup
    have hrow : (c.toNat, points) ∈ expansions :=
      htable ▸ List.mem_append_right _ List.mem_cons_self
    intro hnil
    exact hrows _ hrow (List.map_eq_nil_iff.mp hnil)
  · exact List.cons_ne_nil _ _

theorem upper_ne_nil (c : Char) : upper c ≠ [] := by
  rw [upper]
  split
  · exact List.cons_ne_nil _ _
  · exact mapped_ne_nil (by decide +kernel) upperShifts c

theorem lower_ne_nil (c : Char) : lower c ≠ [] := by
  rw [lower]
  split
  · exact List.cons_ne_nil _ _
  · exact mapped_ne_nil (by decide +kernel) lowerShifts c

theorem toNat_of_ofNat_eq_underscore {point : Nat} (hpoint : Char.ofNat point = '_') :
    point = 0x5f := by
  by_cases hvalid : point.isValidChar
  · have hchar : Char.ofNat point = Char.ofNatAux point hvalid := dif_pos hvalid
    exact congrArg Char.toNat (hchar.symm.trans hpoint)
  · have hchar : Char.ofNat point = '\x00' := dif_neg hvalid
    exact absurd (hchar.symm.trans hpoint) (by decide)

/-- An underscore is no letter's capital form. -/
theorem underscore_notMem_upper {c : Char} (halphanumeric : isAlphanumeric c = true) :
    '_' ∉ upper c := by
  have hrows : ∀ row ∈ upperExpansions, 0x5f ∉ row.2 := by decide +kernel
  have hshifts : ∀ row ∈ upperShifts, 0x5f < row.2.2.2 ∨ row.2.2.2 + (row.2.1 - row.1) < 0x5f := by
    decide +kernel
  rw [upper, mapped]
  split
  · next hascii =>
    have hall : ∀ point : Fin 0x80, isAlphanumeric (Char.ofNat point) = true →
        '_' ∉ [(Char.ofNat point).toUpper] := by decide +kernel
    have hc := hall ⟨c.toNat, hascii⟩
    rw [Char.ofNat_toNat] at hc
    exact hc halphanumeric
  · next hwide =>
    split
    · next points hlookup =>
      obtain ⟨before, behind, htable, -⟩ := List.lookup_eq_some_iff.mp hlookup
      have hrow : (c.toNat, points) ∈ upperExpansions :=
        htable ▸ List.mem_append_right _ List.mem_cons_self
      intro hmem
      obtain ⟨point, hpoint, heq⟩ := List.mem_map.mp hmem
      exact hrows _ hrow (toNat_of_ofNat_eq_underscore heq ▸ hpoint)
    · intro hmem
      cases hshift : shift? upperShifts c.toNat with
      | none =>
        rw [hshift] at hmem
        have hc : '_' = c := List.mem_singleton.mp hmem
        exact hwide (hc ▸ by decide)
      | some image =>
        rw [hshift] at hmem
        have himage := toNat_of_ofNat_eq_underscore (List.mem_singleton.mp hmem).symm
        obtain ⟨⟨first, last, step, start⟩, hrow, hfound⟩ := List.exists_of_findSome?_eq_some hshift
        have hbounds := hshifts _ hrow
        dsimp only at hfound hbounds
        split at hfound
        · next hholds =>
          simp only [Bool.and_eq_true, decide_eq_true_eq] at hholds
          have hpoint := Option.some.inj hfound
          omega
        · exact absurd hfound (by simp)

end Text.LetterCase

namespace Naming

open Text LetterCase

def isSmall (c : Char) : Bool := isLowercase c && !isUppercase c

/-- Whether characters are one word that begins with its only capital letter. -/
structure Capitalised (first : Char) (rest : List Char) : Prop where
  capital : isUppercase first = true
  notSmall : isLowercase first = false
  nonempty : rest ≠ []
  small : ∀ c ∈ rest, isSmall c = true
  alphanumeric : ∀ c ∈ first :: rest, isAlphanumeric c = true

/-- The words of a name before and after it gets an ending. -/
inductive Extends (ending : List Char) : List (List Char) → List (List Char) → Prop where
  | alone (words : List (List Char)) : Extends ending words (words ++ [ending])
  | continued (init : List (List Char)) (last : List Char) :
    Extends ending (init ++ [last]) (init ++ [last ++ ending])

theorem Extends.append_left {ending : List Char} {words longer : List (List Char)}
    (before : List (List Char)) (hextends : Extends ending words longer) :
    Extends ending (before ++ words) (before ++ longer) := by
  cases hextends with
  | alone words =>
    rw [← List.append_assoc]
    exact .alone _
  | continued init last =>
    rw [← List.append_assoc, ← List.append_assoc]
    exact .continued _ _

theorem Extends.cons {ending : List Char} {words longer : List (List Char)} (word : List Char)
    (hextends : Extends ending words longer) : Extends ending (word :: words) (word :: longer) :=
  hextends.append_left [word]

section Capitalised

variable {first : Char} {rest : List Char}

theorem not_capital {c : Char} (hsmall : isSmall c = true) : isUppercase c = false := by
  simpa using (Bool.and_eq_true_iff.mp hsmall).2

/-- What has no capital letters stays with what stands in front of it. -/
theorem humps_small (run : Run) (word : List Char) {cs : List Char} (hcs : cs ≠ [])
    (hsmall : ∀ c ∈ cs, isUppercase c = false) :
    humps run word cs = [word.reverse ++ cs] := by
  fun_induction humps run word cs with
  | case1 => exact absurd rfl hcs
  | case2 run word c => rw [List.reverse_cons]
  | case3 run word c next rest hends ih =>
    have hnext := hsmall next (List.mem_cons_of_mem _ List.mem_cons_self)
    simp [hnext] at hends
  | case4 run word c next rest hgoes hends ih =>
    have hc := hsmall c List.mem_cons_self
    simp [hc] at hends
  | case5 run word c next rest hgoes hstays ih =>
    rw [ih (List.cons_ne_nil _ _) fun c hc => hsmall c (List.mem_cons_of_mem _ hc),
      List.reverse_cons, List.append_assoc, List.singleton_append]

/-- A capitalised ending is a word of its own behind a capital letter, and continues what has no
letters of either case. Behind a small letter the word has ended already. -/
theorem humps_capitalised (hcapitalised : Capitalised first rest) {run : Run} (word : List Char)
    (hrun : run ≠ .lower) :
    humps run word (first :: rest) =
      if run = .upper then [word.reverse, first :: rest] else [word.reverse ++ first :: rest] := by
  obtain ⟨hcapital, hnotSmall, hnonempty, hsmall, -⟩ := hcapitalised
  have huncapital : ∀ c ∈ rest, isUppercase c = false := fun c hc => not_capital (hsmall c hc)
  cases rest with
  | nil => exact absurd rfl hnonempty
  | cons next others =>
    have hafter : run.after first = .upper := by simp [Run.after, hcapital, hnotSmall]
    have hnext := (Bool.and_eq_true_iff.mp (hsmall next List.mem_cons_self)).1
    cases run with
    | lower => exact absurd rfl hrun
    | none =>
      have htail := humps_small .upper (first :: word) hnonempty huncapital
      simp [humps, hafter, htail]
    | upper =>
      have htail := humps_small .none [first] hnonempty huncapital
      simp [humps, hafter, hcapital, hnext, htail]

theorem humps_append (hcapitalised : Capitalised first rest) {run : Run} {word cs : List Char}
    (hcs : cs ≠ []) :
    Extends (first :: rest) (humps run word cs) (humps run word (cs ++ first :: rest)) := by
  -- Only at the last character does the ending decide about a word, since the characters in front
  -- of it have the same one behind them as before.
  fun_induction humps run word cs with
  | case1 => exact absurd rfl hcs
  | case2 run word last =>
    rw [List.singleton_append, humps]
    by_cases hlower : run.after last = .lower
    · have halone := humps_capitalised hcapitalised [] (show Run.none ≠ .lower by simp)
      rw [if_pos (by simp [hlower, hcapitalised.capital]), halone]
      exact .alone [(last :: word).reverse]
    · rw [if_neg (by simp [hlower]), if_neg (by simp [hcapitalised.notSmall]),
        humps_capitalised hcapitalised _ hlower]
      split
      · exact .alone [(last :: word).reverse]
      · exact .continued [] (last :: word).reverse
  | case3 run word c next others hends ih =>
    rw [List.cons_append, List.cons_append, humps, if_pos hends]
    exact (ih (List.cons_ne_nil _ _)).cons _
  | case4 run word c next others hgoes hends ih =>
    rw [List.cons_append, List.cons_append, humps, if_neg hgoes, if_pos hends]
    exact (ih (List.cons_ne_nil _ _)).cons _
  | case5 run word c next others hgoes hstays ih =>
    rw [List.cons_append, List.cons_append, humps, if_neg hgoes, if_neg hstays]
    exact ih (List.cons_ne_nil _ _)

theorem words_append (hcapitalised : Capitalised first rest) (name : String) :
    Extends (first :: rest) (words name) (words (name ++ String.ofList (first :: rest))) := by
  have hkept : ∀ c ∈ first :: rest, (!isAlphanumeric c) = false := by
    intro c hc
    rw [hcapitalised.alphanumeric c hc]
    rfl
  obtain ⟨init, last, hpieces, hmore⟩ := pieces_append hkept name.toList
  rw [words, words, String.toList_append, String.toList_ofList, hpieces, hmore, List.flatMap_append,
    List.flatMap_append, List.flatMap_singleton, List.flatMap_singleton]
  apply Extends.append_left
  by_cases hlast : last = []
  · rw [hlast, List.nil_append, humps_capitalised hcapitalised [] (by simp)]
    exact .alone []
  · exact humps_append hcapitalised hlast

end Capitalised

theorem intercalate_concat {α : Type} (separator : List α) {pieces : List (List α)}
    (hpieces : pieces ≠ []) (last : List α) :
    List.intercalate separator (pieces ++ [last]) =
      List.intercalate separator pieces ++ separator ++ last := by
  induction pieces with
  | nil => exact absurd rfl hpieces
  | cons piece rest ih =>
    cases rest with
    | nil => simp
    | cons next others =>
      have hrest := ih (List.cons_ne_nil _ _)
      rw [List.cons_append] at hrest
      rw [List.cons_append, List.cons_append, List.intercalate_cons_cons, hrest,
        List.intercalate_cons_cons]
      simp only [List.append_assoc]

/-- What stands in front of the last piece stays as it is when the piece changes. -/
theorem exists_intercalate_concat {α : Type} (separator : List α) (pieces : List (List α)) :
    ∃ front, ∀ last, List.intercalate separator (pieces ++ [last]) = front ++ last := by
  by_cases hpieces : pieces = []
  · exact ⟨[], fun last => by rw [hpieces]; simp⟩
  · exact ⟨_, intercalate_concat separator hpieces⟩

theorem uppercase_append (word more : List Char) :
    uppercase (word ++ more) = uppercase word ++ uppercase more := List.flatMap_append

/-- The sigma at the end of a word is no longer there when the word goes on. -/
theorem lowercase_append (word : List Char) {more : List Char} (hmore : more ≠ []) :
    lowercase (word ++ more) = word.flatMap lower ++ lowercase more := by
  induction word with
  | nil => rfl
  | cons c rest ih =>
    rw [List.cons_append, lowercase, ih, List.flatMap_cons, List.append_assoc]
    intro hnil
    exact hmore (List.append_eq_nil_iff.mp hnil).2

theorem toList_joined (case : List Char → List Char) (name : String) :
    (joined case name).toList = List.intercalate ['_'] ((words name).map case) :=
  String.toList_ofList

section Capitalised

variable {first : Char} {rest : List Char}

theorem shouty_append (hcapitalised : Capitalised first rest) (name : String) :
    (shouty (name ++ String.ofList (first :: rest))).toList =
        (shouty name).toList ++ uppercase (first :: rest) ∨
      (shouty (name ++ String.ofList (first :: rest))).toList =
        (shouty name).toList ++ ['_'] ++ uppercase (first :: rest) := by
  have hextends := words_append hcapitalised name
  rw [shouty, shouty, toList_joined, toList_joined]
  generalize words name = before, words (name ++ _) = after at hextends ⊢
  cases hextends with
  | alone =>
    by_cases hbefore : before = []
    · rw [hbefore]
      exact .inl (by simp)
    · have hnonempty : before.map uppercase ≠ [] :=
        fun hnil => hbefore (List.map_eq_nil_iff.mp hnil)
      rw [List.map_append, List.map_singleton, intercalate_concat _ hnonempty]
      exact .inr rfl
  | continued init last =>
    obtain ⟨front, hfront⟩ := exists_intercalate_concat ['_'] (init.map uppercase)
    rw [List.map_append, List.map_append, List.map_singleton, List.map_singleton, hfront, hfront,
      uppercase_append, List.append_assoc]
    exact .inl rfl

/-- The snake case of a name with an ending ends in that of the ending. -/
theorem suffix_snake_append (hcapitalised : Capitalised first rest) (name : String) :
    lowercase (first :: rest) <:+ (snake (name ++ String.ofList (first :: rest))).toList := by
  have hextends := words_append hcapitalised name
  rw [snake, toList_joined]
  generalize words name = before, words (name ++ _) = after at hextends ⊢
  cases hextends with
  | alone =>
    obtain ⟨front, hfront⟩ := exists_intercalate_concat ['_'] (before.map lowercase)
    rw [List.map_append, List.map_singleton, hfront]
    exact List.suffix_append _ _
  | continued init last =>
    obtain ⟨front, hfront⟩ := exists_intercalate_concat ['_'] (init.map lowercase)
    rw [List.map_append, List.map_singleton, hfront, lowercase_append _ (List.cons_ne_nil _ _),
      ← List.append_assoc]
    exact List.suffix_append _ _

end Capitalised

/-- No word is empty. -/
theorem ne_nil_of_mem_humps {run : Run} {word cs hump : List Char}
    (hword : run = .upper → word ≠ []) (hhump : hump ∈ humps run word cs) : hump ≠ [] := by
  fun_induction humps run word cs with
  | case1 => exact absurd hhump List.not_mem_nil
  | case2 run word c =>
    rw [List.mem_singleton.mp hhump]
    simp
  | case3 run word c next rest hends ih =>
    obtain rfl | hlater := List.mem_cons.mp hhump
    · simp
    · exact ih (by simp) hlater
  | case4 run word c next rest hgoes hends ih =>
    obtain rfl | hlater := List.mem_cons.mp hhump
    · simp only [Bool.and_eq_true, decide_eq_true_eq] at hends
      simpa using hword hends.1.1
    · exact ih (by simp) hlater
  | case5 run word c next rest hgoes hstays ih => exact ih (by simp) hhump

theorem shouty_ne_append_underscore (name : String) (front : List Char) :
    (shouty name).toList ≠ front ++ ['_'] := by
  intro hends
  rw [shouty, toList_joined] at hends
  obtain hwords | ⟨init, last, hwords⟩ := List.eq_nil_or_concat (words name)
  · rw [hwords] at hends
    exact absurd hends (by simp)
  · rw [List.concat_eq_append] at hwords
    have hlast : last ∈ words name := hwords ▸ List.mem_append_right _ List.mem_cons_self
    obtain ⟨piece, -, hhump⟩ := List.mem_flatMap.mp hlast
    have hnonempty : uppercase last ≠ [] := by
      intro hnil
      obtain ⟨c, hc⟩ := List.exists_mem_of_ne_nil _ (ne_nil_of_mem_humps (by simp) hhump)
      exact upper_ne_nil c (List.flatMap_eq_nil_iff.mp hnil c hc)
    obtain ⟨begun, hbegun⟩ := exists_intercalate_concat ['_'] (init.map uppercase)
    rw [hwords, List.map_append, List.map_singleton, hbegun] at hends
    have hmem : '_' ∈ uppercase last := by
      have hsuffix : ['_'] <:+ uppercase last :=
        List.suffix_of_suffix_length_le ⟨front, hends.symm⟩ (List.suffix_append _ _)
          (List.length_pos_of_ne_nil hnonempty)
      exact hsuffix.subset List.mem_cons_self
    obtain ⟨c, hc, hupper⟩ := List.mem_flatMap.mp hmem
    exact underscore_notMem_upper (mem_of_mem_words hlast hc).2 hupper

/-- The shouty case of a name with an ending tells that of the name. -/
theorem shouty_append_cancel {first : Char} {rest : List Char}
    (hcapitalised : Capitalised first rest) {name other : String}
    (hshouty : shouty (name ++ String.ofList (first :: rest)) =
      shouty (other ++ String.ofList (first :: rest))) : shouty name = shouty other := by
  apply String.toList_inj.mp
  have hends := congrArg String.toList hshouty
  -- If the ending is a word of its own in only one of them, the other one ends in an underscore.
  obtain hname | hname := shouty_append hcapitalised name <;>
    obtain hother | hother := shouty_append hcapitalised other <;>
    rw [hname, hother] at hends
  · exact List.append_cancel_right hends
  · exact absurd (List.append_cancel_right hends) (shouty_ne_append_underscore _ _)
  · exact absurd (List.append_cancel_right hends).symm (shouty_ne_append_underscore _ _)
  · exact List.append_cancel_right (List.append_cancel_right hends)

end Naming

end ServiceGen

/-!
The snake case of a name that is in snake case already. It is the name itself, unless the small form
of a letter is not a small letter: there are capital letters without a small form, such as the
double-struck ones, and the small form of the dotted capital I has a dot that is no letter. Behind
or between those, a word ends where it did not end before.
-/
namespace ServiceGen

namespace Text.LetterCase

/-- Whether a character stands for itself in the snake case of a name, and no word ends at it. -/
structure Rests (c : Char) : Prop where
  alphanumeric : isAlphanumeric c = true
  small : isUppercase c = false
  fixed : lower c = [c]

instance (c : Char) : Decidable (Rests c) :=
  decidable_of_iff (isAlphanumeric c = true ∧ isUppercase c = false ∧ lower c = [c])
    ⟨fun ⟨halphanumeric, hsmall, hfixed⟩ => ⟨halphanumeric, hsmall, hfixed⟩,
      fun ⟨halphanumeric, hsmall, hfixed⟩ => ⟨halphanumeric, hsmall, hfixed⟩⟩

/-- Whether a letter or number rests in its small form. -/
def Settled (c : Char) : Prop := isAlphanumeric c = true → ∀ d ∈ lower c, Rests d

instance (c : Char) : Decidable (Settled c) :=
  decidable_of_iff (isAlphanumeric c = true → (lower c).all (decide <| Rests ·) = true)
    (imp_congr_right fun _ => by simp only [List.all_eq_true, decide_eq_true_eq])

theorem settled_of_lt {c : Char} (hascii : c.toNat < 0x80) : Settled c := by
  have hall : ∀ point : Fin 0x80, Settled (Char.ofNat point) := by decide +kernel
  have hc := hall ⟨c.toNat, hascii⟩
  rwa [Char.ofNat_toNat] at hc

end Text.LetterCase

namespace Naming

open Text LetterCase

/-- The small form of a word of settled characters rests. -/
theorem rests_of_mem_lowercase {word : List Char}
    (halphanumeric : ∀ c ∈ word, isAlphanumeric c = true) (hsettled : ∀ c ∈ word, Settled c) :
    ∀ c ∈ lowercase word, Rests c := by
  fun_induction lowercase word with
  | case1 => exact fun _ hc => absurd hc List.not_mem_nil
  | case2 c hlast => exact List.forall_mem_singleton.mpr (by decide +kernel)
  | case3 c hother =>
    exact hsettled c List.mem_cons_self (halphanumeric c List.mem_cons_self)
  | case4 c rest hrest ih =>
    obtain ⟨hc, halphanumeric⟩ := List.forall_mem_cons.mp halphanumeric
    obtain ⟨hsettledHead, hsettled⟩ := List.forall_mem_cons.mp hsettled
    exact List.forall_mem_append.mpr ⟨hsettledHead hc, ih halphanumeric hsettled⟩

theorem lowercase_of_rests {word : List Char} (hrests : ∀ c ∈ word, Rests c) :
    lowercase word = word := by
  fun_induction lowercase word with
  | case1 => rfl
  | case2 c hlast =>
    -- A sigma in its capital form does not rest.
    have hsigma : ¬ Rests 'Σ' := by decide +kernel
    exact absurd (eq_of_beq hlast ▸ hrests c List.mem_cons_self) hsigma
  | case3 c hother => exact (hrests c List.mem_cons_self).fixed
  | case4 c rest hrest ih =>
    obtain ⟨hc, hrests⟩ := List.forall_mem_cons.mp hrests
    rw [hc.fixed, ih hrests, List.singleton_append]

theorem lowercase_ne_nil {word : List Char} (hword : word ≠ []) : lowercase word ≠ [] := by
  fun_induction lowercase word with
  | case1 => exact absurd rfl hword
  | case2 c hlast => exact List.cons_ne_nil _ _
  | case3 c hother => exact lower_ne_nil c
  | case4 c rest hrest ih =>
    exact fun hnil => lower_ne_nil c (List.append_eq_nil_iff.mp hnil).1

/-- Words at rest with underscores between them are the words of what they make up. -/
theorem words_intercalate {small : List (List Char)} (hrests : ∀ word ∈ small, ∀ c ∈ word, Rests c)
    (hfull : [] ∉ small) :
    words (String.ofList (List.intercalate ['_'] small)) = small := by
  have hword : ∀ word ∈ small, humps .none [] word = [word] := fun word hword =>
    humps_small .none [] (fun hnil => hfull (hnil ▸ hword))
      fun c hc => (hrests word hword c hc).small
  rw [words, String.toList_ofList]
  by_cases hnone : small = []
  · subst hnone
    rfl
  · rw [pieces_intercalate (by decide) hnone]
    · rw [List.flatMap_congr hword, List.flatMap_singleton']
    · intro word hword c hc
      simp [(hrests word hword c hc).alphanumeric]

/-- Whether all characters of a name are settled, as those of ASCII names are. -/
def IsSettled (name : String) : Prop := ∀ c ∈ name.toList, Settled c

theorem isSettled_of_ascii {name : String} (hascii : IsAscii name) : IsSettled name :=
  fun c hc => settled_of_lt (of_decide_eq_true (List.all_eq_true.mp hascii c hc))

/-- The snake case of a name of settled characters is its own snake case. -/
theorem snake_snake {name : String} (hsettled : IsSettled name) :
    snake (snake name) = snake name := by
  have hrests : ∀ word ∈ (words name).map lowercase, ∀ c ∈ word, Rests c := by
    refine List.forall_mem_map.mpr fun word hword => rests_of_mem_lowercase ?_ ?_
    · exact fun c hc => (mem_of_mem_words hword hc).2
    · exact fun c hc => hsettled c (mem_of_mem_words hword hc).1
  have hfull : [] ∉ (words name).map lowercase := by
    intro hmem
    obtain ⟨word, hword, hnil⟩ := List.mem_map.mp hmem
    obtain ⟨piece, -, hhump⟩ := List.mem_flatMap.mp hword
    exact lowercase_ne_nil (ne_nil_of_mem_humps (by simp) hhump) hnil
  have hwords : words (snake name) = (words name).map lowercase := words_intercalate hrests hfull
  have hlower : ((words name).map lowercase).map lowercase = (words name).map lowercase := by
    conv_rhs => rw [← List.map_id ((words name).map lowercase)]
    exact List.map_congr_left fun word hword => lowercase_of_rests (hrests word hword)
  rw [snake, joined, hwords, hlower]
  rfl

end Naming

end ServiceGen
