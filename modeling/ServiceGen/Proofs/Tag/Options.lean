import ServiceGen.Proofs.Analysis.Discovery
import ServiceGen.Tag.Options

/-!
Options as an ordered multimap. Whatever pairs they were made of, each key has one entry, the
entries stand in the order in which their keys came first, and an entry holds the values of all
pairs with its key, in order. So it cannot be seen how the values of a key were divided among pairs,
nor which pairs with other keys stood between them.
-/
namespace ServiceGen.Options

open Analysis (eraseDups_concat nodup_eraseDups)

def keys (options : Options) : List String := options.entries.map Prod.fst

/-- Adds pairs one after the other. -/
def extendAll (options : Options) (pairs : List (String × List String)) : Options :=
  pairs.foldl (fun options (key, values) => options.extend key values) options

/-- The values that pairs give to a key, in order. -/
def given (pairs : List (String × List String)) (key : String) : List String :=
  (pairs.filter (·.1 == key)).flatMap Prod.snd

variable {pairs : List (String × List String)}

theorem extendAll_append (options : Options) (pairs more : List (String × List String)) :
    options.extendAll (pairs ++ more) = (options.extendAll pairs).extendAll more :=
  List.foldl_append

theorem ofPairs_append (pairs more : List (String × List String)) :
    ofPairs (pairs ++ more) = (ofPairs pairs).extendAll more :=
  extendAll_append empty pairs more

theorem ofPairs_concat (pairs : List (String × List String)) (key : String)
    (values : List String) :
    ofPairs (pairs ++ [(key, values)]) = (ofPairs pairs).extend key values :=
  ofPairs_append pairs [(key, values)]

@[simp] theorem given_append (pairs more : List (String × List String)) (key : String) :
    given (pairs ++ more) key = given pairs key ++ given more key := by
  simp [given]

theorem given_cons (pair : String × List String) (pairs : List (String × List String))
    (key : String) :
    given (pair :: pairs) key = (if pair.1 = key then pair.2 else []) ++ given pairs key := by
  by_cases hkey : pair.1 = key <;> simp [given, hkey]

theorem given_eq_nil {key : String} (hnot : key ∉ pairs.map Prod.fst) : given pairs key = [] := by
  rw [given, List.filter_eq_nil_iff.mpr]
  · rfl
  · intro pair hpair hkey
    exact hnot (List.mem_map.mpr ⟨pair, hpair, beq_iff_eq.mp hkey⟩)

/-- Values for a key go to the entry of that key, which is made behind the others if it is not there
yet. All other entries stay as they are. -/
theorem addTo_map (key : String) (values : List String) {keys : List String} (hnodup : keys.Nodup)
    {known : String → List String} (hnew : key ∉ keys → known key = []) :
    addTo key values (keys.map fun k => (k, known k)) =
      (if key ∈ keys then keys else keys ++ [key]).map fun k =>
        (k, known k ++ if key = k then values else []) := by
  induction keys with
  | nil => simp [addTo, hnew]
  | cons k rest ih =>
    obtain ⟨hk, hrest⟩ := List.nodup_cons.mp hnodup
    by_cases hkey : key = k
    · subst hkey
      have hothers : ∀ other ∈ rest, key ≠ other := fun other hother heq => hk (heq ▸ hother)
      simp only [List.map_cons, addTo, beq_self_eq_true, if_true, List.mem_cons_self,
        List.cons.injEq, true_and]
      exact List.map_congr_left fun other hother => by simp [hothers other hother]
    · have hnew' : key ∉ rest → known key = [] :=
        fun hnot => hnew (List.not_mem_cons_of_ne_of_not_mem hkey hnot)
      have hne : (k == key) = false := beq_false_of_ne fun heq => hkey heq.symm
      simp only [List.map_cons, addTo, hne, Bool.false_eq_true, if_false, ih hrest hnew',
        List.mem_cons, hkey, false_or]
      split <;> simp [hkey]

/-- The entries of options are determined by the order in which keys come first and by the values
that are given to each. -/
theorem entries_ofPairs (pairs : List (String × List String)) :
    (ofPairs pairs).entries =
      (pairs.map Prod.fst).eraseDups.map fun key => (key, given pairs key) := by
  induction pairs using List.reverseRecOn with
  | nil => rfl
  | append_singleton pairs last ih =>
    obtain ⟨key, values⟩ := last
    have hextend : (ofPairs (pairs ++ [(key, values)])).entries =
        addTo key values (ofPairs pairs).entries := by
      rw [ofPairs_concat, extend]
    have hnew : key ∉ (pairs.map Prod.fst).eraseDups → given pairs key = [] :=
      fun hnot => given_eq_nil fun hmem => hnot (List.mem_eraseDups.mpr hmem)
    rw [hextend, ih, addTo_map key values (nodup_eraseDups _) hnew, List.map_append,
      List.map_singleton, eraseDups_concat]
    simp only [List.mem_eraseDups, given_append, given_cons]
    simp [given]

theorem keys_ofPairs (pairs : List (String × List String)) :
    (ofPairs pairs).keys = (pairs.map Prod.fst).eraseDups := by
  rw [keys, entries_ofPairs, List.map_map]
  exact List.map_id _

theorem nodup_keys_ofPairs (pairs : List (String × List String)) : (ofPairs pairs).keys.Nodup :=
  keys_ofPairs pairs ▸ nodup_eraseDups _

theorem mem_keys_ofPairs {key : String} :
    key ∈ (ofPairs pairs).keys ↔ ∃ pair ∈ pairs, pair.1 = key := by
  rw [keys_ofPairs, List.mem_eraseDups, List.mem_map]

/-- What options hold was given in some pair. -/
theorem exists_of_mem_entries {entry : String × List String}
    (hentry : entry ∈ (ofPairs pairs).entries) :
    (∃ pair ∈ pairs, pair.1 = entry.1) ∧ ∀ value ∈ entry.2, ∃ pair ∈ pairs, value ∈ pair.2 := by
  rw [entries_ofPairs] at hentry
  obtain ⟨key, hkey, rfl⟩ := List.mem_map.mp hentry
  refine ⟨List.mem_map.mp (List.mem_eraseDups.mp hkey), fun value hvalue => ?_⟩
  obtain ⟨pair, hpair, hmem⟩ := List.mem_flatMap.mp hvalue
  exact ⟨pair, List.mem_of_mem_filter hpair, hmem⟩

theorem find?_map_key (known : String → List String) (keys : List String) (key : String) :
    (keys.map fun k => (k, known k)).find? (·.1 == key) =
      if key ∈ keys then some (key, known key) else none := by
  induction keys with
  | nil => rfl
  | cons k rest ih =>
    by_cases hkey : k = key
    · simp [hkey]
    · have hkey' : ¬ key = k := fun heq => hkey heq.symm
      simp [beq_false_of_ne hkey, ih, hkey']

theorem getAll_ofPairs (pairs : List (String × List String)) (key : String) :
    (ofPairs pairs).getAll key = given pairs key := by
  rw [getAll, entries_ofPairs, find?_map_key]
  split
  · rfl
  · next hnot => exact (given_eq_nil fun hmem => hnot (List.mem_eraseDups.mpr hmem)).symm

theorem has_iff {options : Options} {key : String} :
    options.has key = true ↔ key ∈ options.keys := by
  simp [has, keys]

/-- Options are the same if their keys come first in the same order and the same values are given to
each key. -/
theorem ofPairs_congr {pairs' : List (String × List String)}
    (hkeys : (pairs.map Prod.fst).eraseDups = (pairs'.map Prod.fst).eraseDups)
    (hgiven : ∀ key, given pairs key = given pairs' key) : ofPairs pairs = ofPairs pairs' := by
  have hentries : (ofPairs pairs).entries = (ofPairs pairs').entries := by
    rw [entries_ofPairs, entries_ofPairs, hkeys, funext hgiven]
  cases hpairs : ofPairs pairs
  cases hpairs' : ofPairs pairs'
  rw [hpairs, hpairs'] at hentries
  exact congrArg Options.mk hentries

theorem eraseDups_append_cons_of_mem {front : List String} {key : String} (hmem : key ∈ front)
    (behind : List String) : (front ++ key :: behind).eraseDups = (front ++ behind).eraseDups := by
  rw [List.eraseDups_append, List.eraseDups_append, List.cons_removeAll]
  simp [hmem]

/-- A pair can be joined to an earlier one with its key if no other pair with that key stands
between them. -/
theorem ofPairs_join {key : String} (first second : List String)
    {before between behind : List (String × List String)}
    (hbetween : key ∉ between.map Prod.fst) :
    ofPairs (before ++ (key, first) :: (between ++ (key, second) :: behind)) =
      ofPairs (before ++ (key, first ++ second) :: (between ++ behind)) := by
  apply ofPairs_congr
  · have hmem : key ∈ (before ++ (key, first) :: between).map Prod.fst := by simp
    simpa using eraseDups_append_cons_of_mem hmem (behind.map Prod.fst)
  · intro other
    by_cases hother : key = other
    · subst hother
      simp [given_cons, given_eq_nil hbetween]
    · simp [given_cons, hother]

theorem addTo_of_notMem {key : String} (values : List String)
    {entries : List (String × List String)} (hnot : key ∉ entries.map Prod.fst) :
    addTo key values entries = entries ++ [(key, values)] := by
  induction entries with
  | nil => rfl
  | cons entry rest ih =>
    rw [List.map_cons, List.mem_cons, not_or] at hnot
    have hne : (entry.1 == key) = false := beq_false_of_ne fun heq => hnot.1 heq.symm
    rw [addTo, hne, if_neg (by simp), ih hnot.2, List.cons_append]

/-- Options whose keys are all different are made of their own entries. -/
theorem ofPairs_entries {options : Options} (hnodup : options.keys.Nodup) :
    ofPairs options.entries = options := by
  obtain ⟨entries⟩ := options
  change (entries.map Prod.fst).Nodup at hnodup
  change ofPairs entries = ⟨entries⟩
  induction entries using List.reverseRecOn with
  | nil => rfl
  | append_singleton entries last ih =>
    obtain ⟨key, values⟩ := last
    rw [List.map_append, List.map_singleton, List.nodup_append_comm] at hnodup
    obtain ⟨hnot, hrest⟩ := List.nodup_cons.mp hnodup
    rw [ofPairs_concat, ih hrest, extend, addTo_of_notMem values hnot]

end ServiceGen.Options
