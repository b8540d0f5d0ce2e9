import Mathlib.Data.List.Basic
import Mathlib.Data.List.Nodup
import ServiceGen.Analysis.Analyzer

/-!
Results as partial maps from kinds. A recorded result is found under its kind and under no other,
and a restriction depends on nothing but what is found under the kinds it keeps. Results recorded
under different kinds may therefore be recorded in any order.
-/
namespace ServiceGen.Analysis.Results

variable {κ : Type} {ρ : κ → Type} [DecidableEq κ]

theorem lookup_append (kind : κ) (first rest : List (Entry ρ)) :
    lookup kind (first ++ rest) = (lookup kind first).or (lookup kind rest) := by
  induction first with
  | nil => rfl
  | cons entry first ih =>
    rw [List.cons_append, lookup, lookup]
    by_cases hsame : entry.1 = kind
    · rw [dif_pos hsame, dif_pos hsame, Option.some_or]
    · rw [dif_neg hsame, dif_neg hsame, ih]

theorem lookup_eq_none (kind : κ) (entries : List (Entry ρ))
    (hkind : kind ∉ entries.map Sigma.fst) : lookup kind entries = none := by
  induction entries with
  | nil => rfl
  | cons entry rest ih =>
    rw [List.map_cons, List.mem_cons, not_or] at hkind
    rw [lookup, dif_neg (Ne.symm hkind.1), ih hkind.2]

theorem lookup_filter_ne {kind other : κ} (hne : kind ≠ other) (entries : List (Entry ρ)) :
    lookup kind (entries.filter fun entry => entry.1 ≠ other) = lookup kind entries := by
  induction entries with
  | nil => rfl
  | cons entry rest ih =>
    by_cases hother : entry.1 = other
    · have hkind : entry.1 ≠ kind := by
        rw [hother]
        exact hne.symm
      rw [List.filter_cons_of_neg (by simpa using hother), ih, lookup, dif_neg hkind]
    · rw [List.filter_cons_of_pos (by simpa using hother), lookup, lookup, ih]

/-- Entries of different kinds are found, each under its own kind. -/
theorem lookup_eq_some_iff {kind : κ} {result : ρ kind} (entries : List (Entry ρ))
    (hdistinct : (entries.map Sigma.fst).Nodup) :
    lookup kind entries = some result ↔ ⟨kind, result⟩ ∈ entries := by
  induction entries with
  | nil => simp [lookup]
  | cons entry rest ih =>
    obtain ⟨other, found⟩ := entry
    rw [List.map_cons, List.nodup_cons] at hdistinct
    rw [lookup, List.mem_cons]
    by_cases hsame : other = kind
    · subst hsame
      have habsent : (⟨other, result⟩ : Entry ρ) ∉ rest := by
        intro hmem
        exact hdistinct.1 (List.mem_map.mpr ⟨_, hmem, rfl⟩)
      simp only [dite_true, Option.some.injEq, Sigma.mk.injEq, heq_eq_eq, true_and, habsent,
        or_false]
      exact eq_comm
    · have hne : (⟨kind, result⟩ : Entry ρ) ≠ ⟨other, found⟩ := fun h =>
        hsame (congrArg Sigma.fst h).symm
      rw [dif_neg hsame, ih hdistinct.2]
      simp [hne]

theorem mem_entries_iff {kind : κ} {result : ρ kind} (results : Results ρ) :
    ⟨kind, result⟩ ∈ results.entries ↔ results.get? kind = some result :=
  (lookup_eq_some_iff results.entries results.distinct).symm

@[simp] theorem get?_empty (kind : κ) : (empty : Results ρ).get? kind = none := rfl

@[simp] theorem get?_insert_self (results : Results ρ) (kind : κ) (result : ρ kind) :
    (results.insert kind result).get? kind = some result := by
  have hothers : lookup kind (results.others kind) = none :=
    lookup_eq_none kind _ (by simp [others])
  simp [get?, insert, lookup_append, hothers, lookup]

theorem get?_insert_of_ne (results : Results ρ) {kind other : κ} (result : ρ other)
    (hne : kind ≠ other) : (results.insert other result).get? kind = results.get? kind := by
  have hlast : lookup kind [(⟨other, result⟩ : Entry ρ)] = none :=
    lookup_eq_none kind _ (by simpa using hne)
  simp only [get?, insert, lookup_append, hlast, Option.or_none]
  exact lookup_filter_ne hne results.entries

theorem get?_collect (results collected : Results ρ) (first kind : κ) :
    (results.collect collected first).get? kind =
      if kind = first then (results.get? kind).or (collected.get? kind)
      else collected.get? kind := by
  unfold collect
  by_cases hkind : kind = first
  · subst hkind
    cases results.get? kind <;> simp
  · cases results.get? first <;> simp [hkind, get?_insert_of_ne]

private theorem get?_foldl_collect (results collected : Results ρ) (kinds : List κ) (kind : κ) :
    (kinds.foldl results.collect collected).get? kind =
      if kind ∈ kinds then (results.get? kind).or (collected.get? kind)
      else collected.get? kind := by
  induction kinds generalizing collected with
  | nil => simp
  | cons first rest ih =>
    rw [List.foldl_cons, ih, get?_collect]
    by_cases hfirst : kind = first
    · subst hfirst
      cases results.get? kind <;> simp
    · simp [hfirst]

/-- A result of a kind that had none adds to the number of kinds that have one. -/
theorem size_insert {results : Results ρ} {kind : κ} (hnone : results.get? kind = none)
    (result : ρ kind) : (results.insert kind result).size = results.size + 1 := by
  have hothers : results.others kind = results.entries := by
    apply List.filter_eq_self.mpr
    rintro ⟨other, found⟩ hentry
    have hfound := (mem_entries_iff results).mp hentry
    have hne : other ≠ kind := by
      rintro rfl
      rw [hnone] at hfound
      exact absurd hfound (by simp)
    simpa using hne
  change (results.others kind ++ [(⟨kind, result⟩ : Entry ρ)]).length = _
  rw [hothers, List.length_append, List.length_singleton, size]

/-- A restriction keeps what is found under the given kinds, and nothing else. -/
theorem get?_restrict (results : Results ρ) (kinds : List κ) (kind : κ) :
    (results.restrict kinds).get? kind = if kind ∈ kinds then results.get? kind else none := by
  rw [restrict, get?_foldl_collect]
  simp

theorem restrict_congr {first second : Results ρ} {kinds : List κ}
    (hsame : ∀ kind ∈ kinds, first.get? kind = second.get? kind) :
    first.restrict kinds = second.restrict kinds := by
  apply List.foldl_ext
  intro collected kind hkind
  rw [collect, collect, hsame kind hkind]

/-- The same is found under every kind. -/
def Same (first second : Results ρ) : Prop := ∀ kind, first.get? kind = second.get? kind

namespace Same

variable {first second third : Results ρ}

theorem refl (results : Results ρ) : results.Same results := fun _ => rfl

theorem symm (h : first.Same second) : second.Same first := fun kind => (h kind).symm

theorem trans (h : first.Same second) (h' : second.Same third) : first.Same third :=
  fun kind => (h kind).trans (h' kind)

theorem insert (h : first.Same second) (kind : κ) (result : ρ kind) :
    (first.insert kind result).Same (second.insert kind result) := by
  intro other
  by_cases hother : other = kind
  · subst hother
    simp
  · rw [get?_insert_of_ne _ _ hother, get?_insert_of_ne _ _ hother, h other]

/-- Where the same is found, the same number of kinds has a result. -/
theorem size_eq (h : first.Same second) : first.size = second.size := by
  have hperm : first.entries.Perm second.entries := by
    apply (List.perm_ext_iff_of_nodup (first.distinct.of_map _) (second.distinct.of_map _)).mpr
    rintro ⟨kind, result⟩
    rw [mem_entries_iff, mem_entries_iff, h kind]
  exact hperm.length_eq

end Same

/-- Results of different kinds can be recorded in either order. -/
theorem same_insert_comm (results : Results ρ) {kind other : κ} (hne : kind ≠ other)
    (result : ρ kind) (found : ρ other) :
    ((results.insert kind result).insert other found).Same
      ((results.insert other found).insert kind result) := by
  intro third
  by_cases hthird : third = other
  · subst hthird
    rw [get?_insert_self, get?_insert_of_ne _ _ hne.symm, get?_insert_self]
  · rw [get?_insert_of_ne _ _ hthird]
    by_cases hkind : third = kind
    · subst hkind
      rw [get?_insert_self, get?_insert_self]
    · rw [get?_insert_of_ne _ _ hkind, get?_insert_of_ne _ _ hkind, get?_insert_of_ne _ _ hthird]

end ServiceGen.Analysis.Results
