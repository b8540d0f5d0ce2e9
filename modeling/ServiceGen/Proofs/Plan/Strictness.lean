import ServiceGen.Proofs.Plan.Resolution

/-!
What strictness changes. A strict package asks for the same constants in the same order, and reports
the rules that are broken in between. Broken rules have no part in the constants, so that all
clashes are the same, and a package that breaks no rule has the same plan either way.
-/
namespace ServiceGen

attribute [ext] Contribution

namespace Ledger

/-- The ledger of a lenient package, beside that of the same package in strict mode. -/
structure Milder (lenient strict : Ledger) : Prop where
  constants : lenient.constants = strict.constants
  problems : lenient.problems.Sublist strict.problems

variable {lenient strict : Ledger}

theorem Milder.enter_problem (h : lenient.Milder strict) (problem : Problem) :
    lenient.Milder (strict.enter (.problem problem)) where
  constants := h.constants
  problems := h.problems.trans (List.sublist_append_left _ _)

theorem Milder.enter_constant (h : lenient.Milder strict) (constant : Constant) :
    (lenient.enter (.constant constant)).Milder (strict.enter (.constant constant)) := by
  simp only [enter, h.constants]
  split
  · exact ⟨rfl, h.problems⟩
  · exact ⟨rfl, h.problems.append (.refl _)⟩

/-- Of the demands of a strict package, a lenient one has those for constants. -/
theorem Milder.foldl_enter (h : lenient.Milder strict) (demands : List Demand) :
    ((demands.filter (·.constant?.isSome)).foldl enter lenient).Milder
      (demands.foldl enter strict) := by
  induction demands generalizing lenient strict with
  | nil => exact h
  | cons demand rest ih =>
    cases demand with
    | problem problem => exact ih (h.enter_problem problem)
    | constant constant => exact ih (h.enter_constant constant)

/-- Demands that leave no problem are all for constants. -/
theorem isSome_of_problems_nil {ledger : Ledger} {demands : List Demand}
    (hproblems : (demands.foldl enter ledger).problems = []) :
    ∀ demand ∈ demands, demand.constant?.isSome := by
  induction demands generalizing ledger with
  | nil => simp
  | cons demand rest ih =>
    have hrest : (rest.foldl enter (ledger.enter demand)).problems = [] := hproblems
    obtain ⟨-, constant, rfl, -, -⟩ := enter_of_problems_nil (problems_of_foldl hrest)
    intro other hother
    rcases List.mem_cons.mp hother with rfl | hother
    · rfl
    · exact ih hrest other hother

end Ledger

namespace Plan

open Convention

variable (options : GenerationOptions) (package : Package) (service : Service)

/-- The problems with the service as a whole, in strict mode. -/
def serviceProblems (marker : String) (service : Service) : List Problem :=
  match service.kind with
  | .workflow => Workflow.entranceProblems marker service
  | _ => []

/-- What a service demands: its own constants and those of its operations, and in strict mode the
rules that its declarations break in front of either. -/
theorem demands_eq :
    (Contribution.of options package service).demands =
      (if options.strict then (problems service).map Demand.problem else []) ++
        (ownConstants options package service).map Demand.constant ++
        (if options.strict then (serviceProblems options.marker service).map Demand.problem
          else []) ++
        ((generated service).map (operationConstant package service)).map Demand.constant := by
  unfold Contribution.of ownConstants serviceProblems generated
  cases service.kind with
  | service =>
    change demands options package service ++ _ = _
    simp [demands]
  | activity =>
    change demands options package service ++ _ ++ _ = _
    simp [demands]
  | workflow =>
    change demands options package service ++ _ ++ _ ++ _ = _
    simp [demands, Workflow.operationConstants]

theorem filter_problem (problems : List Problem) :
    (problems.map Demand.problem).filter (·.constant?.isSome) = [] := by
  rw [List.filter_eq_nil_iff]
  intro demand hdemand
  obtain ⟨problem, -, rfl⟩ := List.mem_map.mp hdemand
  exact Bool.false_ne_true

theorem filter_constant (constants : List Constant) :
    (constants.map Demand.constant).filter (·.constant?.isSome) =
      constants.map Demand.constant := by
  rw [List.filter_eq_self]
  intro demand hdemand
  obtain ⟨constant, -, rfl⟩ := List.mem_map.mp hdemand
  rfl

/-- A lenient service demands the constants that a strict one demands, and reports no problem. -/
theorem demands_lenient :
    (Contribution.of { options with strict := false } package service).demands =
      (Contribution.of { options with strict := true } package service).demands.filter
        (·.constant?.isSome) := by
  rw [demands_eq, demands_eq]
  simp only [if_true, Bool.false_eq_true, if_false, List.filter_append, filter_problem,
    filter_constant, List.nil_append, List.append_nil]
  rfl

/-- Operations that are no problem are not left out. -/
theorem omissions_of_problems_nil (hproblems : problems service = []) :
    omissions options service = [] := by
  have hfits : service.operations.filter (!fits ·) = [] := by
    rw [List.filter_eq_nil_iff]
    intro operation hoperation hunfit
    have hnone := (List.append_eq_nil_iff.mp hproblems).2
    have hfits := (List.append_eq_nil_iff.mp
      (List.flatMap_eq_nil_iff.mp hnone operation hoperation)).2
    exact absurd hfits (by simpa using hunfit)
  rw [omissions, hfits]
  exact ite_self _

theorem problems_of_demands
    (hdemands :
      ∀ demand ∈ (Contribution.of { options with strict := true } package service).demands,
        demand.constant?.isSome) : problems service = [] := by
  rw [demands_eq, if_pos rfl] at hdemands
  rw [List.eq_nil_iff_forall_not_mem]
  intro problem hproblem
  have hmem := List.mem_map_of_mem (f := Demand.problem) hproblem
  have hsome := hdemands _ (List.mem_append_left _ (List.mem_append_left _
    (List.mem_append_left _ hmem)))
  exact Bool.false_ne_true hsome

/-- A service that breaks no rule contributes the same in either mode. -/
theorem contribution_lenient
    (hdemands :
      ∀ demand ∈ (Contribution.of { options with strict := true } package service).demands,
        demand.constant?.isSome) :
    Contribution.of { options with strict := false } package service =
      Contribution.of { options with strict := true } package service := by
  have hproblems := problems_of_demands options package service hdemands
  have hsame := demands_lenient options package service
  rw [List.filter_eq_self.mpr hdemands] at hsame
  apply Contribution.ext hsame
  · have hlenient := omissions_of_problems_nil { options with strict := false } service hproblems
    have hstrict := omissions_of_problems_nil { options with strict := true } service hproblems
    unfold Contribution.of
    cases service.kind with
    | service => exact hlenient.trans hstrict.symm
    | activity => exact hlenient.trans hstrict.symm
    | workflow => exact congrArg (· ++ _) (hlenient.trans hstrict.symm)
  all_goals
    unfold Contribution.of
    cases service.kind <;> rfl

end Plan

namespace PackagePlan

variable {options : GenerationOptions} {package : Package}

theorem milder_ledger (options : GenerationOptions) (package : Package) :
    (ledger { options with strict := false } package).Milder
      (ledger { options with strict := true } package) := by
  have hdemands : (contributions { options with strict := false } package).flatMap
        Contribution.demands =
      ((contributions { options with strict := true } package).flatMap
        Contribution.demands).filter (·.constant?.isSome) := by
    rw [contributions, contributions, List.flatMap_map, List.flatMap_map, List.filter_flatMap]
    apply List.flatMap_congr
    intro service _
    exact Plan.demands_lenient options package service
  rw [ledger, hdemands]
  exact Ledger.Milder.foldl_enter ⟨rfl, .refl _⟩ _

/-- A package that is accepted in strict mode gets the same contributions in either mode. -/
theorem contributions_lenient
    (hproblems : (ledger { options with strict := true } package).problems = []) :
    contributions { options with strict := false } package =
      contributions { options with strict := true } package := by
  have hsome := Ledger.isSome_of_problems_nil hproblems
  apply List.map_congr_left
  intro service hservice
  apply Plan.contribution_lenient
  intro demand hdemand
  exact hsome demand (List.mem_flatMap.mpr ⟨_, List.mem_map_of_mem hservice, hdemand⟩)

theorem build_error {problems : List Problem} (hbuild : build options package = .error problems) :
    problems ≠ [] ∧ (ledger options package).problems = problems := by
  unfold build at hbuild
  dsimp only at hbuild
  split at hbuild
  · exact absurd hbuild (by simp)
  · next hproblems =>
    injection hbuild with hbuild
    exact ⟨fun hnil => hproblems (by simp [hbuild, hnil]), hbuild⟩

theorem build_of_problems (hproblems : (ledger options package).problems ≠ []) :
    build options package = .error (ledger options package).problems := by
  unfold build
  exact if_neg (by simpa using hproblems)

/-- Strictness only refuses. What is accepted in strict mode has the same plan in lenient mode, and
what is refused in lenient mode is refused in strict mode for the same problems, in the same order
among others. -/
theorem strictness_only_refuses (options : GenerationOptions) (package : Package) :
    (∀ plan, build { options with strict := true } package = .ok plan →
      build { options with strict := false } package = .ok plan) ∧
    ∀ problems, build { options with strict := false } package = .error problems →
      ∃ more, build { options with strict := true } package = .error more ∧
        problems.Sublist more := by
  refine ⟨?_, ?_⟩
  · intro plan hbuild
    have hcontributions := contributions_lenient (of_build hbuild).1
    rw [← hbuild]
    unfold build ledger
    rw [hcontributions]
  · intro problems hbuild
    obtain ⟨hne, hproblems⟩ := build_error hbuild
    have hmilder := milder_ledger options package
    rw [← hproblems] at hne ⊢
    refine ⟨_, build_of_problems ?_, hmilder.problems⟩
    intro hnil
    exact hne (List.sublist_nil.mp (hnil ▸ hmilder.problems))

/-- Two activities whose constants clash, and an operation of one of them that takes too much. -/
def rivals : Package :=
  let activity (name : String) (operations : List Operation) : Service :=
    { name, operations, kind := .activity, docs := "", tags := [], declaredKinds := [.activity]
      location := ⟨"rivals.rs", 1, 1⟩ }
  let place : Operation :=
    { name := "place"
      kind := .method
      docs := ""
      params := [⟨none, "Context"⟩, ⟨none, "Item"⟩, ⟨none, "Count"⟩]
      results := []
      tags := []
      declaredKinds := []
      location := ⟨"rivals.rs", 2, 1⟩ }
  ⟨"rivals", "rivals.rs", [activity "Order" [place], activity "order" [place]]⟩

def rivalClashes : List Problem :=
  [.clash "ORDER_NAME" "rivals.Order" "rivals.order", .clash "ORDER_TASK_QUEUE" "rivals" "rivals"]

/-- The shop is accepted and the rivals are refused, in either mode. -/
theorem shop_and_rivals :
    (∃ plan, build { strict := true } shop = .ok plan ∧ build { strict := false } shop = .ok plan) ∧
      build { strict := false } rivals = .error rivalClashes ∧
      ∃ more, build { strict := true } rivals = .error more ∧ rivalClashes.Sublist more := by
  obtain ⟨plan, hshop⟩ : ∃ plan, build { strict := true } shop = .ok plan :=
    exists_build (by decide +kernel)
  have hrivals : build { strict := false } rivals = .error rivalClashes := by decide +kernel
  exact ⟨⟨plan, hshop, (strictness_only_refuses {} shop).1 plan hshop⟩, hrivals,
    (strictness_only_refuses {} rivals).2 _ hrivals⟩

end PackagePlan

end ServiceGen
