import Mathlib.Data.List.Basic
import Mathlib.Data.List.Nodup
import ServiceGen.Plan.Package

/-!
The constants of a package. A package has a plan only if no demand of its services met a name that
was taken, so that the constants of the plan are all that were demanded, in order, each under a name
of its own.
-/
namespace ServiceGen

def Demand.constant? : Demand → Option Constant
  | .constant entry => some entry
  | .problem _ => none

namespace Ledger

/-- A demand that leaves no problem is for a constant whose name is new, and is entered last. -/
theorem enter_of_problems_nil {ledger : Ledger} {demand : Demand}
    (hproblems : (ledger.enter demand).problems = []) :
    ledger.problems = [] ∧ ∃ constant, demand = .constant constant ∧
      constant.name ∉ ledger.constants.map Constant.name ∧
      (ledger.enter demand).constants = ledger.constants ++ [constant] := by
  cases demand with
  | problem problem => exact absurd hproblems (by simp [enter])
  | constant constant =>
    rw [enter] at hproblems ⊢
    split at hproblems
    · next hnone =>
      refine ⟨hproblems, constant, rfl, ?_, rfl⟩
      intro hmem
      obtain ⟨taken, htaken, hname⟩ := List.mem_map.mp hmem
      have hne := List.find?_eq_none.mp hnone taken htaken
      exact hne (by simpa using hname)
    · exact absurd hproblems (by simp)

theorem problems_of_foldl {ledger : Ledger} {demands : List Demand}
    (hproblems : (demands.foldl enter ledger).problems = []) : ledger.problems = [] := by
  induction demands generalizing ledger with
  | nil => exact hproblems
  | cons demand rest ih => exact (enter_of_problems_nil (ih hproblems)).1

/-- Demands that leave no problem are all entered, each under a name of its own. -/
theorem foldl_enter {ledger : Ledger} {demands : List Demand}
    (hproblems : (demands.foldl enter ledger).problems = [])
    (hdistinct : (ledger.constants.map Constant.name).Nodup) :
    (demands.foldl enter ledger).constants =
        ledger.constants ++ demands.filterMap Demand.constant? ∧
      ((demands.foldl enter ledger).constants.map Constant.name).Nodup := by
  induction demands generalizing ledger with
  | nil => exact ⟨(List.append_nil _).symm, hdistinct⟩
  | cons demand rest ih =>
    have hrest : (rest.foldl enter (ledger.enter demand)).problems = [] := hproblems
    obtain ⟨-, constant, rfl, hnew, henter⟩ :=
      enter_of_problems_nil (problems_of_foldl hrest)
    have hentered : ((ledger.enter (.constant constant)).constants.map Constant.name).Nodup := by
      rw [henter, List.map_append, List.nodup_append]
      refine ⟨hdistinct, List.nodup_singleton _, ?_⟩
      rintro name hname last hlast rfl
      exact hnew (by simpa [List.mem_singleton.mp hlast] using hname)
    obtain ⟨hconstants, hnodup⟩ := ih hrest hentered
    have hdemand : Demand.constant? (.constant constant) = some constant := rfl
    refine ⟨?_, hnodup⟩
    rw [List.foldl_cons, hconstants, henter, List.append_assoc, List.singleton_append,
      List.filterMap_cons_some hdemand]

end Ledger

namespace Plan

open Convention

/-- The operations of a service that are generated: those that can be, of a workflow without mere
methods. -/
def generated (service : Service) : List Operation :=
  match service.kind with
  | .workflow => (usable service).filter (·.kind ≠ .method)
  | _ => usable service

def ownConstants (options : GenerationOptions) (package : Package) (service : Service) :
    List Constant :=
  serviceConstant package service ::
    match service.kind with
    | .service => []
    | _ => [taskQueueConstant options package service]

theorem filterMap_problem (problems : List Problem) :
    (problems.map Demand.problem).filterMap Demand.constant? = [] := by
  rw [List.filterMap_map]
  exact List.filterMap_eq_nil_iff.mpr fun _ _ => rfl

theorem filterMap_constant {α : Type} (constant : α → Constant) (list : List α) :
    (list.map fun a => Demand.constant (constant a)).filterMap Demand.constant? =
      list.map constant := by
  rw [List.filterMap_map]
  exact congrFun List.filterMap_eq_map list

/-- The constants that a service demands: its own, and one for each generated operation. -/
theorem demanded_eq (options : GenerationOptions) (package : Package) (service : Service) :
    (Contribution.of options package service).demands.filterMap Demand.constant? =
      ownConstants options package service ++
        (generated service).map (operationConstant package service) := by
  have hdemands : (demands options package service).filterMap Demand.constant? =
      [serviceConstant package service] := by
    rw [demands, List.filterMap_append]
    split
    · rw [filterMap_problem]
      rfl
    · rfl
  have hqueue : [Demand.constant (taskQueueConstant options package service)].filterMap
      Demand.constant? = [taskQueueConstant options package service] := rfl
  unfold Contribution.of ownConstants generated
  cases service.kind with
  | service =>
    change (demands options package service ++ _).filterMap Demand.constant? = _
    rw [List.filterMap_append, hdemands, filterMap_constant]
  | activity =>
    change (demands options package service ++ _ ++ _).filterMap Demand.constant? = _
    rw [List.filterMap_append, List.filterMap_append, hdemands, hqueue, filterMap_constant]
    rfl
  | workflow =>
    change (demands options package service ++ _ ++ _ ++ _).filterMap Demand.constant? = _
    have hentrance : (if options.strict then
        (Workflow.entranceProblems options.marker service).map Demand.problem else []).filterMap
          Demand.constant? = [] := by
      split
      · exact filterMap_problem _
      · rfl
    have hoperations : ((Workflow.operationConstants package service).map
        Demand.constant).filterMap Demand.constant? =
          Workflow.operationConstants package service :=
      (filterMap_constant id _).trans (List.map_id _)
    rw [List.filterMap_append, List.filterMap_append, List.filterMap_append, hdemands, hqueue,
      hentrance, hoperations]
    rfl

end Plan

namespace PackagePlan

/-- A package has a plan only if it has no problems, and the plan is put together from what its
services add. -/
theorem eq_of_build {options : GenerationOptions} {package : Package} {plan : PackagePlan}
    (hbuild : build options package = .ok plan) :
    (ledger options package).problems = [] ∧ plan =
      { package := package.name
        sourcePath := package.sourcePath
        constants := (ledger options package).constants
        signalChannels := (contributions options package).flatMap Contribution.signalChannels
        services := (contributions options package).map Contribution.plan
        gathering := gather (contributions options package)
        omissions := (contributions options package).flatMap Contribution.omissions } := by
  unfold build at hbuild
  dsimp only at hbuild
  split at hbuild
  · next hproblems =>
    injection hbuild with hbuild
    exact ⟨List.isEmpty_iff.mp hproblems, hbuild.symm⟩
  · exact absurd hbuild (by simp)

theorem of_build {options : GenerationOptions} {package : Package} {plan : PackagePlan}
    (hbuild : build options package = .ok plan) :
    (ledger options package).problems = [] ∧
      plan.constants = (ledger options package).constants ∧
      plan.services = package.services.map (fun service =>
        (Contribution.of options package service).plan) ∧
      plan.signalChannels = package.services.flatMap fun service =>
        (Contribution.of options package service).signalChannels := by
  obtain ⟨hproblems, rfl⟩ := eq_of_build hbuild
  exact ⟨hproblems, rfl, List.map_map, List.flatMap_map _ _ _⟩

theorem gathering_of_build {options : GenerationOptions} {package : Package} {plan : PackagePlan}
    (hbuild : build options package = .ok plan) :
    plan.gathering = gather (contributions options package) := by
  obtain ⟨-, rfl⟩ := eq_of_build hbuild
  rfl

theorem exists_build {options : GenerationOptions} {package : Package}
    (hproblems : (ledger options package).problems.isEmpty = true) :
    ∃ plan, build options package = .ok plan := by
  unfold build
  exact ⟨_, if_pos hproblems⟩

/-- The constants of a plan are that of the package and those which the services demand, each under
a name of its own. -/
theorem constants_of_build {options : GenerationOptions} {package : Package} {plan : PackagePlan}
    (hbuild : build options package = .ok plan) :
    plan.constants = ⟨Naming.packageConstant, package.name⟩ ::
        package.services.flatMap (fun service => Plan.ownConstants options package service ++
          (Plan.generated service).map (Plan.Convention.operationConstant package service)) ∧
      (plan.constants.map Constant.name).Nodup := by
  obtain ⟨hproblems, hconstants, -, -⟩ := of_build hbuild
  have hstart : ((Ledger.start package).constants.map Constant.name).Nodup := List.nodup_singleton _
  obtain ⟨hentered, hnodup⟩ := Ledger.foldl_enter hproblems hstart
  rw [hconstants]
  refine ⟨hentered.trans ?_, hnodup⟩
  rw [List.filterMap_flatMap, contributions, List.flatMap_map]
  apply congrArg ((Ledger.start package).constants ++ ·)
  apply List.flatMap_congr
  intro service _
  exact Plan.demanded_eq options package service

/-- The constants that a service demands are constants of the plan. -/
theorem subset_constants_of_build {options : GenerationOptions} {package : Package}
    {plan : PackagePlan} (hbuild : build options package = .ok plan) {service : Service}
    (hservice : service ∈ package.services) :
    Plan.ownConstants options package service ++
      (Plan.generated service).map (Plan.Convention.operationConstant package service) ⊆
        plan.constants := by
  intro constant hconstant
  rw [(constants_of_build hbuild).1]
  exact List.mem_cons_of_mem _ (List.mem_flatMap.mpr ⟨service, hservice, hconstant⟩)

theorem constant?_of_mem {plan : PackagePlan} (hnodup : (plan.constants.map Constant.name).Nodup)
    {constant : Constant} (hmem : constant ∈ plan.constants) :
    plan.constant? constant.name = some constant.value := by
  unfold constant?
  cases hfind : plan.constants.find? (·.name == constant.name) with
  | none =>
    have hne := List.find?_eq_none.mp hfind constant hmem
    exact absurd (beq_self_eq_true _) hne
  | some found =>
    have hname : found.name = constant.name := by simpa using List.find?_some hfind
    rw [List.inj_on_of_nodup_map hnodup (List.mem_of_find?_eq_some hfind) hmem hname,
      Option.map_some]

end PackagePlan

end ServiceGen
