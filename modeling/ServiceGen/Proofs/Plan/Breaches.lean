import Mathlib.Data.List.Induction
import ServiceGen.Proofs.Plan.Strictness

/-!
How many rules a package breaks. Every breach is a problem of its own: a service or an operation of
more than one kind, an operation with too many parameters, a workflow without exactly one entrance,
and a constant whose name an earlier one has taken. The first four count in strict mode only. The
problems of a package are its breaches, and it has a plan exactly if there are none.
-/
namespace ServiceGen

def Demand.problem? : Demand → Option Problem
  | .problem entry => some entry
  | .constant _ => none

/-- The problem with a constant among those in front of it: the first of these with its name. -/
def Constant.clash? (before : List Constant) (constant : Constant) : Option Problem :=
  (before.find? (·.name == constant.name)).map fun taken =>
    .clash constant.name taken.value constant.value

/-- The problems with constants behind others, each compared with everything in front of it. -/
def Constant.clashes (before : List Constant) : List Constant → List Problem
  | [] => []
  | constant :: rest => (constant.clash? before).toList ++ clashes (before ++ [constant]) rest

/-- The number of entries of a list that stand behind an equal one. -/
def repeats (names : List String) : Nat :=
  (List.range names.length).countP fun position =>
    names[position]?.any fun name => name ∈ names.take position

theorem repeats_concat (names : List String) (last : String) :
    repeats (names ++ [last]) = repeats names + if last ∈ names then 1 else 0 := by
  unfold repeats
  rw [List.length_append, List.length_singleton, List.range_succ, List.countP_append]
  congr 1
  · apply List.countP_congr
    intro position hposition
    have hlt := List.mem_range.mp hposition
    rw [List.getElem?_append_left hlt, List.take_append_of_le_length (Nat.le_of_lt hlt)]
  · simp [List.countP_cons]

namespace Constant

theorem clashes_concat (before constants : List Constant) (last : Constant) :
    clashes before (constants ++ [last]) =
      clashes before constants ++ (last.clash? (before ++ constants)).toList := by
  induction constants generalizing before with
  | nil => simp [clashes]
  | cons constant rest ih => simp [clashes, ih]

theorem length_clash? (before : List Constant) (constant : Constant) :
    (constant.clash? before).toList.length =
      if constant.name ∈ before.map Constant.name then 1 else 0 := by
  unfold clash?
  cases hfind : before.find? (·.name == constant.name) with
  | none =>
    have hnone : constant.name ∉ before.map Constant.name := by
      intro hmem
      obtain ⟨taken, htaken, hname⟩ := List.mem_map.mp hmem
      exact List.find?_eq_none.mp hfind taken htaken (by simpa using hname)
    simp [hnone]
  | some taken =>
    have hsome : constant.name ∈ before.map Constant.name :=
      List.mem_map.mpr
        ⟨taken, List.mem_of_find?_eq_some hfind, by simpa using List.find?_some hfind⟩
    simp [hsome]

/-- There are as many clashes as names that are taken. -/
theorem length_clashes (constants : List Constant) :
    (clashes [] constants).length = repeats (constants.map Constant.name) := by
  induction constants using List.reverseRecOn with
  | nil => rfl
  | append_singleton constants last ih =>
    rw [clashes_concat, List.length_append, ih, List.map_append, List.map_singleton,
      repeats_concat, length_clash?, List.nil_append]

end Constant

namespace Ledger

/-- What demands leave as problems: those that they are, and the clashes of the constants among
them with everything that was demanded earlier. -/
theorem perm_problems (demands : List Demand) (ledger : Ledger) (before : List Constant)
    (hsame : ∀ name, ledger.constants.find? (·.name == name) = before.find? (·.name == name)) :
    (demands.foldl enter ledger).problems.Perm
      (ledger.problems ++ (demands.filterMap Demand.problem? ++
        Constant.clashes before (demands.filterMap Demand.constant?))) := by
  induction demands generalizing ledger before with
  | nil => simp [Constant.clashes]
  | cons demand rest ih =>
    cases demand with
    | problem problem =>
      have hproblem : Demand.problem? (.problem problem) = some problem := rfl
      have hconstant : Demand.constant? (.problem problem) = none := rfl
      rw [List.foldl_cons, List.filterMap_cons_some hproblem, List.filterMap_cons_none hconstant]
      refine (ih (ledger.enter (.problem problem)) before hsame).trans ?_
      simp [enter]
    | constant constant =>
      have hproblem : Demand.problem? (.constant constant) = none := rfl
      have hconstant : Demand.constant? (.constant constant) = some constant := rfl
      rw [List.foldl_cons, List.filterMap_cons_none hproblem, List.filterMap_cons_some hconstant,
        Constant.clashes, Constant.clash?, ← hsame constant.name]
      cases hfind : ledger.constants.find? (·.name == constant.name) with
      | none =>
        have henter : ledger.enter (.constant constant) =
            { ledger with constants := ledger.constants ++ [constant] } := by
          simp only [enter, hfind]
        rw [henter]
        refine ih _ (before ++ [constant]) fun name => ?_
        rw [List.find?_append, List.find?_append, hsame name]
      | some taken =>
        have henter : ledger.enter (.constant constant) =
            { ledger with
              problems := ledger.problems ++
                [.clash constant.name taken.value constant.value] } := by
          simp only [enter, hfind]
        rw [henter]
        refine (ih _ (before ++ [constant]) fun name => ?_).trans ?_
        · rw [List.find?_append, ← hsame name]
          by_cases hname : constant.name = name
          · rw [← hname, hfind, Option.some_or]
          · simp [hname, hsame name]
        · simp only [List.append_assoc, Option.map_some, Option.toList_some]
          exact (List.perm_append_comm_assoc _ _ _).append_left _

end Ledger

namespace Plan

open Convention

/-- Whether a service is a workflow without exactly one entrance among the operations that can be
generated. -/
def lacksEntrance (service : Service) : Bool :=
  service.kind = .workflow && service.operations.countP (fun operation =>
    operation.params.length ≤ limit operation.kind && operation.kind = .execute) ≠ 1

def kindProblems (service : Service) : List Problem :=
  if 1 < service.declaredKinds.length then [.manyKinds service.name service.declaredKinds] else []

def operationKindProblems (service : Service) (operation : Operation) : List Problem :=
  if 1 < operation.declaredKinds.length then
    [.manyOperationKinds service.name operation.name operation.declaredKinds]
  else []

def paramsProblems (service : Service) (operation : Operation) : List Problem :=
  if limit operation.kind < operation.params.length then [paramsProblem service operation] else []

/-- The rules that the declarations of services break, one rule after the other. -/
def brokenRules (marker : String) (services : List Service) : List Problem :=
  services.flatMap kindProblems ++
    services.flatMap (fun service => service.operations.flatMap (operationKindProblems service)) ++
    services.flatMap (fun service => service.operations.flatMap (paramsProblems service)) ++
    services.flatMap (serviceProblems marker)

theorem problems_eq (service : Service) :
    problems service = kindProblems service ++ service.operations.flatMap fun operation =>
      operationKindProblems service operation ++ paramsProblems service operation := by
  unfold problems kindProblems
  congr 1
  apply List.flatMap_congr
  intro operation _
  unfold operationProblems operationKindProblems paramsProblems fits
  by_cases hlimit : operation.params.length ≤ limit operation.kind
  · simp [hlimit, Nat.not_lt.mpr hlimit]
  · simp [hlimit, Nat.lt_of_not_le hlimit]

/-- What services report one after the other is sorted by rules. -/
theorem perm_brokenRules (marker : String) (services : List Service) :
    (services.flatMap fun service => problems service ++ serviceProblems marker service).Perm
      (brokenRules marker services) := by
  have hservices := List.flatMap_append_perm services problems (serviceProblems marker)
  have hproblems : (services.flatMap problems).Perm
      (services.flatMap kindProblems ++
        (services.flatMap (fun service =>
            service.operations.flatMap (operationKindProblems service)) ++
          services.flatMap fun service =>
            service.operations.flatMap (paramsProblems service))) := by
    rw [funext problems_eq]
    refine (List.flatMap_append_perm services _ _).symm.trans (.append_left _ ?_)
    refine .trans (.flatMap_left services fun service _ =>
      (List.flatMap_append_perm service.operations _ _).symm) ?_
    exact (List.flatMap_append_perm services _ _).symm
  refine hservices.symm.trans (.append_right _ (hproblems.trans (.of_eq ?_)))
  rw [List.append_assoc]

theorem length_told {P : Prop} [Decidable P] (problem : Problem) :
    (if P then [problem] else []).length = if decide P then 1 else 0 := by
  by_cases hbroken : P
  · simp [hbroken]
  · simp [hbroken]

theorem length_flatMap_eq_countP {α β : Type} {f : α → List β} {p : α → Bool}
    (hf : ∀ a, (f a).length = if p a then 1 else 0) (list : List α) :
    (list.flatMap f).length = list.countP p := by
  induction list with
  | nil => rfl
  | cons a rest ih =>
    rw [List.flatMap_cons, List.length_append, ih, hf, List.countP_cons, Nat.add_comm]

theorem length_flatMap_operations {f : Service → Operation → List Problem} {p : Operation → Bool}
    (hf : ∀ service operation, (f service operation).length = if p operation then 1 else 0)
    (services : List Service) :
    (services.flatMap fun service => service.operations.flatMap (f service)).length =
      (services.flatMap Service.operations).countP p := by
  rw [List.length_flatMap, List.countP_flatMap]
  refine congrArg List.sum (List.map_congr_left fun service _ => ?_)
  exact length_flatMap_eq_countP (hf service) service.operations

theorem length_serviceProblems (marker : String) (service : Service) :
    (serviceProblems marker service).length = if lacksEntrance service then 1 else 0 := by
  have hentrances : (Workflow.usableOf service .execute).length =
      service.operations.countP fun operation =>
        operation.params.length ≤ limit operation.kind && operation.kind = .execute := by
    rw [Workflow.usableOf, usable, List.filter_filter, List.countP_eq_length_filter]
    congr 1
    apply List.filter_congr
    intro operation _
    exact Bool.and_comm _ _
  unfold serviceProblems lacksEntrance
  rw [← hentrances]
  cases service.kind with
  | service => rfl
  | activity => rfl
  | workflow =>
    unfold Workflow.entranceProblems
    rcases Workflow.usableOf service .execute with _ | ⟨first, _ | ⟨second, rest⟩⟩ <;> simp

/-- Every broken rule is told of once. -/
theorem length_brokenRules (marker : String) (services : List Service) :
    (brokenRules marker services).length =
      services.countP (1 < ·.declaredKinds.length) +
        (services.flatMap Service.operations).countP (1 < ·.declaredKinds.length) +
        (services.flatMap Service.operations).countP
          (fun operation => limit operation.kind < operation.params.length) +
        services.countP lacksEntrance := by
  have hkinds := length_flatMap_eq_countP (f := kindProblems) (fun _ => length_told _) services
  have hoperationKinds := length_flatMap_operations (f := operationKindProblems)
    (fun _ _ => length_told _) services
  have hparams := length_flatMap_operations (f := paramsProblems)
    (fun _ _ => length_told _) services
  have hentrances := length_flatMap_eq_countP (length_serviceProblems marker) services
  rw [brokenRules, List.length_append, List.length_append, List.length_append, hkinds,
    hoperationKinds, hparams, hentrances]

theorem problems_of_contribution (options : GenerationOptions) (package : Package)
    (service : Service) :
    (Contribution.of options package service).demands.filterMap Demand.problem? =
      if options.strict then problems service ++ serviceProblems options.marker service
      else [] := by
  have hconstants (constants : List Constant) :
      (constants.map Demand.constant).filterMap Demand.problem? = [] := by
    rw [List.filterMap_map]
    exact List.filterMap_eq_nil_iff.mpr fun _ _ => rfl
  have hproblems (problems : List Problem) :
      (problems.map Demand.problem).filterMap Demand.problem? = problems := by
    rw [List.filterMap_map]
    exact List.filterMap_some
  rw [demands_eq]
  simp only [List.filterMap_append, hconstants, List.append_nil]
  split
  · simp only [hproblems]
  · rfl

end Plan

namespace PackagePlan

open Plan Plan.Convention

/-- The constants that a package generates, in order, whether their names are taken or not. -/
def generatedConstants (options : GenerationOptions) (package : Package) : List Constant :=
  ⟨Naming.packageConstant, package.name⟩ :: package.services.flatMap fun service =>
    ownConstants options package service ++
      (generated service).map (operationConstant package service)

/-- The number of rules that a package breaks. -/
def breaches (options : GenerationOptions) (package : Package) : Nat :=
  (if options.strict then
    package.services.countP (1 < ·.declaredKinds.length) +
      (package.services.flatMap Service.operations).countP (1 < ·.declaredKinds.length) +
      (package.services.flatMap Service.operations).countP
        (fun operation => limit operation.kind < operation.params.length) +
      package.services.countP lacksEntrance
  else 0) + repeats ((generatedConstants options package).map Constant.name)

/-- The problems of a package are the rules that its services break, in strict mode, and the
constants whose names are taken. -/
theorem perm_problems (options : GenerationOptions) (package : Package) :
    (ledger options package).problems.Perm
      ((if options.strict then brokenRules options.marker package.services else []) ++
        Constant.clashes [] (generatedConstants options package)) := by
  have hbroken : (package.services.flatMap fun service =>
      if options.strict then problems service ++ serviceProblems options.marker service
      else []).Perm
        (if options.strict then brokenRules options.marker package.services else []) := by
    cases options.strict with
    | false => simp
    | true => exact perm_brokenRules options.marker package.services
  -- The first constant is there from the start.
  have hclashes : Constant.clashes [] (generatedConstants options package) =
      Constant.clashes (Ledger.start package).constants (package.services.flatMap fun service =>
        ownConstants options package service ++
          (generated service).map (operationConstant package service)) := rfl
  have hall := Ledger.perm_problems
    ((contributions options package).flatMap Contribution.demands) (.start package)
    (Ledger.start package).constants fun _ => rfl
  rw [contributions, List.flatMap_map, List.filterMap_flatMap, List.filterMap_flatMap,
    funext (problems_of_contribution options package), funext (demanded_eq options package),
    ← hclashes] at hall
  rw [ledger, contributions, List.flatMap_map]
  exact hall.trans (hbroken.append_right _)

theorem length_problems (options : GenerationOptions) (package : Package) :
    (ledger options package).problems.length = breaches options package := by
  rw [(perm_problems options package).length_eq, List.length_append, Constant.length_clashes,
    breaches]
  split
  · rw [length_brokenRules]
  · rfl

/-- A package has a plan exactly if it breaks no rule. One that does is refused with as many
problems as there are breaches: each rule that its services break, in strict mode, and each constant
whose name is taken, once. -/
theorem build_tells_breaches (options : GenerationOptions) (package : Package) :
    ((∃ plan, build options package = .ok plan) ↔ breaches options package = 0) ∧
      ∀ problems, build options package = .error problems →
        problems.length = breaches options package ∧
        problems.Perm ((if options.strict then brokenRules options.marker package.services
            else []) ++ Constant.clashes [] (generatedConstants options package)) := by
  rw [← length_problems]
  refine ⟨⟨?_, ?_⟩, ?_⟩
  · rintro ⟨plan, hbuild⟩
    rw [(of_build hbuild).1, List.length_nil]
  · intro hnone
    exact exists_build (List.isEmpty_iff.mpr (List.length_eq_zero_iff.mp hnone))
  · intro problems hbuild
    obtain ⟨-, rfl⟩ := build_error hbuild
    exact ⟨rfl, perm_problems options package⟩

end PackagePlan

end ServiceGen
