import ServiceGen.Proofs.Plan.Agreement
import ServiceGen.Proofs.Plan.Strictness

/-!
The operations that are left out of a plan. There is a warning for each of them, and no other trace:
without them a package has the same plan, which warns of nothing.
-/
namespace ServiceGen

namespace Plan

open Convention

/-- Whether an operation is left out: it has too many parameters, or its workflow does not say what
it is. -/
def leftOut (service : Service) (operation : Operation) : Bool :=
  limit operation.kind < operation.params.length ||
    (service.kind = .workflow && operation.kind = .method)

/-- The warning about an operation that is left out. -/
def omission (marker : String) (service : Service) (operation : Operation) : Omission :=
  { location := operation.location
    reason :=
      if limit operation.kind < operation.params.length then
        (paramsProblem service operation).message
      else
        "`" ++ service.name ++ "::" ++ operation.name ++ "` has no `" ++ marker ++
          ":workflow:<kind>` tag" }

/-- The service without the operations that are left out. -/
def kept (service : Service) : Service :=
  { service with operations := service.operations.filter (!leftOut service ·) }

def keptPackage (package : Package) : Package :=
  { package with services := package.services.map kept }

section

variable (service : Service)

theorem leftOut_eq (operation : Operation) :
    leftOut service operation =
      (!fits operation || (service.kind = .workflow && operation.kind = .method)) := by
  have hlimit : decide (limit operation.kind < operation.params.length) = !fits operation := by
    rw [fits, ← decide_not]
    exact decide_eq_decide.mpr Nat.not_le.symm
  rw [leftOut, hlimit]

theorem generated_eq : generated service = (kept service).operations := by
  unfold generated usable kept
  rw [funext (leftOut_eq service)]
  cases service.kind with
  | service => simp
  | activity => simp
  | workflow => simp [Bool.and_comm]

/-- The operations with too many parameters are warned of, if there are none in strict mode. -/
theorem omissions_eq (options : GenerationOptions)
    (hproblems : options.strict = true → problems service = []) :
    omissions options service =
      (service.operations.filter (!fits ·)).map (omission options.marker service) := by
  have hlenient : omissions { options with strict := false } service =
      (service.operations.filter (!fits ·)).map (omission options.marker service) := by
    refine List.map_congr_left fun operation hoperation => ?_
    have hlimit : limit operation.kind < operation.params.length := by
      simpa [fits] using (List.mem_filter.mp hoperation).2
    rw [omission, if_pos hlimit]
  rw [← hlenient]
  cases hstrict : options.strict with
  | false =>
    unfold omissions
    rw [hstrict]
  | true =>
    rw [omissions_of_problems_nil _ service (hproblems hstrict),
      omissions_of_problems_nil _ service (hproblems hstrict)]

theorem Workflow.untagged_eq (marker : String) :
    untagged marker service = (usableOf service .method).map (omission marker service) := by
  refine List.map_congr_left fun operation hoperation => ?_
  have hfits : fits operation = true :=
    (List.mem_filter.mp (List.mem_filter.mp hoperation).1).2
  have hlimit : ¬ limit operation.kind < operation.params.length := by
    simpa [fits] using hfits
  rw [omission, if_neg hlimit]

/-- The operations that are left out are those with too many parameters, and among the others those
of which their workflow does not say what they are. -/
theorem perm_leftOut :
    (service.operations.filter (!fits ·) ++ match service.kind with
      | .workflow => Workflow.usableOf service .method
      | _ => []).Perm (service.operations.filter (leftOut service)) := by
  have hsplit :=
    List.filter_append_perm (!fits ·) (service.operations.filter (leftOut service))
  rw [List.filter_filter, List.filter_filter, funext (leftOut_eq service)] at hsplit
  rw [funext (leftOut_eq service)]
  refine List.Perm.trans (.of_eq ?_) hsplit
  congr 1
  · apply List.filter_congr
    intro operation _
    cases hfits : fits operation <;> simp [hfits]
  · cases service.kind with
    | service => simp
    | activity => simp
    | workflow =>
      rw [Workflow.usableOf, usable, List.filter_filter]
      apply List.filter_congr
      intro operation _
      cases hfits : fits operation <;> simp [hfits, beq_eq_decide]

/-- The warnings of a service are those about the operations that are left out. -/
theorem perm_omissions (options : GenerationOptions) (package : Package)
    (hproblems : options.strict = true → problems service = []) :
    (Contribution.of options package service).omissions.Perm
      ((service.operations.filter (leftOut service)).map (omission options.marker service)) := by
  refine .trans (.of_eq ?_) ((perm_leftOut service).map (omission options.marker service))
  rw [List.map_append, ← omissions_eq service options hproblems]
  unfold Contribution.of
  cases service.kind with
  | service => exact (List.append_nil _).symm
  | activity => exact (List.append_nil _).symm
  | workflow => exact congrArg (_ ++ ·) (Workflow.untagged_eq service options.marker)

end

section

variable {options : GenerationOptions} {package : Package} {service : Service}

theorem problems_kept (hproblems : problems service = []) : problems (kept service) = [] := by
  obtain ⟨hkinds, hoperations⟩ := List.append_eq_nil_iff.mp hproblems
  refine List.append_eq_nil_iff.mpr ⟨hkinds, List.flatMap_eq_nil_iff.mpr ?_⟩
  intro operation hoperation
  exact List.flatMap_eq_nil_iff.mp hoperations operation (List.mem_of_mem_filter hoperation)

theorem leftOut_kept : leftOut (kept service) = leftOut service := rfl

theorem kind_kept : (kept service).kind = service.kind := rfl

theorem generated_kept : generated (kept service) = generated service := by
  rw [generated_eq, generated_eq]
  change ((service.operations.filter _).filter _) = _
  rw [leftOut_kept, List.filter_filter]
  simp only [Bool.and_self]
  rfl

theorem usable_kept : usable (kept service) = generated service := by
  rw [generated_eq]
  change (service.operations.filter _).filter fits = service.operations.filter _
  rw [List.filter_filter]
  apply List.filter_congr
  intro operation _
  rw [leftOut_eq]
  cases fits operation <;> simp

theorem usableOf_kept (hkind : service.kind = .workflow) {kind : OperationKind}
    (hmethod : kind ≠ .method) :
    Workflow.usableOf (kept service) kind = Workflow.usableOf service kind := by
  have hkept : (kept service).kind = .workflow := hkind
  rw [usableOf_eq hkept hmethod, usableOf_eq hkind hmethod, generated_kept]

theorem Activity.plan_kept (hkind : service.kind = .activity) :
    plan (kept service) = plan service := by
  have hgenerated : generated service = usable service := by rw [generated, hkind]
  unfold plan
  rw [usable_kept, hgenerated]
  rfl

theorem HttpService.plan_kept (hkind : service.kind = .service) :
    plan options (keptPackage package) (kept service) = plan options package service := by
  have hgenerated : generated service = usable service := by rw [generated, hkind]
  unfold plan
  rw [usable_kept, hgenerated]
  rfl

namespace Workflow

variable (hkind : service.kind = .workflow)

include hkind

theorem entrance?_kept : entrance? (kept service) = entrance? service := by
  unfold entrance?
  rw [usableOf_kept hkind (by simp)]

theorem requestOf_kept : requestOf (kept service) = requestOf service := by
  unfold requestOf
  rw [entrance?_kept hkind]

theorem responseOf_kept : responseOf (kept service) = responseOf service := by
  unfold responseOf
  rw [entrance?_kept hkind]

theorem signalMethods_kept : signalMethods (kept service) = signalMethods service := by
  unfold signalMethods
  rw [usableOf_kept hkind (by simp)]
  rfl

theorem run_kept : run (kept service) = run service := by
  have hmethods : (run (kept service)).methods = (run service).methods := by
    have hkept : (kept service).kind = .workflow := hkind
    rw [run_methods hkept, run_methods hkind, generated_kept, runFixed, runFixed,
      responseOf_kept hkind]
    rfl
  exact congrArg (Interface.of service.name .run .run) hmethods

theorem client_kept : client (kept service) = client service := by
  have hstart : executeWith (kept service) = executeWith service := by
    funext operation
    unfold executeWith
    rw [requestOf_kept hkind, responseOf_kept hkind]
    rfl
  unfold client clientFixed starting
  rw [usableOf_kept hkind (by simp), hstart, requestOf_kept hkind, responseOf_kept hkind]
  rfl

theorem input_kept : input (kept service) = input service := by
  unfold input
  rw [usableOf_kept hkind (by simp), requestOf_kept hkind]
  rfl

theorem controller_kept : controller (kept service) = controller service := by
  unfold controller registrations
  rw [entrance?_kept hkind, usableOf_kept hkind (by simp), usableOf_kept hkind (by simp)]
  rfl

theorem plan_kept : plan (kept service) = plan service := by
  unfold plan childRun childRunFixed externalRun childClient childClientFixed starting
  rw [requestOf_kept hkind, responseOf_kept hkind, run_kept hkind, client_kept hkind,
    signalMethods_kept hkind, input_kept hkind, controller_kept hkind]
  rfl

theorem entranceProblems_kept (marker : String) :
    entranceProblems marker (kept service) = entranceProblems marker service := by
  unfold entranceProblems
  rw [usableOf_kept hkind (by simp)]
  rfl

end Workflow

theorem serviceProblems_kept (marker : String) :
    serviceProblems marker (kept service) = serviceProblems marker service := by
  unfold serviceProblems
  rw [kind_kept]
  cases hkind : service.kind with
  | service => rfl
  | activity => rfl
  | workflow => exact Workflow.entranceProblems_kept hkind marker

theorem demands_kept (hproblems : options.strict = true → problems service = []) :
    (Contribution.of options (keptPackage package) (kept service)).demands =
      (Contribution.of options package service).demands := by
  have hbroken : (if options.strict then (problems (kept service)).map Demand.problem else []) =
      if options.strict then (problems service).map Demand.problem else [] := by
    split
    · next hstrict => rw [hproblems hstrict, problems_kept (hproblems hstrict)]
    · rfl
  rw [demands_eq, demands_eq, hbroken, serviceProblems_kept, generated_kept]
  rfl

theorem contributed_kept :
    (Contribution.of options (keptPackage package) (kept service)).plan =
      (Contribution.of options package service).plan := by
  unfold Contribution.of
  rw [kind_kept]
  cases hkind : service.kind with
  | service => exact congrArg ServicePlan.service (HttpService.plan_kept hkind)
  | activity => exact congrArg ServicePlan.activity (Activity.plan_kept hkind)
  | workflow => exact congrArg ServicePlan.workflow (Workflow.plan_kept hkind)

/-- Without the operations that are left out, a service contributes the same and has no warning. -/
theorem contribution_kept (hproblems : options.strict = true → problems service = []) :
    Contribution.of options (keptPackage package) (kept service) =
      { Contribution.of options package service with omissions := [] } := by
  apply Contribution.ext
  · exact demands_kept hproblems
  · have hnone : (kept service).operations.filter (leftOut (kept service)) = [] := by
      rw [List.filter_eq_nil_iff]
      intro operation hoperation
      simpa [leftOut_kept] using (List.mem_filter.mp hoperation).2
    have hperm := perm_omissions (kept service) options (keptPackage package)
      fun hstrict => problems_kept (hproblems hstrict)
    rw [hnone] at hperm
    exact hperm.eq_nil
  · rw [signalChannels_contribution, signalChannels_contribution, generated_kept]
    rfl
  · exact contributed_kept
  · unfold Contribution.of
    rw [kind_kept]
    cases service.kind <;> rfl

end

end Plan

namespace PackagePlan

open Plan Plan.Convention

variable {options : GenerationOptions} {package : Package} {plan : PackagePlan}

theorem problems_of_build (hbuild : build options package = .ok plan) {service : Service}
    (hservice : service ∈ package.services) (hstrict : options.strict = true) :
    problems service = [] := by
  have hoptions : { options with strict := true } = options := by rw [← hstrict]
  have hsome := Ledger.isSome_of_problems_nil (of_build hbuild).1
  apply problems_of_demands options package service
  intro demand hdemand
  rw [hoptions] at hdemand
  exact hsome demand (List.mem_flatMap.mpr ⟨_, List.mem_map_of_mem hservice, hdemand⟩)

theorem omissions_of_build (hbuild : build options package = .ok plan) :
    plan.omissions = package.services.flatMap fun service =>
      (Contribution.of options package service).omissions := by
  obtain ⟨-, rfl⟩ := eq_of_build hbuild
  exact List.flatMap_map _ _ _

/-- Without the operations that are left out, a package has the same plan, without warnings. -/
theorem build_kept (hbuild : build options package = .ok plan) :
    build options (keptPackage package) = .ok { plan with omissions := [] } := by
  have hcontributions : contributions options (keptPackage package) =
      (contributions options package).map fun contribution =>
        { contribution with omissions := [] } := by
    unfold contributions
    change (package.services.map kept).map _ = _
    rw [List.map_map, List.map_map]
    exact List.map_congr_left fun service hservice =>
      contribution_kept (problems_of_build hbuild hservice)
  have hledger : ledger options (keptPackage package) = ledger options package := by
    unfold ledger
    rw [hcontributions, List.flatMap_map]
    rfl
  obtain ⟨hproblems, rfl⟩ := eq_of_build hbuild
  have hnone : (ledger options (keptPackage package)).problems.isEmpty = true := by
    rw [hledger, hproblems, List.isEmpty_nil]
  obtain ⟨made, hmade⟩ := exists_build hnone
  obtain ⟨-, rfl⟩ := eq_of_build hmade
  rw [hmade, hledger, hcontributions]
  simp [gather, keptPackage, List.flatMap_map, Function.comp_def]

end PackagePlan

end ServiceGen
