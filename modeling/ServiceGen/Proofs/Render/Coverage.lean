import ServiceGen.Proofs.Plan.Fates
import ServiceGen.Proofs.Render.Refusal

/-!
Everything that is planned can be generated. A plan has methods of those kinds only that the
interface has code for, and each of them has the constant that its code refers to. So whatever code
is refused for a package that has a plan, it is refused for a text that cannot be read.
-/
namespace ServiceGen

open Render

namespace Plan

variable {service : Service} {hasCode refers : MethodKind → Bool} {role : InterfaceRole}

/-- The methods of an interface are whole if its fixed methods have code that refers to no constant
of theirs, and those for operations have code. -/
theorem isWhole_of_uses {methods : List MethodPlan}
    (huses : methods.map MethodPlan.use = interfaceUses service role)
    (hfixed : ∀ kind ∈ fixedKinds role, hasCode kind = true ∧ refers kind = false)
    (hproduced : ∀ operation, ∀ kind ∈ operationKinds operation role, hasCode kind = true) :
    ∀ method ∈ methods, method.IsWhole hasCode refers := by
  intro method hmethod
  have huse : method.use ∈ interfaceUses service role := huses ▸ List.mem_map_of_mem hmethod
  obtain hmem | hmem := List.mem_append.mp huse
  · obtain ⟨kind, hkind, heq⟩ := List.mem_map.mp hmem
    obtain rfl : kind = method.kind := congrArg Prod.fst heq
    obtain ⟨hcode, hrefers⟩ := hfixed _ hkind
    exact ⟨hcode, fun h => absurd h (by simp [hrefers])⟩
  · obtain ⟨operation, -, hmem⟩ := List.mem_flatMap.mp hmem
    obtain ⟨kind, hkind, heq⟩ := List.mem_map.mp hmem
    obtain rfl : kind = method.kind := congrArg Prod.fst heq
    have hconstant : some (Naming.operationConstant service.name operation.name) =
        method.constant := congrArg Prod.snd heq
    exact ⟨hproduced operation _ hkind, fun _ => hconstant ▸ rfl⟩

theorem hasCode_of_mem_operationKinds (hrole : role ≠ .activityProxy) (operation : Operation) :
    ∀ kind ∈ operationKinds operation role, Workflow.hasCode role kind = true := by
  cases role with
  | activityProxy => exact absurd rfl hrole
  | run | childRun | externalRun | client | childClient =>
    cases hkind : operation.kind <;> simp [operationKinds, hkind, Workflow.hasCode]

theorem hasCode_of_mem_fixedKinds (hrole : role ≠ .activityProxy) :
    ∀ kind ∈ fixedKinds role, Workflow.hasCode role kind = true ∧
      Workflow.refers role kind = false := by
  cases role with
  | activityProxy => exact absurd rfl hrole
  | run | childRun | externalRun | client | childClient => decide

/-- Whatever is planned for a service is whole. -/
theorem contribution_isWhole (options : GenerationOptions) (package : Package)
    (service : Service) : (Contribution.of options package service).plan.IsWhole := by
  unfold Contribution.of
  cases hkind : service.kind with
  | service => exact trivial
  | activity =>
    refine isWhole_of_uses (activity_uses service hkind) (by decide) fun _ => ?_
    simp [operationKinds, Activity.hasCode]
  | workflow =>
    have hinterface {interface : Interface} {role : InterfaceRole}
        (huses : interface.methods.map MethodPlan.use = interfaceUses service role)
        (hrole : interface.role = role) (hproxy : role ≠ .activityProxy) :
        interface.IsWhole := by
      subst hrole
      exact isWhole_of_uses huses (hasCode_of_mem_fixedKinds hproxy)
        (hasCode_of_mem_operationKinds hproxy)
    simp only [Workflow.contribution, ServicePlan.IsWhole, ServicePlan.interfaces,
      List.forall_mem_cons]
    exact ⟨hinterface (Workflow.run_uses service hkind) rfl (by decide),
      hinterface (Workflow.childRun_uses service hkind) rfl (by decide),
      hinterface (Workflow.externalRun_uses service hkind) rfl (by decide),
      hinterface (Workflow.client_uses service hkind) rfl (by decide),
      hinterface (Workflow.childClient_uses service) rfl (by decide),
      fun _ hnone => absurd hnone List.not_mem_nil⟩

end Plan

/-- That each method in the plan of a service has a declaration and a body, which are refused only
for texts that cannot be read. -/
def ServicePlan.HasCode (context : Context) : ServicePlan → Prop
  | .activity plan => ∀ method ∈ plan.proxy.methods,
    (Activity.signature context method).FailsFor method.types True ∧
      (Activity.body context plan method).FailsFor method.types True
  | .workflow plan => ∀ frame, Workflow.Frame.of context plan = .ok frame →
    ∀ interface ∈ (ServicePlan.workflow plan).interfaces, ∀ method ∈ interface.methods,
      (Workflow.signature frame interface method).FailsFor method.types True ∧
        (Workflow.body frame interface method).FailsFor method.types True
  | .service _ => True

theorem ServicePlan.hasCode_of_isWhole {plan : ServicePlan} (h : plan.IsWhole)
    (context : Context) : plan.HasCode context := by
  cases plan with
  | activity plan =>
    exact fun method hmethod =>
      ⟨(Activity.signature_failsFor context method).mono (List.Subset.refl _)
          fun _ => h method hmethod,
        (Activity.body_failsFor context method plan).mono (List.Subset.refl _)
          fun _ => h method hmethod⟩
  | workflow plan =>
    exact fun frame _ interface hinterface method hmethod =>
      ⟨(Workflow.signature_failsFor frame interface method).mono (List.Subset.refl _)
          fun _ => h interface hinterface method hmethod,
        (Workflow.body_failsFor frame interface method).mono (List.Subset.refl _)
          fun _ => h interface hinterface method hmethod⟩
  | service plan => exact trivial

namespace PackagePlan

variable {options : GenerationOptions} {package : Package} {plan : PackagePlan}

theorem isWhole_of_build (hbuild : build options package = .ok plan) :
    ∀ service ∈ plan.services, service.IsWhole := by
  obtain ⟨-, -, hservices, -⟩ := of_build hbuild
  rw [hservices]
  exact List.forall_mem_map.mpr fun service _ => Plan.contribution_isWhole options package service

/-- A package that has a plan is refused only for texts that cannot be read, and never because some
method has no code. In the plan of a service each method has a declaration and a body in its
interface, and the constant that the body refers to. -/
theorem covered_of_build (hbuild : build options package = .ok plan) :
    (∀ others : GenerationOptions, (Package.render others plan).FailsFor plan.types True ∧
      ∀ method interface, Package.render others plan ≠ .error (.unsupported method interface)) ∧
    ∀ service ∈ plan.services, service.IsWhole ∧ ∀ context, service.HasCode context := by
  have hwhole := isWhole_of_build hbuild
  refine ⟨fun others => ?_, fun service hservice => ⟨hwhole service hservice,
    ServicePlan.hasCode_of_isWhole (hwhole service hservice)⟩⟩
  have hfails : (Package.render others plan).FailsFor plan.types True :=
    (Package.render_failsFor others plan).mono (List.Subset.refl _) fun _ => hwhole
  exact ⟨hfails, fun method interface herror => hfails _ herror trivial⟩

theorem store_covered :
    ∃ plan, build {} Plan.store = .ok plan ∧
      (∀ method interface, Package.render {} plan ≠ .error (.unsupported method interface)) ∧
      ∀ service ∈ plan.services, service.IsWhole ∧ ∀ context, service.HasCode context := by
  have hproblems : (ledger {} Plan.store).problems.isEmpty := by decide +kernel
  obtain ⟨plan, hbuild⟩ := exists_build hproblems
  obtain ⟨hrender, hservices⟩ := covered_of_build hbuild
  exact ⟨plan, hbuild, (hrender {}).2, hservices⟩

end PackagePlan

end ServiceGen
