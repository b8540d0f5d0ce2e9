import Mathlib.Data.List.Flatten
import ServiceGen.Proofs.Plan.Sites

/-!
What the constants that a plan refers to hold. Every place of a plan that refers to a constant at
all refers to one that the plan has, and the name it finds there is that of the operation for which
the place was produced, or that of the service whose workflow is started. No two operations of a
package share a constant, so that what calls an operation and what answers it agree.
-/
namespace ServiceGen

open Plan Plan.Convention

namespace PackagePlan

variable {options : GenerationOptions} {package : Package} {plan : PackagePlan}

/-- The places of a plan are the fixed ones of its services and those that are produced for their
generated operations. -/
theorem perm_sites (hbuild : build options package = .ok plan) :
    plan.sites.Perm (package.services.flatMap fixedSites ++
      package.services.flatMap fun service =>
        (generated service).flatMap (operationSites options package service)) := by
  obtain ⟨-, -, hservices, hchannels⟩ := of_build hbuild
  have hsites : plan.sites.Perm (package.services.flatMap fun service =>
      sitesOf (Contribution.of options package service)) := by
    rw [sites, hservices, hchannels, List.flatMap_map, List.map_flatMap]
    exact List.flatMap_append_perm _ _ _
  have heach := List.Perm.flatMap_left package.services fun service _ =>
    perm_sitesOf options package service
  exact (hsites.trans heach).trans (List.flatMap_append_perm _ _ _).symm

/-- No two generated operations of a package have the same constant. -/
theorem nodup_operationConstants (hbuild : build options package = .ok plan) :
    (package.services.flatMap fun service => (generated service).map fun operation =>
      Naming.operationConstant service.name operation.name).Nodup := by
  obtain ⟨hconstants, hnodup⟩ := constants_of_build hbuild
  have hsublist : (package.services.flatMap fun service =>
      (generated service).map (operationConstant package service)).Sublist plan.constants := by
    rw [hconstants]
    refine .cons _ (List.Sublist.flatMap_right _ fun service _ => ?_)
    exact List.sublist_append_right _ _
  have hnames := hnodup.sublist (hsublist.map Constant.name)
  rw [List.map_flatMap] at hnames
  simpa only [List.map_map, Function.comp_def, operationConstant] using hnames

theorem constant?_operation (hbuild : build options package = .ok plan) {service : Service}
    (hservice : service ∈ package.services) {operation : Operation}
    (hoperation : operation ∈ generated service) :
    plan.constant? (Naming.operationConstant service.name operation.name) =
      some (package.name ++ "." ++ service.name ++ "." ++ operation.name) := by
  have hmem : operationConstant package service operation ∈ plan.constants :=
    subset_constants_of_build hbuild hservice
      (List.mem_append_right _ (List.mem_map_of_mem hoperation))
  simpa only [operationConstant, Naming.operationSymbol, Naming.serviceSymbol] using
    constant?_of_mem (constants_of_build hbuild).2 hmem

theorem constant?_service (hbuild : build options package = .ok plan) {service : Service}
    (hservice : service ∈ package.services) :
    plan.constant? (Naming.serviceConstant service.name) =
      some (package.name ++ "." ++ service.name) := by
  have hmem : serviceConstant package service ∈ plan.constants :=
    subset_constants_of_build hbuild hservice (List.mem_append_left _ List.mem_cons_self)
  simpa only [serviceConstant, Naming.serviceSymbol] using
    constant?_of_mem (constants_of_build hbuild).2 hmem

/-- Whatever starts a workflow refers to the constant of the service that it is in. -/
theorem constant?_of_starts (service : Service) {site : Site}
    (hsite : site ∈ (Contribution.of options package service).plan.sites) (hstarts : site.Starts) :
    site.constant? = some (Naming.serviceConstant service.name) := by
  have hall : site ∈ sitesOf (Contribution.of options package service) :=
    List.mem_append_left _ hsite
  obtain hfixed | hproduced :=
    List.mem_append.mp ((perm_sitesOf options package service).mem_iff.mp hall)
  · obtain ⟨-, hconstant⟩ | ⟨hnot, -⟩ := of_mem_fixedSites service hfixed
    · exact hconstant
    · exact absurd hstarts hnot
  · obtain ⟨operation, -, hoperation⟩ := List.mem_flatMap.mp hproduced
    exact absurd hstarts (of_mem_operationSites options package service hoperation).2

theorem name_of_contribution (service : Service) :
    (Contribution.of options package service).plan.name = service.name := by
  unfold Contribution.of
  cases service.kind <;> rfl

/-- In the plan of a package, what refers to an operation refers to the one constant that holds its
name, and what starts a workflow to one that holds the name of its service. -/
theorem references_resolve (hbuild : build options package = .ok plan) :
    (plan.constants.map Constant.name).Nodup ∧
      plan.sites.Perm (package.services.flatMap fixedSites ++
        package.services.flatMap fun service =>
          (generated service).flatMap (operationSites options package service)) ∧
      (∀ service ∈ package.services, ∀ operation ∈ generated service,
        plan.constant? (Naming.operationConstant service.name operation.name) =
            some (package.name ++ "." ++ service.name ++ "." ++ operation.name) ∧
          ∀ site ∈ operationSites options package service operation,
            site.constant? = some (Naming.operationConstant service.name operation.name)) ∧
      (package.services.flatMap fun service => (generated service).map fun operation =>
        Naming.operationConstant service.name operation.name).Nodup ∧
      ∀ service ∈ plan.services, ∀ site ∈ service.sites, site.Starts →
        ∃ constant, site.constant? = some constant ∧
          plan.constant? constant = some (package.name ++ "." ++ service.name) := by
  refine ⟨(constants_of_build hbuild).2, perm_sites hbuild, ?_, nodup_operationConstants hbuild, ?_⟩
  · intro service hservice operation hoperation
    refine ⟨constant?_operation hbuild hservice hoperation, ?_⟩
    intro site hsite
    exact (of_mem_operationSites options package service hsite).1
  · obtain ⟨-, -, hservices, -⟩ := of_build hbuild
    rw [hservices]
    intro servicePlan hmem site hsite hstarts
    obtain ⟨service, hservice, rfl⟩ := List.mem_map.mp hmem
    refine ⟨_, constant?_of_starts service hsite hstarts, ?_⟩
    rw [name_of_contribution]
    exact constant?_service hbuild hservice

/-- A shop that has a workflow for its orders. -/
def shop : Package :=
  let operation (name : String) (kind : OperationKind) : Operation :=
    { name, kind, docs := "", params := [], results := [], tags := [], declaredKinds := [kind]
      location := ⟨"shop.rs", 1, 1⟩ }
  { name := "shop"
    sourcePath := "shop.rs"
    services := [{
      name := "Order"
      kind := .workflow
      docs := ""
      tags := []
      declaredKinds := [.workflow]
      operations := [operation "place" .execute, operation "cancel" .signal]
      location := ⟨"shop.rs", 1, 1⟩ }] }

theorem shop_resolves :
    ∃ plan, build {} shop = .ok plan ∧ (plan.constants.map Constant.name).Nodup ∧
      ∀ service ∈ plan.services, ∀ site ∈ service.sites, site.Starts →
        ∃ constant, site.constant? = some constant ∧
          plan.constant? constant = some ("shop" ++ "." ++ service.name) := by
  have hproblems : (ledger {} shop).problems.isEmpty := by decide +kernel
  obtain ⟨plan, hbuild⟩ : ∃ plan, build {} shop = .ok plan := by
    unfold build
    exact ⟨_, if_pos hproblems⟩
  have hresolve := references_resolve hbuild
  exact ⟨plan, hbuild, hresolve.1, hresolve.2.2.2.2⟩

end PackagePlan

end ServiceGen
