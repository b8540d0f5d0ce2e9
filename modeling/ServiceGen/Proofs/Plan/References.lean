import ServiceGen.Proofs.Plan.Fates
import ServiceGen.Proofs.Plan.ItemNames

/-!
What a plan refers to. Constants, channels and what gathers the services are lists of the package,
and services refer to them by name, as they are referred to by name themselves. Whatever a plan
refers to is there: each service is gathered once, with the names that its own plan gives to its
parts, each channel of an input has its function, and each constant is one of the package. The
generated file defines all of these.
-/
namespace ServiceGen

open Plan Plan.Convention

namespace ServicePlan

def kind : ServicePlan → ServiceKind
  | .activity _ => .activity
  | .workflow _ => .workflow
  | .service _ => .service

/-- The client of a workflow, as it is gathered. -/
def client? : ServicePlan → Option GatheredInterface
  | .workflow plan =>
    some ⟨Naming.serviceField plan.service, plan.client.name, plan.clientConstructor⟩
  | _ => none

def childClient? : ServicePlan → Option GatheredInterface
  | .workflow plan =>
    some ⟨Naming.serviceField plan.service, plan.childClient.name, plan.childClientConstructor⟩
  | _ => none

/-- The proxy of an activity, as it is gathered. -/
def proxy? : ServicePlan → Option GatheredInterface
  | .activity plan =>
    some ⟨Naming.serviceField plan.service, plan.proxy.name, plan.proxyConstructor⟩
  | _ => none

/-- The controller of a service that a worker runs, as it is gathered. -/
def controller? : ServicePlan → Option GatheredController
  | .activity plan => some ⟨Naming.serviceField plan.service, plan.controller⟩
  | .workflow plan => some ⟨Naming.serviceField plan.service, plan.controller.name⟩
  | .service _ => none

/-- The constants that a service refers to as a whole. -/
def ownConstants : ServicePlan → List String
  | .activity plan => [plan.taskQueueConstant]
  | .workflow plan => [plan.nameConstant, plan.taskQueueConstant]
  | .service _ => []

def inputChannels : ServicePlan → List InputChannel
  | .workflow plan => plan.input.channels
  | _ => []

/-- What some services are gathered to. -/
def gathered (services : List ServicePlan) : Gathering :=
  { workflowClients := services.filterMap client?
    workflowProxies := services.filterMap childClient?
    activityProxies := services.filterMap proxy?
    controllers := services.filterMap controller? }

end ServicePlan

/-- What is gathered is referred to by its type and by the function that makes it. -/
def GatheredInterface.references (entry : GatheredInterface) : List String :=
  [entry.interface, entry.constructor]

def Gathering.references (gathering : Gathering) : List String :=
  gathering.workflowClients.flatMap GatheredInterface.references ++
    gathering.workflowProxies.flatMap GatheredInterface.references ++
    gathering.activityProxies.flatMap GatheredInterface.references ++
    gathering.controllers.map GatheredController.controller

namespace PackagePlan

/-- The constants that a plan refers to. -/
def namedConstants (plan : PackagePlan) : List String :=
  plan.services.flatMap ServicePlan.ownConstants ++ plan.sites.filterMap Site.constant?

/-- The names by which a plan refers to what is defined elsewhere in the file. -/
def references (plan : PackagePlan) : List String :=
  plan.namedConstants ++
    (plan.services.flatMap ServicePlan.inputChannels).map InputChannel.provider ++
    plan.gathering.references

end PackagePlan

namespace ServicePlan

/-- What is gathered of a service is referred to by names of its own items. -/
theorem references_parts (service : ServicePlan) :
    (∀ entry ∈ service.client?, entry.references ⊆ service.items) ∧
      (∀ entry ∈ service.childClient?, entry.references ⊆ service.items) ∧
      (∀ entry ∈ service.proxy?, entry.references ⊆ service.items) ∧
      ∀ entry ∈ service.controller?, entry.controller ∈ service.items := by
  cases service with
  | activity plan =>
    simp [client?, childClient?, proxy?, controller?, GatheredInterface.references, items,
      Interface.items]
  | workflow plan =>
    simp [client?, childClient?, proxy?, controller?, GatheredInterface.references, items,
      Interface.items]
  | service plan => simp [client?, childClient?, proxy?, controller?]

end ServicePlan

theorem exists_of_forall₂ {α β : Type} {r : α → β → Prop} {list : List α} {others : List β}
    (hall : List.Forall₂ r list others) {other : β} (hother : other ∈ others) :
    ∃ each ∈ list, r each other := by
  induction hall with
  | nil => exact absurd hother List.not_mem_nil
  | cons hfirst _ ih =>
    rcases List.mem_cons.mp hother with rfl | hother
    · exact ⟨_, List.mem_cons_self, hfirst⟩
    · obtain ⟨each, heach, hr⟩ := ih hother
      exact ⟨each, List.mem_cons_of_mem _ heach, hr⟩

/-- That a channel of an input is the one for a signal: its function is among those of the package,
answers the same type, and listens under the constant that holds the name of the signal. -/
structure InputChannel.IsFor (channel : InputChannel) (package : Package) (plan : PackagePlan)
    (service : Service) (operation : Operation) : Prop where
  accessor : channel.accessor = Naming.channelMethod operation.name
  provided : ⟨channel.provider, Naming.operationConstant service.name operation.name,
    channel.request⟩ ∈ plan.signalChannels
  constant : plan.constant? (Naming.operationConstant service.name operation.name) =
    some (package.name ++ "." ++ service.name ++ "." ++ operation.name)

namespace PackagePlan

/-- That everything a plan refers to is there. -/
structure IsGrounded (package : Package) (plan : PackagePlan) : Prop where
  services : plan.services.map (fun service => (service.kind, service.name)) =
    package.services.map fun service => (service.kind, service.name)
  workflowClients : plan.gathering.workflowClients = plan.services.filterMap ServicePlan.client?
  workflowProxies :
    plan.gathering.workflowProxies = plan.services.filterMap ServicePlan.childClient?
  activityProxies : plan.gathering.activityProxies = plan.services.filterMap ServicePlan.proxy?
  controllers : plan.gathering.controllers = plan.services.filterMap ServicePlan.controller?
  /-- The channels of an input are those for the signals of its workflow. -/
  channels : List.Forall₂ (fun service servicePlan =>
      List.Forall₂ (fun operation channel => channel.IsFor package plan service operation)
        (if service.kind = .workflow then generatedOfKind service .signal else [])
        servicePlan.inputChannels)
    package.services plan.services
  constants : plan.namedConstants ⊆ plan.constants.map Constant.name
  /-- All names that are referred to are those of items, -/
  references : plan.references ⊆ plan.items
  /-- and the generated file defines these items. -/
  defined : ∀ context, (Render.Package.emit context plan).Defines plan.items

variable {options : GenerationOptions} {package : Package} {plan : PackagePlan}

theorem kind_name_of_contribution (service : Service) :
    ((Contribution.of options package service).plan.kind,
      (Contribution.of options package service).plan.name) = (service.kind, service.name) := by
  unfold Contribution.of
  cases hkind : service.kind <;> rfl

/-- What is gathered of the services is told from their plans. -/
theorem gathering_eq (hbuild : build options package = .ok plan) :
    plan.gathering = ServicePlan.gathered plan.services := by
  obtain ⟨-, -, hservices, -⟩ := of_build hbuild
  rw [gathering_of_build hbuild, hservices, gather, ServicePlan.gathered]
  congr 1
  -- The four lists are alike: each service adds to them what its plan has for them.
  all_goals
    rw [List.filterMap_eq_flatMap_toList, List.flatMap_map, contributions, List.flatMap_map]
    refine List.flatMap_congr fun service _ => ?_
    unfold Contribution.of
    cases service.kind <;> rfl

theorem isFor_inputChannel (hbuild : build options package = .ok plan) {service : Service}
    (hservice : service ∈ package.services) (hkind : service.kind = .workflow)
    {operation : Operation} (hoperation : operation ∈ Workflow.usableOf service .signal) :
    (Workflow.inputChannel service operation).IsFor package plan service operation where
  accessor := rfl
  provided := by
    rw [signalChannels_eq hbuild]
    refine List.mem_flatMap.mpr ⟨service, List.mem_filter.mpr ⟨hservice, by simp [hkind]⟩, ?_⟩
    exact List.mem_map_of_mem hoperation
  constant := constant?_operation hbuild hservice
    ((sublist_usableOf hkind .signal (by simp)).subset hoperation)

theorem channels_of_build (hbuild : build options package = .ok plan) :
    List.Forall₂ (fun service servicePlan =>
        List.Forall₂ (fun operation channel => channel.IsFor package plan service operation)
          (if service.kind = .workflow then generatedOfKind service .signal else [])
          servicePlan.inputChannels)
      package.services plan.services := by
  obtain ⟨-, -, hservices, -⟩ := of_build hbuild
  rw [hservices, List.forall₂_map_right_iff, List.forall₂_same]
  intro service hservice
  unfold Contribution.of
  cases hkind : service.kind with
  | activity => exact .nil
  | service => exact .nil
  | workflow =>
    rw [if_pos rfl]
    change List.Forall₂ _ _
      ((Workflow.usableOf service .signal).map (Workflow.inputChannel service))
    rw [generatedOfKind, ← usableOf_eq hkind (by simp), List.forall₂_map_right_iff,
      List.forall₂_same]
    exact fun operation hoperation => isFor_inputChannel hbuild hservice hkind hoperation

/-- The constants that a service refers to as a whole are among those that it demands. -/
theorem ownConstants_subset (options : GenerationOptions) (package : Package) (service : Service) :
    (Contribution.of options package service).plan.ownConstants ⊆
      (Plan.ownConstants options package service).map Constant.name := by
  unfold Contribution.of Plan.ownConstants
  cases service.kind with
  | activity => exact List.subset_cons_self _ _
  | workflow => exact List.Subset.refl _
  | service => exact List.nil_subset _

theorem constants_subset (hbuild : build options package = .ok plan) :
    plan.namedConstants ⊆ plan.constants.map Constant.name := by
  have hdemanded {service : Service} (hservice : service ∈ package.services) :=
    List.map_subset Constant.name (subset_constants_of_build hbuild hservice)
  refine List.append_subset.mpr ⟨fun name hname => ?_, fun name hname => ?_⟩
  · obtain ⟨-, -, hservices, -⟩ := of_build hbuild
    rw [hservices, List.flatMap_map] at hname
    obtain ⟨service, hservice, hown⟩ := List.mem_flatMap.mp hname
    apply hdemanded hservice
    rw [List.map_append]
    exact List.mem_append_left _ (ownConstants_subset options package service hown)
  · obtain ⟨site, hsite, hconstant⟩ := List.mem_filterMap.mp hname
    rcases List.mem_append.mp ((perm_sites hbuild).mem_iff.mp hsite) with hfixed | hproduced
    · obtain ⟨service, hservice, hfixed⟩ := List.mem_flatMap.mp hfixed
      rcases of_mem_fixedSites service hfixed with ⟨-, hstarted⟩ | ⟨-, hnone⟩
      · obtain rfl := Option.some.inj (hstarted.symm.trans hconstant)
        exact hdemanded hservice List.mem_cons_self
      · exact absurd (hnone.symm.trans hconstant) (by simp)
    · obtain ⟨service, hservice, hproduced⟩ := List.mem_flatMap.mp hproduced
      obtain ⟨operation, hoperation, hproduced⟩ := List.mem_flatMap.mp hproduced
      have hown := (of_mem_operationSites options package service hproduced).1
      obtain rfl := Option.some.inj (hown.symm.trans hconstant)
      apply hdemanded hservice
      rw [List.map_append, List.map_map]
      exact List.mem_append_right _ (List.mem_map_of_mem hoperation)

/-- What is gathered of some services is referred to by names of their items. -/
theorem references_subset {services : List ServicePlan}
    {gathered? : ServicePlan → Option GatheredInterface}
    (heach : ∀ service, ∀ entry ∈ gathered? service, entry.references ⊆ service.items) :
    (services.filterMap gathered?).flatMap GatheredInterface.references ⊆
      services.flatMap ServicePlan.items := by
  intro name hname
  obtain ⟨entry, hentry, hname⟩ := List.mem_flatMap.mp hname
  obtain ⟨service, hservice, hgathered⟩ := List.mem_filterMap.mp hentry
  exact List.mem_flatMap.mpr ⟨service, hservice, heach service entry hgathered hname⟩

theorem references_gathered (services : List ServicePlan) :
    (ServicePlan.gathered services).references ⊆ services.flatMap ServicePlan.items := by
  refine List.append_subset.mpr ⟨List.append_subset.mpr ⟨List.append_subset.mpr
    ⟨references_subset fun service => service.references_parts.1,
      references_subset fun service => service.references_parts.2.1⟩,
    references_subset fun service => service.references_parts.2.2.1⟩, ?_⟩
  intro name hname
  obtain ⟨entry, hentry, rfl⟩ := List.mem_map.mp hname
  obtain ⟨service, hservice, hgathered⟩ := List.mem_filterMap.mp hentry
  exact List.mem_flatMap.mpr
    ⟨service, hservice, service.references_parts.2.2.2 entry hgathered⟩

/-- The function of each channel of an input is one of the package. -/
theorem providers_subset (hbuild : build options package = .ok plan) :
    (plan.services.flatMap ServicePlan.inputChannels).map InputChannel.provider ⊆
      plan.signalChannels.map SignalChannel.provider := by
  intro name hname
  obtain ⟨channel, hchannel, rfl⟩ := List.mem_map.mp hname
  obtain ⟨servicePlan, hservicePlan, hchannel⟩ := List.mem_flatMap.mp hchannel
  obtain ⟨service, -, hchannels⟩ := exists_of_forall₂ (channels_of_build hbuild) hservicePlan
  obtain ⟨operation, -, hfor⟩ := exists_of_forall₂ hchannels hchannel
  exact List.mem_map_of_mem hfor.provided

theorem subset_items (hbuild : build options package = .ok plan) :
    plan.references ⊆ plan.items := by
  have hgathering : plan.gathering.references ⊆ plan.services.flatMap ServicePlan.items := by
    rw [gathering_eq hbuild]
    exact references_gathered plan.services
  rw [items]
  refine List.append_subset.mpr ⟨List.append_subset.mpr ⟨?_, ?_⟩, ?_⟩
  · exact List.subset_append_of_subset_left _ (List.subset_append_of_subset_left _
      (List.subset_append_of_subset_left _ (constants_subset hbuild)))
  · exact List.subset_append_of_subset_left _ (List.subset_append_of_subset_left _
      (List.subset_append_of_subset_right _ (providers_subset hbuild)))
  · exact List.subset_append_of_subset_left _ (List.subset_append_of_subset_right _ hgathering)

/-- In the plan of a package, and so in the generated file, nothing is referred to that is not
there. -/
theorem grounded_of_build (hbuild : build options package = .ok plan) :
    IsGrounded package plan where
  services := by
    obtain ⟨-, -, hservices, -⟩ := of_build hbuild
    rw [hservices, List.map_map]
    exact List.map_congr_left fun service _ => kind_name_of_contribution service
  workflowClients := congrArg Gathering.workflowClients (gathering_eq hbuild)
  workflowProxies := congrArg Gathering.workflowProxies (gathering_eq hbuild)
  activityProxies := congrArg Gathering.activityProxies (gathering_eq hbuild)
  controllers := congrArg Gathering.controllers (gathering_eq hbuild)
  channels := channels_of_build hbuild
  constants := constants_subset hbuild
  references := subset_items hbuild
  defined := fun context => Render.Package.emit_defines context plan

/-- The bazaar has a service of each kind, and a channel for a signal of its workflow. -/
theorem bazaar_grounded :
    ∃ plan, build { strict := false } bazaar = .ok plan ∧
      plan.services.map ServicePlan.kind = [.activity, .workflow, .service] ∧
      plan.signalChannels.length = 1 ∧ IsGrounded bazaar plan := by
  have hproblems : (ledger { strict := false } bazaar).problems.isEmpty := by decide +kernel
  obtain ⟨plan, hbuild⟩ := exists_build hproblems
  have hgrounded := grounded_of_build hbuild
  have hkinds := congrArg (List.map Prod.fst) hgrounded.services
  rw [List.map_map, List.map_map] at hkinds
  refine ⟨plan, hbuild, hkinds, ?_, hgrounded⟩
  rw [signalChannels_eq hbuild]
  rfl

end PackagePlan

end ServiceGen
