import ServiceGen.Proofs.Plan.Fates

/-!
What each service has to itself in the plan of its package. Every list of a plan is put together of
the shares of its services, in their order, and a share depends on no other service. The services
only meet in the names of their constants, and where these meet there is a problem: with fewer
services there are fewer problems. So a package without one of its services has the same plan, from
which the share of that service is taken out.
-/
namespace ServiceGen

/-- What services add to the lists of a plan. -/
structure Share where
  constants : List Constant
  signalChannels : List SignalChannel
  services : List ServicePlan
  gathering : Gathering
  omissions : List Omission

instance : Append Gathering where
  append front back :=
    { workflowClients := front.workflowClients ++ back.workflowClients
      workflowProxies := front.workflowProxies ++ back.workflowProxies
      activityProxies := front.activityProxies ++ back.activityProxies
      controllers := front.controllers ++ back.controllers }

instance : Append Share where
  append front back :=
    { constants := front.constants ++ back.constants
      signalChannels := front.signalChannels ++ back.signalChannels
      services := front.services ++ back.services
      gathering := front.gathering ++ back.gathering
      omissions := front.omissions ++ back.omissions }

/-- The package with other services. -/
def Package.withServices (package : Package) (services : List Service) : Package :=
  { package with services }

namespace Share

/-- What some services of a package add to its plan, one after the other. -/
def of (options : GenerationOptions) (package : Package) (services : List Service) : Share :=
  let contributions := services.map (Contribution.of options package)
  { constants := services.flatMap fun service => Plan.ownConstants options package service ++
      (Plan.generated service).map (Plan.Convention.operationConstant package service)
    signalChannels := contributions.flatMap Contribution.signalChannels
    services := contributions.map Contribution.plan
    gathering := PackagePlan.gather contributions
    omissions := contributions.flatMap Contribution.omissions }

variable (options : GenerationOptions) (package : Package)

theorem of_append (front back : List Service) :
    of options package (front ++ back) = of options package front ++ of options package back := by
  simp only [of, PackagePlan.gather, List.map_append, List.flatMap_append]
  rfl

/-- What a service adds to a package does not depend on the other services. -/
theorem contribution_withServices (others : List Service) :
    Contribution.of options (package.withServices others) = Contribution.of options package := by
  funext service
  unfold Contribution.of
  cases service.kind <;> rfl

theorem of_withServices (others services : List Service) :
    of options (package.withServices others) services = of options package services := by
  unfold of
  rw [contribution_withServices]
  rfl

end Share

namespace Ledger

/-- Of demands that leave no problem, some leave none either: behind fewer demands, no more names
are taken. -/
theorem problems_of_sublist {demands few : List Demand} (hsublist : few.Sublist demands)
    {ledger smaller : Ledger}
    (hnames : smaller.constants.map Constant.name ⊆ ledger.constants.map Constant.name)
    (hsmaller : smaller.problems = [])
    (hproblems : (demands.foldl enter ledger).problems = []) :
    (few.foldl enter smaller).problems = [] := by
  induction hsublist generalizing ledger smaller with
  | slnil => exact hsmaller
  | cons demand _ ih =>
    obtain ⟨-, constant, -, -, henter⟩ := enter_of_problems_nil (problems_of_foldl hproblems)
    refine ih ?_ hsmaller hproblems
    rw [henter, List.map_append]
    exact List.subset_append_of_subset_left _ hnames
  | cons_cons demand _ ih =>
    obtain ⟨-, constant, rfl, hnew, henter⟩ :=
      enter_of_problems_nil (problems_of_foldl hproblems)
    have hnone : smaller.constants.find? (·.name == constant.name) = none := by
      rw [List.find?_eq_none]
      intro taken htaken hname
      exact hnew (hnames (List.mem_map.mpr ⟨taken, htaken, by simpa using hname⟩))
    have hentered : smaller.enter (.constant constant) =
        { smaller with constants := smaller.constants ++ [constant] } := by
      simp only [enter, hnone]
    refine ih ?_ ?_ hproblems
    · rw [hentered, henter, List.map_append, List.map_append]
      exact List.append_subset.mpr
        ⟨List.subset_append_of_subset_left _ hnames, List.subset_append_right _ _⟩
    · rw [hentered]
      exact hsmaller

end Ledger

namespace PackagePlan

/-- The plan of a package to which services add a share. -/
def ofShare (package : Package) (share : Share) : PackagePlan :=
  { package := package.name
    sourcePath := package.sourcePath
    constants := ⟨Naming.packageConstant, package.name⟩ :: share.constants
    signalChannels := share.signalChannels
    services := share.services
    gathering := share.gathering
    omissions := share.omissions }

variable {options : GenerationOptions} {package : Package} {plan : PackagePlan}

theorem eq_ofShare_of_build (hbuild : build options package = .ok plan) :
    plan = ofShare package (.of options package package.services) := by
  have hconstants := (constants_of_build hbuild).1
  obtain ⟨-, rfl⟩ := eq_of_build hbuild
  unfold ofShare
  congr 1

/-- A package that has a plan has one with some of its services only, and each of these adds the
same. -/
theorem build_of_sublist (hbuild : build options package = .ok plan) {few : List Service}
    (hsublist : few.Sublist package.services) :
    build options (package.withServices few) =
      .ok (ofShare package (.of options package few)) := by
  have hcontributions : contributions options (package.withServices few) =
      few.map (Contribution.of options package) := by
    rw [contributions, Share.contribution_withServices]
    rfl
  have hdemands : ((contributions options (package.withServices few)).flatMap
      Contribution.demands).Sublist ((contributions options package).flatMap
        Contribution.demands) := by
    rw [hcontributions]
    exact (hsublist.map _).flatMap _
  have hproblems : (ledger options (package.withServices few)).problems = [] :=
    Ledger.problems_of_sublist hdemands (List.Subset.refl _) rfl (of_build hbuild).1
  obtain ⟨part, hpart⟩ := exists_build (List.isEmpty_iff.mpr hproblems)
  rw [hpart, eq_ofShare_of_build hpart, Share.of_withServices]
  rfl

/-- Services do not influence each other. Without one of its services a package has the same plan,
from which exactly that is taken out which is planned for the service alone. -/
theorem build_without_service (hbuild : build options package = .ok plan)
    {before after : List Service} {service : Service}
    (hservices : package.services = before ++ service :: after) :
    ∃ front own back : Share,
      build options (package.withServices before) = .ok (ofShare package front) ∧
      build options (package.withServices [service]) = .ok (ofShare package own) ∧
      own.services.map ServicePlan.name = [service.name] ∧
      build options (package.withServices after) = .ok (ofShare package back) ∧
      plan = ofShare package (front ++ own ++ back) ∧
      build options (package.withServices (before ++ after)) =
        .ok (ofShare package (front ++ back)) := by
  have hsplit : package.services = before ++ [service] ++ after := by
    rw [hservices, List.append_assoc, List.singleton_append]
  have hfront : before.Sublist package.services := by
    rw [hservices]
    exact List.sublist_append_left _ _
  have hown : [service].Sublist package.services := by
    rw [hservices]
    exact List.singleton_sublist.mpr (List.mem_append_right _ List.mem_cons_self)
  have hback : after.Sublist package.services := by
    rw [hsplit]
    exact List.sublist_append_right _ _
  have hothers : (before ++ after).Sublist package.services := by
    rw [hservices]
    exact List.Sublist.append_left (List.sublist_cons_self _ _) _
  have hname : ((Share.of options package [service]).services.map ServicePlan.name) =
      [service.name] := congrArg (fun name => [name]) (name_of_contribution service)
  refine ⟨_, _, _, build_of_sublist hbuild hfront, build_of_sublist hbuild hown, hname,
    build_of_sublist hbuild hback, ?_, ?_⟩
  · rw [eq_ofShare_of_build hbuild, hsplit, Share.of_append, Share.of_append]
  · rw [build_of_sublist hbuild hothers, Share.of_append]

/-- The workflow of the bazaar, which has two of the three operations that are left out, can be
removed from between the other services. -/
theorem bazaar_without_deal :
    ∃ plan scales deal gate, build { strict := false } bazaar = .ok plan ∧
      bazaar.services = [scales] ++ deal :: [gate] ∧ deal.name = "Deal" ∧
      ∃ front own back : Share,
        build { strict := false } (bazaar.withServices [deal]) = .ok (ofShare bazaar own) ∧
        own.services.map ServicePlan.name = ["Deal"] ∧
        plan = ofShare bazaar (front ++ own ++ back) ∧
        build { strict := false } (bazaar.withServices [scales, gate]) =
          .ok (ofShare bazaar (front ++ back)) := by
  have hproblems : (ledger { strict := false } bazaar).problems.isEmpty := by decide +kernel
  obtain ⟨plan, hbuild⟩ := exists_build hproblems
  obtain ⟨scales, deal, gate, hservices, hname⟩ : ∃ scales deal gate,
      bazaar.services = [scales] ++ deal :: [gate] ∧ deal.name = "Deal" :=
    ⟨_, _, _, rfl, rfl⟩
  obtain ⟨front, own, back, -, hown, hnames, -, hplan, hothers⟩ :=
    build_without_service hbuild hservices
  exact ⟨plan, scales, deal, gate, hbuild, hservices, hname, front, own, back, hown,
    hname ▸ hnames, hplan, hothers⟩

end PackagePlan

end ServiceGen
