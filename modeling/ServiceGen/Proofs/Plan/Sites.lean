import Mathlib.Data.List.Perm.Basic
import ServiceGen.Proofs.Plan.Constants

/-!
Where a plan refers to constants. A method names by a constant what it calls, and a registration, a
route and a signal channel name by one what they answer. All of these places that are produced for
an operation carry the constant of the operation, and the others carry that of their service or
none.
-/
namespace ServiceGen

/-- A place that can refer to a constant. -/
inductive Site where
  | method (role : InterfaceRole) (plan : MethodPlan)
  | registration (registration : Registration)
  | route (route : Route)
  | signalChannel (channel : SignalChannel)

def Site.constant? : Site → Option String
  | .method _ plan => plan.constant
  | .registration entry => some entry.constant
  | .route entry => some entry.constant
  | .signalChannel channel => some channel.constant

/-- Whether a place is a method that starts a workflow. -/
def Site.Starts : Site → Prop
  | .method _ plan => plan.kind = .execute ∨ plan.kind = .executeAsync
  | _ => False

def Interface.sites (interface : Interface) : List Site :=
  interface.methods.map (.method interface.role)

namespace ServicePlan

def name : ServicePlan → String
  | .activity plan => plan.service
  | .workflow plan => plan.service
  | .service plan => plan.service

def sites : ServicePlan → List Site
  | .activity plan => plan.proxy.sites ++ plan.registrations.map .registration
  | .workflow plan =>
    plan.run.sites ++ plan.childRun.sites ++ plan.externalRun.sites ++ plan.client.sites ++
      plan.childClient.sites ++
      (plan.controller.queries ++ plan.controller.updates).map .registration
  | .service plan => plan.routes.map .route

end ServicePlan

/-- All places of a plan that can refer to a constant. -/
def PackagePlan.sites (plan : PackagePlan) : List Site :=
  plan.services.flatMap ServicePlan.sites ++ plan.signalChannels.map .signalChannel

namespace Plan

open Convention

/-- The methods of a service that are there whatever its operations. -/
def fixedSites (service : Service) : List Site :=
  match service.kind with
  | .workflow =>
    (Workflow.runFixed service).map (.method .run) ++
      (Workflow.childRunFixed service).map (.method .childRun) ++
      Workflow.externalRunFixed.map (.method .externalRun) ++
      (Workflow.clientFixed service).map (.method .client) ++
      (Workflow.childClientFixed service).map (.method .childClient)
  | _ => []

/-- The methods for a signal in a handle that workflows get. -/
def signalSites (service : Service) (role : InterfaceRole) (operation : Operation) : List Site :=
  [.method role (Workflow.signalMethod service operation),
    .method role (Workflow.asyncSignalMethod service operation)]

/-- What is produced for an operation of a workflow, beside its methods for clients. -/
def kindSites (service : Service) (operation : Operation) : List Site :=
  match operation.kind with
  | .signal =>
    signalSites service .childRun operation ++ signalSites service .externalRun operation ++
      [.method .client (Workflow.executeWith service operation),
        .signalChannel (Workflow.signalChannel service operation)]
  | .query => [.registration (Workflow.registration service operation)]
  | .update => [.registration (Workflow.registration service operation)]
  | _ => []

/-- What is produced for an operation. -/
def operationSites (options : GenerationOptions) (package : Package) (service : Service)
    (operation : Operation) : List Site :=
  match service.kind with
  | .activity =>
    (Activity.proxyMethods service operation).map (.method .activityProxy) ++
      [.registration (Activity.registration service operation)]
  | .workflow =>
    (Workflow.runMethods service operation).map (.method .run) ++ kindSites service operation
  | .service =>
    (HttpService.operationRoutes options package service operation).map .route

def sitesOf (contribution : Contribution) : List Site :=
  contribution.plan.sites ++ contribution.signalChannels.map .signalChannel

/-- Whether places are, in some order, some fixed ones and those of some operations. -/
def Gathers (operations : List Operation) (sites fixed : List Site)
    (produced : Operation → List Site) : Prop :=
  sites.Perm (fixed ++ operations.flatMap produced)

theorem Gathers.append {operations : List Operation} {sites sites' fixed fixed' : List Site}
    {produced produced' : Operation → List Site} (h : Gathers operations sites fixed produced)
    (h' : Gathers operations sites' fixed' produced') :
    Gathers operations (sites ++ sites') (fixed ++ fixed')
      fun operation => produced operation ++ produced' operation := by
  have hproduced := List.flatMap_append_perm operations produced produced'
  have hmiddle : ((fixed ++ operations.flatMap produced) ++
      (fixed' ++ operations.flatMap produced')).Perm
        ((fixed ++ fixed') ++ (operations.flatMap produced ++ operations.flatMap produced')) := by
    rw [List.append_assoc, List.append_assoc]
    exact (List.perm_append_comm_assoc _ _ _).append_left fixed
  exact ((List.Perm.append h h').trans hmiddle).trans (hproduced.append_left _)

def producedFor (kind : OperationKind) (produced : Operation → List Site) (operation : Operation) :
    List Site :=
  if operation.kind = kind then produced operation else []

theorem flatMap_filter {α β : Type} (keep : α → Bool) (f : α → List β) (list : List α) :
    (list.filter keep).flatMap f = list.flatMap fun a => if keep a then f a else [] := by
  induction list with
  | nil => rfl
  | cons a rest ih =>
    by_cases hkeep : keep a = true
    · rw [List.filter_cons_of_pos hkeep, List.flatMap_cons, List.flatMap_cons, ih, if_pos hkeep]
    · rw [List.filter_cons_of_neg hkeep, List.flatMap_cons, ih, if_neg hkeep, List.nil_append]

theorem flatMap_usableOf (service : Service) (kind : OperationKind)
    (produced : Operation → List Site) :
    (Workflow.usableOf service kind).flatMap produced =
      (usable service).flatMap (producedFor kind produced) := by
  rw [Workflow.usableOf, flatMap_filter]
  apply List.flatMap_congr
  intro operation _
  simp [producedFor]

theorem map_usableOf (service : Service) (kind : OperationKind) (site : Operation → Site) :
    (Workflow.usableOf service kind).map site =
      (usable service).flatMap (producedFor kind fun operation => [site operation]) := by
  rw [← flatMap_usableOf, List.map_eq_flatMap]

section

variable (service : Service)

theorem gathers_run :
    Gathers (usable service) (Workflow.run service).sites
      ((Workflow.runFixed service).map (.method .run))
      fun operation => (Workflow.runMethods service operation).map (.method .run) := by
  rw [Gathers, Interface.sites, Workflow.run, Interface.of, List.map_append, List.map_flatMap]

theorem map_signalMethods (role : InterfaceRole) :
    (Workflow.signalMethods service).map (.method role) =
      (usable service).flatMap (producedFor .signal (signalSites service role)) := by
  rw [Workflow.signalMethods, List.map_flatMap, ← flatMap_usableOf]
  rfl

theorem gathers_childRun :
    Gathers (usable service) (Workflow.childRun service).sites
      ((Workflow.childRunFixed service).map (.method .childRun))
      (producedFor .signal (signalSites service .childRun)) := by
  rw [Gathers, Interface.sites, Workflow.childRun, Interface.of, List.map_append,
    map_signalMethods]

theorem gathers_externalRun :
    Gathers (usable service) (Workflow.externalRun service).sites
      (Workflow.externalRunFixed.map (.method .externalRun))
      (producedFor .signal (signalSites service .externalRun)) := by
  rw [Gathers, Interface.sites, Workflow.externalRun, Interface.of, List.map_append,
    map_signalMethods]

theorem gathers_client :
    Gathers (usable service) (Workflow.client service).sites
      ((Workflow.clientFixed service).map (.method .client))
      (producedFor .signal fun operation =>
        [.method .client (Workflow.executeWith service operation)]) := by
  rw [Gathers, Interface.sites, Workflow.client, Interface.of, List.map_append, List.map_map,
    map_usableOf]
  rfl

theorem gathers_childClient :
    Gathers (usable service) (Workflow.childClient service).sites
      ((Workflow.childClientFixed service).map (.method .childClient)) fun _ => [] := by
  have hnone : (usable service).flatMap (fun _ => ([] : List Site)) = [] :=
    List.flatMap_eq_nil_iff.mpr fun _ _ => rfl
  rw [Gathers, hnone, List.append_nil]
  rfl

theorem gathers_registrations (kind : OperationKind) :
    Gathers (usable service) ((Workflow.registrations service kind).map .registration) []
      (producedFor kind fun operation =>
        [.registration (Workflow.registration service operation)]) := by
  rw [Gathers, Workflow.registrations, List.map_map, map_usableOf, List.nil_append]
  rfl

theorem gathers_signalChannels :
    Gathers (usable service)
      (((Workflow.usableOf service .signal).map (Workflow.signalChannel service)).map
        .signalChannel) []
      (producedFor .signal fun operation =>
        [.signalChannel (Workflow.signalChannel service operation)]) := by
  rw [Gathers, List.map_map, map_usableOf, List.nil_append]
  rfl

theorem workflowSites_eq (operation : Operation) :
    (Workflow.runMethods service operation).map (.method .run) ++ kindSites service operation =
      ((Workflow.runMethods service operation).map (.method .run) ++
        producedFor .signal (signalSites service .childRun) operation ++
        producedFor .signal (signalSites service .externalRun) operation ++
        producedFor .signal (fun operation =>
          [.method .client (Workflow.executeWith service operation)]) operation ++ [] ++
        (producedFor .query (fun operation =>
            [.registration (Workflow.registration service operation)]) operation ++
          producedFor .update (fun operation =>
            [.registration (Workflow.registration service operation)]) operation)) ++
        producedFor .signal (fun operation =>
          [.signalChannel (Workflow.signalChannel service operation)]) operation := by
  cases hkind : operation.kind <;> simp [producedFor, kindSites, hkind]

/-- Nothing is produced for a mere method of a workflow. -/
theorem flatMap_workflowSites :
    ((usable service).filter (·.kind ≠ .method)).flatMap (fun operation =>
        (Workflow.runMethods service operation).map (.method .run) ++ kindSites service operation) =
      (usable service).flatMap fun operation =>
        (Workflow.runMethods service operation).map (.method .run) ++
          kindSites service operation := by
  rw [flatMap_filter]
  apply List.flatMap_congr
  intro operation _
  by_cases hkind : operation.kind = .method
  · simp [hkind, Workflow.runMethods, kindSites]
  · simp [hkind]

theorem perm_workflowSites :
    ((ServicePlan.workflow (Workflow.plan service)).sites ++
        ((Workflow.usableOf service .signal).map (Workflow.signalChannel service)).map
          Site.signalChannel).Perm
      (((Workflow.runFixed service).map (Site.method .run) ++
          (Workflow.childRunFixed service).map (Site.method .childRun) ++
          Workflow.externalRunFixed.map (Site.method .externalRun) ++
          (Workflow.clientFixed service).map (Site.method .client) ++
          (Workflow.childClientFixed service).map (Site.method .childClient)) ++
        ((usable service).filter (·.kind ≠ .method)).flatMap fun operation =>
          (Workflow.runMethods service operation).map (Site.method .run) ++
            kindSites service operation) := by
  have hplan : (ServicePlan.workflow (Workflow.plan service)).sites =
      (Workflow.run service).sites ++ (Workflow.childRun service).sites ++
        (Workflow.externalRun service).sites ++ (Workflow.client service).sites ++
        (Workflow.childClient service).sites ++
        ((Workflow.registrations service .query).map .registration ++
          (Workflow.registrations service .update).map .registration) := by
    rw [← List.map_append]
    rfl
  have hhandles := ((((gathers_run service).append (gathers_childRun service)).append
    (gathers_externalRun service)).append (gathers_client service)).append
    (gathers_childClient service)
  have hregistrations :=
    (gathers_registrations service .query).append (gathers_registrations service .update)
  have hall := (hhandles.append hregistrations).append (gathers_signalChannels service)
  rw [hplan, flatMap_workflowSites, funext (workflowSites_eq service)]
  apply List.Perm.trans hall
  simp only [List.append_nil, List.Perm.refl]

end

variable (options : GenerationOptions) (package : Package) (service : Service)

/-- The places of a service are its fixed ones and those that are produced for its generated
operations. -/
theorem perm_sitesOf :
    (sitesOf (Contribution.of options package service)).Perm
      (fixedSites service ++
        (generated service).flatMap (operationSites options package service)) := by
  unfold Contribution.of fixedSites generated operationSites
  cases service.kind with
  | service =>
    rw [sitesOf, HttpService.contribution, ServicePlan.sites, HttpService.plan, List.map_flatMap]
    exact .of_eq (List.append_nil _)
  | activity =>
    have hproxy : Gathers (usable service) (Activity.plan service).proxy.sites [] fun operation =>
        (Activity.proxyMethods service operation).map (.method .activityProxy) := by
      rw [Gathers, Interface.sites, Activity.plan, Interface.of, List.map_flatMap, List.nil_append]
    have hregistrations : Gathers (usable service)
        ((Activity.plan service).registrations.map .registration) [] fun operation =>
          [.registration (Activity.registration service operation)] := by
      rw [Gathers, Activity.plan, List.map_map, List.nil_append, List.map_eq_flatMap]
      rfl
    rw [sitesOf, Activity.contribution, ServicePlan.sites, List.map_nil, List.append_nil]
    exact hproxy.append hregistrations
  | workflow => exact perm_workflowSites service

theorem of_calling {role : InterfaceRole} {constant name response : String} {kind : MethodKind}
    {request : Option String} (hexecute : kind ≠ .execute) (hasync : kind ≠ .executeAsync) :
    (Site.method role (.calling constant name kind request response)).constant? = some constant ∧
      ¬ (Site.method role (.calling constant name kind request response)).Starts := by
  refine ⟨rfl, ?_⟩
  rintro (hkind | hkind)
  · exact hexecute hkind
  · exact hasync hkind

/-- Whatever is produced for an operation refers to its constant, and starts no workflow. -/
theorem of_mem_operationSites {operation : Operation} {site : Site}
    (hsite : site ∈ operationSites options package service operation) :
    site.constant? = some (Naming.operationConstant service.name operation.name) ∧
      ¬ site.Starts := by
  unfold operationSites at hsite
  cases hservice : service.kind with
  | activity =>
    simp only [hservice, Activity.proxyMethods, List.map_cons, List.map_nil, List.cons_append,
      List.nil_append, List.mem_cons, List.not_mem_nil, or_false] at hsite
    obtain rfl | rfl | rfl := hsite
    · exact of_calling (by simp) (by simp)
    · exact of_calling (by simp) (by simp)
    · exact ⟨rfl, id⟩
  | service =>
    simp only [hservice, HttpService.operationRoutes, List.map_map, List.mem_map] at hsite
    obtain ⟨method, -, rfl⟩ := hsite
    exact ⟨rfl, id⟩
  | workflow =>
    cases hkind : operation.kind <;>
      simp only [hservice, kindSites, signalSites, Workflow.runMethods, hkind, List.map_cons,
        List.map_nil, List.nil_append, List.cons_append, List.mem_cons, List.not_mem_nil,
        or_false] at hsite
    case query =>
      obtain rfl | rfl := hsite
      · exact of_calling (by simp) (by simp)
      · exact ⟨rfl, id⟩
    case update =>
      obtain rfl | rfl | rfl := hsite
      · exact of_calling (by simp) (by simp)
      · exact of_calling (by simp) (by simp)
      · exact ⟨rfl, id⟩
    case signal =>
      obtain rfl | rfl | rfl | rfl | rfl | rfl | rfl := hsite
      · exact of_calling (by simp) (by simp)
      · exact of_calling (by simp) (by simp)
      · exact of_calling (by simp) (by simp)
      · exact of_calling (by simp) (by simp)
      · exact of_calling (by simp) (by simp)
      · exact of_calling (by simp) (by simp)
      · exact ⟨rfl, id⟩

/-- A fixed method refers to the constant of its service if it starts a workflow, else to none. -/
theorem of_mem_fixedSites {site : Site} (hsite : site ∈ fixedSites service) :
    site.Starts ∧ site.constant? = some (Naming.serviceConstant service.name) ∨
      ¬ site.Starts ∧ site.constant? = none := by
  unfold fixedSites at hsite
  revert site
  cases service.kind with
  | activity => simp
  | service => simp
  | workflow =>
    -- the methods are plain but for the three that start a workflow
    simp [Workflow.runFixed, Workflow.childRunFixed, Workflow.externalRunFixed,
      Workflow.clientFixed, Workflow.childClientFixed, Workflow.starting, MethodPlan.plain,
      MethodPlan.calling, Site.Starts, Site.constant?, or_imp, forall_and]

end Plan

end ServiceGen
