import ServiceGen.Proofs.Plan.Constants

/-!
The types of a plan. A plan has the texts of all types that its code needs, and each of them is
declared by an operation of the package or stands for nothing.
-/
namespace ServiceGen

/-- The texts of the types that an operation declares. -/
def Operation.types (operation : Operation) : List String :=
  (operation.params ++ operation.results).map Param.type

/-- The texts of the types that the operations of a service declare, and the one for nothing. -/
def Service.types (service : Service) : List String :=
  unitType :: service.operations.flatMap Operation.types

def UserCall.types (call : UserCall) : List String := call.context.toList ++ call.request.toList

def Registration.types (registration : Registration) : List String := registration.call.types

def MethodKind.types : MethodKind → List String
  | .executeWithSignal text => [text]
  | _ => []

def MethodPlan.types (method : MethodPlan) : List String :=
  method.request.toList ++ [method.response] ++ method.kind.types

def Interface.types (interface : Interface) : List String :=
  interface.methods.flatMap MethodPlan.types

/-- The types in the handlers of a workflow. Its entrance has none beside those of the workflow. -/
def WorkflowController.types (controller : WorkflowController) : List String :=
  controller.queries.flatMap Registration.types ++ controller.updates.flatMap Registration.types

def WorkflowPlan.types (plan : WorkflowPlan) : List String :=
  [plan.request, plan.response] ++ plan.run.types ++ plan.childRun.types ++
    plan.externalRun.types ++ plan.client.types ++ plan.childClient.types ++
    plan.input.channels.map InputChannel.request ++ plan.controller.types

def ServicePlan.types : ServicePlan → List String
  | .activity plan => plan.proxy.types ++ plan.registrations.flatMap Registration.types
  | .workflow plan => plan.types
  | .service plan => plan.routes.flatMap fun route => route.call.types

/-- The texts of all types that the code of a package needs. -/
def PackagePlan.types (plan : PackagePlan) : List String :=
  plan.signalChannels.map SignalChannel.request ++ plan.services.flatMap ServicePlan.types

namespace Operation

variable {operation : Operation} {param : Param}

theorem mem_params_of_request? (hrequest : operation.request? = some param) :
    param ∈ operation.params := by
  unfold request? at hrequest
  split at hrequest <;> exact List.mem_of_getElem? hrequest

theorem mem_params_of_context? (hcontext : operation.context? = some param) :
    param ∈ operation.params := by
  unfold context? at hcontext
  split at hcontext
  · cases hcontext
  · exact List.mem_of_getElem? hcontext

end Operation

/-! What is planned for a service has the types of the service -/

namespace Plan

open Convention

variable {service : Service} {operation : Operation}

theorem type_mem_types (hoperation : operation ∈ service.operations) {param : Param}
    (hparam : param ∈ operation.params ++ operation.results) : param.type ∈ service.types :=
  List.mem_cons_of_mem _
    (List.mem_flatMap.mpr ⟨operation, hoperation, List.mem_map_of_mem hparam⟩)

theorem unitType_mem : unitType ∈ service.types := List.mem_cons_self

theorem request?_subset (hoperation : operation ∈ service.operations) :
    (operation.request?.map Param.type).toList ⊆ service.types := by
  cases hrequest : operation.request? with
  | none => simp
  | some param =>
    have hparam := Operation.mem_params_of_request? hrequest
    simpa using type_mem_types hoperation (List.mem_append_left _ hparam)

theorem context?_subset (hoperation : operation ∈ service.operations) :
    (operation.context?.map Param.type).toList ⊆ service.types := by
  cases hcontext : operation.context? with
  | none => simp
  | some param =>
    have hparam := Operation.mem_params_of_context? hcontext
    simpa using type_mem_types hoperation (List.mem_append_left _ hparam)

theorem requestType_mem (hoperation : operation ∈ service.operations) :
    operation.requestType ∈ service.types := by
  rw [Operation.requestType]
  cases hrequest : operation.request?.map Param.type with
  | none => exact unitType_mem
  | some text => exact request?_subset hoperation (by simp [hrequest])

theorem responseType_mem (hoperation : operation ∈ service.operations) :
    operation.responseType ∈ service.types := by
  rw [Operation.responseType]
  cases hresponse : operation.response? with
  | none => exact unitType_mem
  | some param =>
    exact type_mem_types hoperation (List.mem_append_right _ (List.mem_of_getElem? hresponse))

theorem userCall_subset (hoperation : operation ∈ service.operations) :
    (UserCall.of operation).types ⊆ service.types :=
  List.append_subset.mpr ⟨context?_subset hoperation, request?_subset hoperation⟩

theorem mem_of_usable (hoperation : operation ∈ usable service) :
    operation ∈ service.operations := (List.mem_filter.mp hoperation).1

theorem flatMap_subset {α : Type} {types : α → List String} {list : List α} {all : List String}
    (hlist : ∀ a ∈ list, types a ⊆ all) : list.flatMap types ⊆ all := by
  intro text htext
  obtain ⟨a, ha, htext⟩ := List.mem_flatMap.mp htext
  exact hlist a ha htext

theorem method_subset {method : MethodPlan} (hrequest : method.request.toList ⊆ service.types)
    (hresponse : method.response ∈ service.types) (hkind : method.kind.types ⊆ service.types) :
    method.types ⊆ service.types :=
  List.append_subset.mpr ⟨List.append_subset.mpr
    ⟨hrequest, List.cons_subset.mpr ⟨hresponse, List.nil_subset _⟩⟩, hkind⟩

theorem plain_subset {name response : String} {kind : MethodKind}
    (hresponse : response ∈ service.types) (hkind : kind.types = []) :
    (MethodPlan.plain name kind response).types ⊆ service.types :=
  method_subset (List.nil_subset _) hresponse (hkind ▸ List.nil_subset _)

theorem registrations_subset {operations : List Operation} {constantOf : Operation → String}
    (hoperations : operations ⊆ service.operations) :
    (operations.map fun operation =>
      (⟨constantOf operation, .of operation⟩ : Registration)).flatMap Registration.types ⊆
        service.types := by
  rw [List.flatMap_map]
  exact flatMap_subset fun operation hoperation => userCall_subset (hoperations hoperation)

namespace Activity

theorem types_subset (service : Service) :
    (ServicePlan.activity (plan service)).types ⊆ service.types := by
  refine List.append_subset.mpr ⟨flatMap_subset fun method hmethod => ?_, ?_⟩
  · obtain ⟨operation, hoperation, hmethod⟩ := List.mem_flatMap.mp hmethod
    have hoperation := mem_of_usable hoperation
    simp only [proxyMethods, List.mem_cons, List.not_mem_nil, or_false] at hmethod
    obtain rfl | rfl := hmethod
    · exact method_subset (request?_subset hoperation) (responseType_mem hoperation)
        (List.nil_subset _)
    · exact method_subset (request?_subset hoperation) (responseType_mem hoperation)
        (List.nil_subset _)
  · exact registrations_subset fun _ => mem_of_usable

end Activity

namespace HttpService

theorem types_subset (options : GenerationOptions) (package : Package) (service : Service) :
    (ServicePlan.service (plan options package service)).types ⊆ service.types := by
  refine flatMap_subset fun route hroute => ?_
  obtain ⟨operation, hoperation, hroute⟩ := List.mem_flatMap.mp hroute
  obtain ⟨method, -, rfl⟩ := List.mem_map.mp hroute
  exact userCall_subset (mem_of_usable hoperation)

end HttpService

namespace Workflow

theorem mem_of_usableOf {kind : OperationKind} (hoperation : operation ∈ usableOf service kind) :
    operation ∈ service.operations := mem_of_usable (List.mem_filter.mp hoperation).1

theorem mem_of_entrance? (hentrance : entrance? service = some operation) :
    operation ∈ service.operations := mem_of_usableOf (List.mem_of_mem_head? hentrance)

theorem requestOf_mem (service : Service) : requestOf service ∈ service.types := by
  rw [requestOf]
  cases hentrance : entrance? service with
  | none => exact unitType_mem
  | some operation => exact requestType_mem (mem_of_entrance? hentrance)

theorem responseOf_mem (service : Service) : responseOf service ∈ service.types := by
  rw [responseOf]
  cases hentrance : entrance? service with
  | none => exact unitType_mem
  | some operation => exact responseType_mem (mem_of_entrance? hentrance)

theorem starting_subset {name : String} {kind : MethodKind} (hkind : kind.types = []) :
    (starting service name kind).types ⊆ service.types :=
  method_subset (List.cons_subset.mpr ⟨requestOf_mem service, List.nil_subset _⟩)
    (responseOf_mem service) (hkind ▸ List.nil_subset _)

theorem signalMethod_subset (hoperation : operation ∈ service.operations) :
    (signalMethod service operation).types ⊆ service.types :=
  method_subset (request?_subset hoperation) unitType_mem (List.nil_subset _)

theorem signalMethods_subset (service : Service) :
    (signalMethods service).flatMap MethodPlan.types ⊆ service.types := by
  refine flatMap_subset fun method hmethod => ?_
  obtain ⟨operation, hoperation, hmethod⟩ := List.mem_flatMap.mp hmethod
  have hoperation := mem_of_usableOf hoperation
  simp only [List.mem_cons, List.not_mem_nil, or_false] at hmethod
  obtain rfl | rfl := hmethod
  · exact signalMethod_subset hoperation
  · exact method_subset (request?_subset hoperation) unitType_mem (List.nil_subset _)

theorem runMethods_subset (hoperation : operation ∈ service.operations) :
    ∀ method ∈ runMethods service operation, method.types ⊆ service.types := by
  have hrequest := request?_subset hoperation
  have hresponse := responseType_mem hoperation
  unfold runMethods
  cases operation.kind with
  | query => exact List.forall_mem_singleton.mpr (method_subset hrequest hresponse nofun)
  | update =>
    exact List.forall_mem_cons.mpr ⟨method_subset hrequest hresponse nofun,
      List.forall_mem_singleton.mpr (method_subset hrequest hresponse nofun)⟩
  | signal => exact List.forall_mem_singleton.mpr (signalMethod_subset hoperation)
  | method | execute => exact nofun

theorem run_subset (service : Service) : (run service).types ⊆ service.types := by
  have hfixed : ∀ method ∈ runFixed service, method.types ⊆ service.types := by
    simp only [runFixed, List.forall_mem_cons]
    exact ⟨plain_subset unitType_mem rfl, plain_subset unitType_mem rfl,
      plain_subset (responseOf_mem service) rfl, nofun⟩
  refine flatMap_subset fun method hmethod => ?_
  obtain hmethod | hmethod := List.mem_append.mp hmethod
  · exact hfixed method hmethod
  · obtain ⟨operation, hoperation, hmethod⟩ := List.mem_flatMap.mp hmethod
    exact runMethods_subset (mem_of_usable hoperation) method hmethod

theorem childRun_subset (service : Service) : (childRun service).types ⊆ service.types := by
  have hfixed : ∀ method ∈ childRunFixed service, method.types ⊆ service.types := by
    have hunit {name kind} (hkind : MethodKind.types kind = []) :
        (MethodPlan.plain name kind unitType).types ⊆ service.types :=
      plain_subset unitType_mem hkind
    have hresponse {name kind} (hkind : MethodKind.types kind = []) :
        (MethodPlan.plain name kind (responseOf service)).types ⊆ service.types :=
      plain_subset (responseOf_mem service) hkind
    simp only [childRunFixed, List.forall_mem_cons]
    exact ⟨hunit rfl, hunit rfl, hunit rfl, hresponse rfl, hunit rfl, hresponse rfl, hunit rfl,
      nofun⟩
  rw [childRun, Interface.of, Interface.types, List.flatMap_append]
  exact List.append_subset.mpr ⟨flatMap_subset hfixed, signalMethods_subset service⟩

theorem externalRun_subset (service : Service) : (externalRun service).types ⊆ service.types := by
  have hfixed : ∀ method ∈ externalRunFixed, method.types ⊆ service.types := by
    simp only [externalRunFixed, List.forall_mem_cons]
    exact ⟨plain_subset unitType_mem rfl, plain_subset unitType_mem rfl,
      plain_subset unitType_mem rfl, nofun⟩
  rw [externalRun, Interface.of, Interface.types, List.flatMap_append]
  exact List.append_subset.mpr ⟨flatMap_subset hfixed, signalMethods_subset service⟩

theorem client_subset (service : Service) : (client service).types ⊆ service.types := by
  have hfixed : ∀ method ∈ clientFixed service, method.types ⊆ service.types := by
    simp only [clientFixed, List.forall_mem_cons]
    exact ⟨starting_subset rfl, plain_subset (responseOf_mem service) rfl, nofun⟩
  rw [client, Interface.of, Interface.types, List.flatMap_append, List.flatMap_map]
  refine List.append_subset.mpr
    ⟨flatMap_subset hfixed, flatMap_subset fun operation hoperation => ?_⟩
  have hsignal := requestType_mem (mem_of_usableOf hoperation)
  exact method_subset (List.cons_subset.mpr ⟨requestOf_mem service, List.nil_subset _⟩)
    (responseOf_mem service) (List.cons_subset.mpr ⟨hsignal, List.nil_subset _⟩)

theorem childClient_subset (service : Service) : (childClient service).types ⊆ service.types := by
  have hfixed : ∀ method ∈ childClientFixed service, method.types ⊆ service.types := by
    simp only [childClientFixed, List.forall_mem_cons]
    exact ⟨starting_subset rfl, starting_subset rfl, plain_subset unitType_mem rfl, nofun⟩
  exact flatMap_subset hfixed

theorem types_subset (service : Service) : (plan service).types ⊆ service.types := by
  have hresult : [requestOf service, responseOf service] ⊆ service.types :=
    List.cons_subset.mpr ⟨requestOf_mem service,
      List.cons_subset.mpr ⟨responseOf_mem service, List.nil_subset _⟩⟩
  have hchannels : (input service).channels.map InputChannel.request ⊆ service.types := by
    rw [input, List.map_map]
    rintro _ hrequest
    obtain ⟨operation, hoperation, rfl⟩ := List.mem_map.mp hrequest
    exact requestType_mem (mem_of_usableOf hoperation)
  have hcontroller : (controller service).types ⊆ service.types :=
    List.append_subset.mpr ⟨registrations_subset fun _ => mem_of_usableOf,
      registrations_subset fun _ => mem_of_usableOf⟩
  simp only [WorkflowPlan.types, List.append_subset]
  exact ⟨⟨⟨⟨⟨⟨⟨hresult, run_subset service⟩, childRun_subset service⟩, externalRun_subset service⟩,
    client_subset service⟩, childClient_subset service⟩, hchannels⟩, hcontroller⟩

end Workflow

theorem contribution_subset (options : GenerationOptions) (package : Package) (service : Service) :
    (Contribution.of options package service).signalChannels.map SignalChannel.request ++
      (Contribution.of options package service).plan.types ⊆ service.types := by
  unfold Contribution.of
  cases service.kind with
  | activity => exact Activity.types_subset service
  | service => exact HttpService.types_subset options package service
  | workflow =>
    refine List.append_subset.mpr ⟨?_, Workflow.types_subset service⟩
    rw [Workflow.contribution, List.map_map]
    rintro _ hrequest
    obtain ⟨operation, hoperation, rfl⟩ := List.mem_map.mp hrequest
    exact requestType_mem (Workflow.mem_of_usableOf hoperation)

end Plan

namespace PackagePlan

variable {options : GenerationOptions} {package : Package} {plan : PackagePlan}

/-- Every type in the plan of a package is declared by an operation, or stands for nothing. -/
theorem types_of_build (hbuild : build options package = .ok plan) :
    plan.types ⊆ package.services.flatMap Service.types := by
  obtain ⟨-, -, hservices, hchannels⟩ := of_build hbuild
  have hcontribution service (hservice : service ∈ package.services) :
      (Contribution.of options package service).signalChannels.map SignalChannel.request ++
        (Contribution.of options package service).plan.types ⊆
      package.services.flatMap Service.types := fun _ htext =>
    List.mem_flatMap.mpr
      ⟨service, hservice, Plan.contribution_subset options package service htext⟩
  rw [PackagePlan.types, hservices, hchannels, List.flatMap_map, List.map_flatMap]
  refine List.append_subset.mpr ⟨?_, ?_⟩
  · exact Plan.flatMap_subset fun service hservice =>
      (List.append_subset.mp (hcontribution service hservice)).1
  · exact Plan.flatMap_subset fun service hservice =>
      (List.append_subset.mp (hcontribution service hservice)).2

end PackagePlan

end ServiceGen
