import Mathlib.Data.List.Forall2
import ServiceGen.Proofs.Plan.Resolution

/-!
What is passed under a name. Whoever calls an operation and whoever answers it find each other by
the constant that holds its name, and nothing checks at run time that they mean the same types.
They do: for each constant of a package, the methods that refer to it, the handlers that are
registered for it and the channels that stand for it all have the types that the operation declares.
No two operations share a constant, so these are all that refer to it.
-/
namespace ServiceGen

/-- What a method does, the type of the request that it passes on, and that of the answer. -/
structure Exchange where
  kind : MethodKind
  request : Option String
  response : String
  deriving DecidableEq

/-- The type of what is passed if there may be no request: the empty tuple stands for none. -/
def payload (request : Option String) : String := request.getD unitType

namespace MethodPlan

def exchange (method : MethodPlan) : Exchange := ⟨method.kind, method.request, method.response⟩

end MethodPlan

/-- Whether a method answers the result of a workflow, or a handle from which the result can be
had. The handle to an external run has no result. -/
def MethodKind.answersResult : MethodKind → Bool
  | .get | .select | .execute | .executeAsync | .getHandle | .executeWithSignal _ => true
  | _ => false

namespace Interface

/-- The methods that refer to a constant. -/
def referring (interface : Interface) (constant : String) : List MethodPlan :=
  interface.methods.filter (·.constant == some constant)

def exchanges (interface : Interface) (constant : String) : List Exchange :=
  (interface.referring constant).map MethodPlan.exchange

/-- The methods that answer the result of a workflow, each with the type of the answer. -/
def answers (interface : Interface) : List (MethodKind × String) :=
  (interface.methods.filter (·.kind.answersResult)).map fun method =>
    (method.kind, method.response)

end Interface

/-- The requests of the handlers that are registered for a constant. -/
def handled (registrations : List Registration) (constant : String) : List (Option String) :=
  (registrations.filter (·.constant == constant)).map (·.call.request)

/-- The channels for a constant, each with its function and the type of the signal. -/
def PackagePlan.channels (plan : PackagePlan) (constant : String) : List (String × String) :=
  (plan.signalChannels.filter (·.constant == constant)).map fun channel =>
    (channel.provider, channel.request)

/-- An operation of an activity has two methods and one handler, with the same types. -/
structure ActivityPlan.Agrees (plan : ActivityPlan) (constant : String) (request : Option String)
    (response : String) : Prop where
  proxy : plan.proxy.exchanges constant =
    [⟨.call, request, response⟩, ⟨.callAsync, request, response⟩]
  handler : handled plan.registrations constant = [request]

namespace WorkflowPlan

structure QueryAgrees (plan : WorkflowPlan) (constant : String) (request : Option String)
    (response : String) : Prop where
  run : plan.run.exchanges constant = [⟨.query, request, response⟩]
  handler : handled plan.controller.queries constant = [request]

structure UpdateAgrees (plan : WorkflowPlan) (constant : String) (request : Option String)
    (response : String) : Prop where
  run : plan.run.exchanges constant =
    [⟨.update, request, response⟩, ⟨.updateAsync, request, response⟩]
  handler : handled plan.controller.updates constant = [request]

/-- A signal can be sent from all handles and with the start of the workflow, and it arrives in one
channel of the input. Where there is no request, the empty tuple is sent and received. -/
structure SignalAgrees (plan : WorkflowPlan) (package : PackagePlan) (constant : String)
    (request : Option String) (channel : InputChannel) : Prop where
  run : plan.run.exchanges constant = [⟨.signal, request, unitType⟩]
  childRun : plan.childRun.exchanges constant =
    [⟨.signal, request, unitType⟩, ⟨.signalAsync, request, unitType⟩]
  externalRun : plan.externalRun.exchanges constant =
    [⟨.signal, request, unitType⟩, ⟨.signalAsync, request, unitType⟩]
  client : plan.client.exchanges constant =
    [⟨.executeWithSignal (payload request), some plan.request, plan.response⟩]
  provider : package.channels constant = [(channel.provider, payload request)]
  input : channel.request = payload request

/-- Whatever starts the workflow passes on the request that its input and its entrance take, and all
that answers its result answers it in the same type. -/
structure EntranceAgrees (plan : WorkflowPlan) (request response : String) (signals : List String) :
    Prop where
  request_eq : plan.request = request
  response_eq : plan.response = response
  client : plan.client.exchanges plan.nameConstant = [⟨.execute, some request, response⟩]
  childClient : plan.childClient.exchanges plan.nameConstant =
    [⟨.execute, some request, response⟩, ⟨.executeAsync, some request, response⟩]
  input : plan.input.request = request
  entrance : payload (plan.controller.execute.bind UserCall.request) = request
  runAnswers : plan.run.answers = [(.get, response)]
  childRunAnswers : plan.childRun.answers = [(.get, response), (.select, response)]
  externalRunAnswers : plan.externalRun.answers = []
  clientAnswers : plan.client.answers = (.execute, response) :: (.getHandle, response) ::
    signals.map fun signal => (.executeWithSignal signal, response)
  childClientAnswers : plan.childClient.answers =
    [(.execute, response), (.executeAsync, response)]

end WorkflowPlan

/-- The type of the request as declared, if there is one. -/
def Operation.declaredRequest? (operation : Operation) : Option String :=
  operation.request?.map Param.type

namespace Plan

open Convention

/-- The two sides of everything that has a name in a service agree. The handlers of a plain service
are called from outside, so that it has one side only. -/
def SidesAgree (plan : PackagePlan) (service : Service) : ServicePlan → Prop
  | .activity activity => service.kind = .activity ∧
    ∀ operation ∈ usable service,
      activity.Agrees (Naming.operationConstant service.name operation.name)
        operation.declaredRequest? operation.responseType
  | .workflow workflow => service.kind = .workflow ∧
    workflow.EntranceAgrees (Workflow.requestOf service) (Workflow.responseOf service)
      ((Workflow.usableOf service .signal).map Operation.requestType) ∧
    (∀ operation ∈ Workflow.usableOf service .query,
      workflow.QueryAgrees (Workflow.constantOf service operation) operation.declaredRequest?
        operation.responseType) ∧
    (∀ operation ∈ Workflow.usableOf service .update,
      workflow.UpdateAgrees (Workflow.constantOf service operation) operation.declaredRequest?
        operation.responseType) ∧
    List.Forall₂ (fun operation channel =>
        workflow.SignalAgrees plan (Workflow.constantOf service operation)
          operation.declaredRequest? channel)
      (Workflow.usableOf service .signal) workflow.input.channels
  | .service _ => service.kind = .service

/-- Of what several elements with distinct keys produce, that with the key of one of them is what
this one produces. -/
theorem filter_flatMap_key {α β γ : Type} [BEq γ] [LawfulBEq γ] {key : α → γ} {of : β → γ}
    {produced : α → List β} {list : List α} (hdistinct : (list.map key).Nodup)
    (hof : ∀ a ∈ list, ∀ b ∈ produced a, of b = key a) {a : α} (ha : a ∈ list) :
    (list.flatMap produced).filter (of · == key a) = produced a := by
  induction list with
  | nil => exact absurd ha List.not_mem_nil
  | cons head rest ih =>
    rw [List.map_cons, List.nodup_cons] at hdistinct
    obtain ⟨hhead, hrest⟩ := hdistinct
    rw [List.flatMap_cons, List.filter_append]
    obtain rfl | htail := List.mem_cons.mp ha
    · have hown : (produced a).filter (of · == key a) = produced a := by
        rw [List.filter_eq_self]
        intro b hb
        rw [hof a List.mem_cons_self b hb, beq_self_eq_true]
      have hothers : (rest.flatMap produced).filter (of · == key a) = [] := by
        rw [List.filter_eq_nil_iff]
        intro b hb heq
        obtain ⟨other, hother, hproduced⟩ := List.mem_flatMap.mp hb
        rw [hof other (List.mem_cons_of_mem _ hother) b hproduced, beq_iff_eq] at heq
        exact hhead (heq ▸ List.mem_map_of_mem hother)
      rw [hown, hothers, List.append_nil]
    · have hnone : (produced head).filter (of · == key a) = [] := by
        rw [List.filter_eq_nil_iff]
        intro b hb heq
        rw [hof head List.mem_cons_self b hb, beq_iff_eq] at heq
        exact hhead (heq ▸ List.mem_map_of_mem htail)
      rw [hnone, List.nil_append]
      exact ih hrest (fun other hother => hof other (List.mem_cons_of_mem _ hother)) htail

/-- What tells elements apart that are told apart by their keys. -/
theorem nodup_map_of_keys {α β γ : Type} {key : α → γ} {f : α → β} {list : List α}
    (hdistinct : (list.map key).Nodup)
    (hkeys : ∀ a ∈ list, ∀ b ∈ list, f a = f b → key a = key b) : (list.map f).Nodup := by
  refine List.Nodup.map_on ?_ (List.Nodup.of_map _ hdistinct)
  intro a ha b hb heq
  exact List.inj_on_of_nodup_map hdistinct ha hb (hkeys a ha b hb heq)

/-- The constants that a service has to itself: one for each generated operation, none of which is
that of the service. -/
structure OwnNames (service : Service) : Prop where
  distinct : ((generated service).map (Workflow.constantOf service)).Nodup
  notService : Naming.serviceConstant service.name ∉
    (generated service).map (Workflow.constantOf service)

theorem OwnNames.ne {service : Service} (hnames : OwnNames service) {operation : Operation}
    (hoperation : operation ∈ generated service) :
    Workflow.constantOf service operation ≠ Naming.serviceConstant service.name := by
  intro heq
  exact hnames.notService (heq ▸ List.mem_map_of_mem hoperation)

/-- The operations of a kind that can be generated are generated. -/
theorem usableOf_eq {service : Service} (hkind : service.kind = .workflow) {kind : OperationKind}
    (hmethod : kind ≠ .method) :
    Workflow.usableOf service kind = (generated service).filter (·.kind == kind) := by
  have hgenerated : generated service = (usable service).filter (·.kind ≠ .method) := by
    rw [generated, hkind]
  rw [hgenerated, List.filter_filter, Workflow.usableOf]
  apply List.filter_congr
  intro operation _
  by_cases hof : operation.kind = kind
  · simp [hof, hmethod]
  · simp [hof]

theorem sublist_usableOf {service : Service} (hkind : service.kind = .workflow)
    (kind : OperationKind) (hmethod : kind ≠ .method) :
    (Workflow.usableOf service kind).Sublist (generated service) := by
  rw [usableOf_eq hkind hmethod]
  exact List.filter_sublist

theorem kind_of_mem_usableOf {service : Service} {kind : OperationKind} {operation : Operation}
    (hoperation : operation ∈ Workflow.usableOf service kind) : operation.kind = kind := by
  have hfilter := (List.mem_filter.mp hoperation).2
  simpa using hfilter

section Interface

variable {service : Service} {fixed : List MethodPlan}
  {operations : List Operation} {produced : Operation → List MethodPlan}

/-- Whether the methods that are produced for an operation refer to its constant. -/
def Refers (service : Service) (produced : Operation → List MethodPlan) : Prop :=
  ∀ operation, ∀ method ∈ produced operation,
    method.constant = some (Workflow.constantOf service operation)

/-- Whether the fixed methods of an interface refer to no operation. -/
def Apart (service : Service) (fixed : List MethodPlan) : Prop :=
  ∀ method ∈ fixed, method.constant = none ∨
    method.constant = some (Naming.serviceConstant service.name)

/-- In an interface the methods that refer to an operation are those produced for it. -/
theorem referring_operation (interface : Interface) (hnames : OwnNames service)
    (hmethods : interface.methods = fixed ++ operations.flatMap produced)
    (hfixed : Apart service fixed) (hrefers : Refers service produced)
    (hsublist : operations.Sublist (generated service)) {operation : Operation}
    (hoperation : operation ∈ operations) :
    interface.referring (Workflow.constantOf service operation) = produced operation := by
  have hnone : fixed.filter (·.constant == some (Workflow.constantOf service operation)) = [] := by
    rw [List.filter_eq_nil_iff]
    intro method hmethod heq
    rw [beq_iff_eq] at heq
    obtain hplain | hservice := hfixed method hmethod
    · rw [hplain] at heq
      exact absurd heq (by simp)
    · rw [hservice] at heq
      exact hnames.ne (hsublist.subset hoperation) (Option.some.inj heq).symm
  have hkeys : (operations.map fun operation =>
      some (Workflow.constantOf service operation)).Nodup := by
    have hdistinct := hnames.distinct.sublist (hsublist.map (Workflow.constantOf service))
    have hsome := hdistinct.map fun _ _ => Option.some.inj
    rwa [List.map_map] at hsome
  rw [Interface.referring, hmethods, List.filter_append, hnone, List.nil_append]
  exact filter_flatMap_key hkeys (fun operation _ => hrefers operation) hoperation

/-- The methods that refer to the service are among the fixed ones. -/
theorem referring_service (interface : Interface) (hnames : OwnNames service)
    (hmethods : interface.methods = fixed ++ operations.flatMap produced)
    (hrefers : Refers service produced) (hsublist : operations.Sublist (generated service)) :
    interface.referring (Naming.serviceConstant service.name) =
      fixed.filter (·.constant == some (Naming.serviceConstant service.name)) := by
  have hnone : (operations.flatMap produced).filter
      (·.constant == some (Naming.serviceConstant service.name)) = [] := by
    rw [List.filter_eq_nil_iff]
    intro method hmethod heq
    obtain ⟨operation, hoperation, hproduced⟩ := List.mem_flatMap.mp hmethod
    rw [hrefers operation method hproduced, beq_iff_eq] at heq
    exact hnames.ne (hsublist.subset hoperation) (Option.some.inj heq)
  rw [Interface.referring, hmethods, List.filter_append, hnone, List.append_nil]

end Interface

theorem handled_operation {service : Service} (hnames : OwnNames service)
    {operations : List Operation} (registration : Operation → Registration)
    (hconstant : ∀ operation,
      (registration operation).constant = Workflow.constantOf service operation)
    (hsublist : operations.Sublist (generated service)) {operation : Operation}
    (hoperation : operation ∈ operations) :
    handled (operations.map registration) (Workflow.constantOf service operation) =
      [(registration operation).call.request] := by
  have hkeys := hnames.distinct.sublist (hsublist.map (Workflow.constantOf service))
  have hof : ∀ operation ∈ operations, ∀ entry ∈ [registration operation],
      entry.constant = Workflow.constantOf service operation := by
    intro operation _ entry hentry
    rw [List.mem_singleton.mp hentry]
    exact hconstant operation
  have hmap : operations.map registration =
      operations.flatMap fun operation => [registration operation] := List.map_eq_flatMap
  rw [handled, hmap, filter_flatMap_key hkeys hof hoperation]
  rfl

theorem activity_agrees {service : Service} (hkind : service.kind = .activity)
    (hnames : OwnNames service) {operation : Operation} (hoperation : operation ∈ usable service) :
    (Activity.plan service).Agrees (Naming.operationConstant service.name operation.name)
      operation.declaredRequest? operation.responseType := by
  have hgenerated : generated service = usable service := by rw [generated, hkind]
  have hsublist : (usable service).Sublist (generated service) := by rw [hgenerated]
  have hrefers : Refers service (Activity.proxyMethods service) := by
    intro operation method hmethod
    simp only [Activity.proxyMethods, List.mem_cons, List.not_mem_nil, or_false] at hmethod
    obtain rfl | rfl := hmethod <;> rfl
  have hfixed : Apart service [] := fun _ hmethod => absurd hmethod List.not_mem_nil
  have hproxy := referring_operation (Activity.plan service).proxy hnames rfl hfixed
    hrefers hsublist hoperation
  refine ⟨?_, ?_⟩
  · change ((Activity.plan service).proxy.referring _).map MethodPlan.exchange = _
    rw [show Naming.operationConstant service.name operation.name =
      Workflow.constantOf service operation from rfl, hproxy]
    rfl
  · exact handled_operation hnames (Activity.registration service)
      (fun _ => rfl) hsublist hoperation

namespace Workflow

variable {service : Service}

/-- The methods for an operation in the handle that clients get, of the operations that are
generated. -/
theorem run_methods (hkind : service.kind = .workflow) :
    (run service).methods =
      runFixed service ++ (generated service).flatMap (runMethods service) := by
  have hgenerated : generated service = (usable service).filter (·.kind ≠ .method) := by
    rw [generated, hkind]
  have hall : (usable service).flatMap (runMethods service) =
      (generated service).flatMap (runMethods service) := by
    rw [hgenerated, flatMap_filter]
    apply List.flatMap_congr
    intro operation _
    by_cases hmethod : operation.kind = .method
    · simp [hmethod, runMethods]
    · simp [hmethod]
  rw [run, Interface.of, hall]

theorem refers_runMethods : Refers service (runMethods service) := by
  intro operation method hmethod
  unfold runMethods at hmethod
  cases hkind : operation.kind <;>
    simp only [hkind, List.mem_cons, List.not_mem_nil, or_false] at hmethod
  case query => rw [hmethod]; rfl
  case update => obtain rfl | rfl := hmethod <;> rfl
  case signal => rw [hmethod]; rfl

/-- The two methods for a signal in a handle that workflows get. -/
def signalPair (service : Service) (operation : Operation) : List MethodPlan :=
  [signalMethod service operation, asyncSignalMethod service operation]

theorem refers_signalPair : Refers service (signalPair service) := by
  intro operation method hmethod
  simp only [signalPair, List.mem_cons, List.not_mem_nil, or_false] at hmethod
  obtain rfl | rfl := hmethod <;> rfl

theorem refers_executeWith : Refers service fun operation => [executeWith service operation] := by
  intro operation method hmethod
  rw [List.mem_singleton.mp hmethod]
  rfl

theorem apart_runFixed : Apart service (runFixed service) := by
  simp [Apart, runFixed, MethodPlan.plain]

theorem apart_childRunFixed : Apart service (childRunFixed service) := by
  simp [Apart, childRunFixed, MethodPlan.plain]

theorem apart_externalRunFixed : Apart service externalRunFixed := by
  simp [Apart, externalRunFixed, MethodPlan.plain]

theorem apart_clientFixed : Apart service (clientFixed service) := by
  simp [Apart, clientFixed, starting, MethodPlan.plain, MethodPlan.calling]

theorem client_methods :
    (client service).methods = clientFixed service ++
      (usableOf service .signal).flatMap fun operation => [executeWith service operation] := by
  rw [client, Interface.of, List.map_eq_flatMap]

theorem query_agrees (hkind : service.kind = .workflow) (hnames : OwnNames service)
    {operation : Operation} (hoperation : operation ∈ usableOf service .query) :
    (plan service).QueryAgrees (constantOf service operation) operation.declaredRequest?
      operation.responseType := by
  have hsublist := sublist_usableOf hkind .query (by simp)
  have hrun := referring_operation (run service) hnames (run_methods hkind) apart_runFixed
    refers_runMethods (List.Sublist.refl _) (hsublist.subset hoperation)
  have hproduced : (runMethods service operation).map MethodPlan.exchange =
      [⟨.query, operation.declaredRequest?, operation.responseType⟩] := by
    rw [runMethods, kind_of_mem_usableOf hoperation]
    rfl
  refine ⟨?_, ?_⟩
  · change ((run service).referring _).map MethodPlan.exchange = _
    rw [hrun, hproduced]
  · exact handled_operation hnames (registration service) (fun _ => rfl) hsublist
      hoperation

theorem update_agrees (hkind : service.kind = .workflow) (hnames : OwnNames service)
    {operation : Operation} (hoperation : operation ∈ usableOf service .update) :
    (plan service).UpdateAgrees (constantOf service operation) operation.declaredRequest?
      operation.responseType := by
  have hsublist := sublist_usableOf hkind .update (by simp)
  have hrun := referring_operation (run service) hnames (run_methods hkind) apart_runFixed
    refers_runMethods (List.Sublist.refl _) (hsublist.subset hoperation)
  have hproduced : (runMethods service operation).map MethodPlan.exchange =
      [⟨.update, operation.declaredRequest?, operation.responseType⟩,
        ⟨.updateAsync, operation.declaredRequest?, operation.responseType⟩] := by
    rw [runMethods, kind_of_mem_usableOf hoperation]
    rfl
  refine ⟨?_, ?_⟩
  · change ((run service).referring _).map MethodPlan.exchange = _
    rw [hrun, hproduced]
  · exact handled_operation hnames (registration service) (fun _ => rfl) hsublist
      hoperation

theorem signal_agrees {plan : PackagePlan} (hkind : service.kind = .workflow)
    (hnames : OwnNames service) {operation : Operation}
    (hoperation : operation ∈ usableOf service .signal)
    (hchannel : plan.channels (constantOf service operation) =
      [((inputChannel service operation).provider, operation.requestType)]) :
    (Workflow.plan service).SignalAgrees plan (constantOf service operation)
      operation.declaredRequest? (inputChannel service operation) := by
  have hsublist := sublist_usableOf hkind .signal (by simp)
  have hrun := referring_operation (run service) hnames (run_methods hkind) apart_runFixed
    refers_runMethods (List.Sublist.refl _) (hsublist.subset hoperation)
  have hchild := referring_operation (childRun service) hnames rfl apart_childRunFixed
    refers_signalPair hsublist hoperation
  have hexternal := referring_operation (externalRun service) hnames rfl
    apart_externalRunFixed refers_signalPair hsublist hoperation
  have hclient := referring_operation (client service) hnames client_methods apart_clientFixed
    refers_executeWith hsublist hoperation
  have hproduced : runMethods service operation = [signalMethod service operation] := by
    rw [runMethods, kind_of_mem_usableOf hoperation]
  exact {
    run := by
      change ((run service).referring _).map MethodPlan.exchange = _
      rw [hrun, hproduced]
      rfl
    childRun := congrArg (List.map MethodPlan.exchange) hchild
    externalRun := congrArg (List.map MethodPlan.exchange) hexternal
    client := congrArg (List.map MethodPlan.exchange) hclient
    provider := hchannel
    input := rfl }

theorem answers_append (interface : Interface) (fixed others : List MethodPlan)
    (hmethods : interface.methods = fixed ++ others)
    (hothers : ∀ method ∈ others, method.kind.answersResult = false) :
    interface.answers =
      (fixed.filter (·.kind.answersResult)).map fun method => (method.kind, method.response) := by
  have hnone : others.filter (·.kind.answersResult) = [] := by
    rw [List.filter_eq_nil_iff]
    intro method hmethod
    rw [hothers method hmethod]
    exact Bool.false_ne_true
  rw [Interface.answers, hmethods, List.filter_append, hnone, List.append_nil]

theorem entrance_agrees (hkind : service.kind = .workflow) (hnames : OwnNames service) :
    (plan service).EntranceAgrees (requestOf service) (responseOf service)
      ((usableOf service .signal).map Operation.requestType) := by
  have hsublist := sublist_usableOf hkind .signal (by simp)
  have hclient := referring_service (client service) hnames client_methods refers_executeWith
    hsublist
  have hsignals : ∀ method ∈ signalMethods service, method.kind.answersResult = false := by
    intro method hmethod
    obtain ⟨operation, -, hpair⟩ := List.mem_flatMap.mp hmethod
    simp only [List.mem_cons, List.not_mem_nil, or_false] at hpair
    obtain rfl | rfl := hpair <;> rfl
  have hrun : ∀ method ∈ (usable service).flatMap (runMethods service),
      method.kind.answersResult = false := by
    intro method hmethod
    obtain ⟨operation, -, hproduced⟩ := List.mem_flatMap.mp hmethod
    unfold runMethods at hproduced
    cases hkind : operation.kind <;>
      simp only [hkind, List.mem_cons, List.not_mem_nil, or_false] at hproduced
    case query => rw [hproduced]; rfl
    case update => obtain rfl | rfl := hproduced <;> rfl
    case signal => rw [hproduced]; rfl
  exact {
    request_eq := rfl
    response_eq := rfl
    client := by
      change ((client service).referring _).map MethodPlan.exchange = _
      rw [show (plan service).nameConstant = Naming.serviceConstant service.name from rfl, hclient]
      simp [clientFixed, starting, MethodPlan.plain, MethodPlan.calling, MethodPlan.exchange]
    childClient := by
      simp [Interface.exchanges, Interface.referring, plan, childClient, Interface.of,
        childClientFixed, starting, MethodPlan.plain, MethodPlan.calling, MethodPlan.exchange]
    input := rfl
    entrance := by
      change payload (((entrance? service).map UserCall.of).bind UserCall.request) = _
      rw [requestOf]
      cases entrance? service <;> rfl
    runAnswers := answers_append (run service) (runFixed service) _ rfl hrun
    childRunAnswers := answers_append (childRun service) (childRunFixed service) _ rfl hsignals
    externalRunAnswers := answers_append (externalRun service) externalRunFixed _ rfl hsignals
    clientAnswers := by
      have hstarts : ((usableOf service .signal).map (executeWith service)).filter
          (·.kind.answersResult) = (usableOf service .signal).map (executeWith service) := by
        rw [List.filter_eq_self]
        intro method hmethod
        obtain ⟨operation, -, rfl⟩ := List.mem_map.mp hmethod
        rfl
      change (((clientFixed service ++ (usableOf service .signal).map (executeWith service)).filter
        _).map _) = _
      rw [List.filter_append, hstarts, List.map_append, List.map_map, List.map_map]
      rfl
    childClientAnswers := rfl }

end Workflow

section Package

variable {options : GenerationOptions} {package : Package} {plan : PackagePlan}

theorem ownNames_of_build (hbuild : PackagePlan.build options package = .ok plan)
    {service : Service} (hservice : service ∈ package.services) : OwnNames service := by
  obtain ⟨hconstants, hnodup⟩ := PackagePlan.constants_of_build hbuild
  have hown : (serviceConstant package service ::
      (generated service).map (operationConstant package service)).Sublist plan.constants := by
    have hsublist := List.sublist_flatten_of_mem (List.mem_map_of_mem
      (f := fun service => ownConstants options package service ++
        (generated service).map (operationConstant package service)) hservice)
    rw [hconstants]
    refine .cons _ (List.Sublist.trans ?_ hsublist)
    rw [ownConstants, List.cons_append]
    exact (List.sublist_append_right _ _).cons_cons _
  have hnames := hnodup.sublist (hown.map Constant.name)
  rw [List.map_cons, List.map_map, List.nodup_cons] at hnames
  exact ⟨hnames.2, hnames.1⟩

/-- The generated operations of a package, each with its service. -/
def generatedOf (package : Package) : List (Service × Operation) :=
  package.services.flatMap fun service => (generated service).map fun operation =>
    (service, operation)

/-- The channel that is made for an operation, if it is a signal of a workflow. -/
def channelFor (place : Service × Operation) : List SignalChannel :=
  if place.1.kind = .workflow ∧ place.2.kind = .signal then
    [Workflow.signalChannel place.1 place.2]
  else []

theorem signalChannels_contribution (service : Service) :
    (Contribution.of options package service).signalChannels =
      (generated service).flatMap fun operation => channelFor (service, operation) := by
  unfold Contribution.of generated channelFor
  cases hkind : service.kind with
  | activity => simp [Activity.contribution, hkind]
  | service => simp [HttpService.contribution, hkind]
  | workflow =>
    change (Workflow.usableOf service .signal).map (Workflow.signalChannel service) = _
    rw [List.map_eq_flatMap, Workflow.usableOf, flatMap_filter, flatMap_filter]
    apply List.flatMap_congr
    intro operation _
    by_cases hsignal : operation.kind = .signal
    · simp [hkind, hsignal]
    · simp [hsignal]

theorem signalChannels_of_build (hbuild : PackagePlan.build options package = .ok plan) :
    plan.signalChannels = (generatedOf package).flatMap channelFor := by
  obtain ⟨-, -, -, hchannels⟩ := PackagePlan.of_build hbuild
  rw [hchannels, generatedOf, List.flatMap_assoc]
  apply List.flatMap_congr
  intro service _
  rw [signalChannels_contribution, List.flatMap_map]

/-- The channels for a signal are the one that is made for it. -/
theorem channels_signal (hbuild : PackagePlan.build options package = .ok plan)
    {service : Service} (hservice : service ∈ package.services) (hkind : service.kind = .workflow)
    {operation : Operation} (hoperation : operation ∈ Workflow.usableOf service .signal) :
    plan.channels (Workflow.constantOf service operation) =
      [(Naming.channelProvider service.name operation.name, operation.requestType)] := by
  have hplaces : ((generatedOf package).map fun place =>
      Workflow.constantOf place.1 place.2).Nodup := by
    have hnodup := PackagePlan.nodup_operationConstants hbuild
    rw [generatedOf, List.map_flatMap]
    simpa only [List.map_map, Function.comp_def, Workflow.constantOf] using hnodup
  have hof : ∀ place ∈ generatedOf package, ∀ channel ∈ channelFor place,
      channel.constant = Workflow.constantOf place.1 place.2 := by
    intro place _ channel hchannel
    rw [channelFor] at hchannel
    split at hchannel
    · rw [List.mem_singleton.mp hchannel]
      rfl
    · exact absurd hchannel List.not_mem_nil
  have hplace : (service, operation) ∈ generatedOf package := by
    have hgenerated := (sublist_usableOf hkind .signal (by simp)).subset hoperation
    exact List.mem_flatMap.mpr ⟨service, hservice, List.mem_map_of_mem hgenerated⟩
  have hown : channelFor (service, operation) = [Workflow.signalChannel service operation] :=
    if_pos ⟨hkind, kind_of_mem_usableOf hoperation⟩
  have hfilter := filter_flatMap_key hplaces hof hplace
  rw [← signalChannels_of_build hbuild, hown] at hfilter
  exact congrArg (List.map fun channel => (channel.provider, channel.request)) hfilter

/-- In the plan of a package, whatever is sent under a name has the type that is received under it,
and whatever waits for an answer has the type that is answered. -/
theorem sides_agree (hbuild : PackagePlan.build options package = .ok plan) :
    List.Forall₂ (SidesAgree plan) package.services plan.services := by
  obtain ⟨-, -, hservices, -⟩ := PackagePlan.of_build hbuild
  rw [hservices, List.forall₂_map_right_iff, List.forall₂_same]
  intro service hservice
  have hnames := ownNames_of_build hbuild hservice
  unfold Contribution.of
  cases hkind : service.kind with
  | activity => exact ⟨hkind, fun operation => activity_agrees hkind hnames⟩
  | service => exact hkind
  | workflow =>
    refine ⟨hkind, Workflow.entrance_agrees hkind hnames,
      fun operation => Workflow.query_agrees hkind hnames,
      fun operation => Workflow.update_agrees hkind hnames, ?_⟩
    change List.Forall₂ _ _
      ((Workflow.usableOf service .signal).map (Workflow.inputChannel service))
    rw [List.forall₂_map_right_iff, List.forall₂_same]
    intro operation hoperation
    exact Workflow.signal_agrees hkind hnames hoperation
      (channels_signal hbuild hservice hkind hoperation)

/-- A store with an activity for its payments and a workflow for its orders. -/
def store : Package :=
  let operation (name : String) (kind : OperationKind) (params : List String) (result : String) :
      Operation :=
    { name, kind, docs := "", params := params.map (Param.mk none), results := [⟨none, result⟩]
      tags := [], declaredKinds := [kind], location := ⟨"store.rs", 1, 1⟩ }
  let service (name : String) (kind : ServiceKind) (operations : List Operation) : Service :=
    { name, kind, docs := "", tags := [], declaredKinds := [kind], operations
      location := ⟨"store.rs", 1, 1⟩ }
  { name := "store"
    sourcePath := "store.rs"
    services := [
      service "Payments" .activity [operation "charge" .method ["& Context", "Charge"] "Receipt"],
      service "Order" .workflow [
        operation "place" .execute ["& Context", "Cart"] "Receipt",
        operation "status" .query ["Detail"] "Status",
        operation "amend" .update ["& Context", "Change"] "Status",
        operation "remind" .signal ["& Context", "Note"] "()",
        operation "cancel" .signal ["& Context"] "()"]] }

theorem store_sides_agree :
    ∃ plan, PackagePlan.build {} store = .ok plan ∧ plan.signalChannels.length = 2 ∧
      List.Forall₂ (SidesAgree plan) store.services plan.services := by
  have hproblems : (PackagePlan.ledger {} store).problems.isEmpty := by decide +kernel
  obtain ⟨plan, hbuild⟩ := PackagePlan.exists_build hproblems
  refine ⟨plan, hbuild, ?_, sides_agree hbuild⟩
  rw [signalChannels_of_build hbuild]
  rfl

end Package

end Plan

end ServiceGen
