import ServiceGen.Proofs.Render.Waiting
import ServiceGen.Proofs.Source.Loading

/-!
Calls of the methods of the user. Such a method is called with as many arguments as it declares
parameters, in the order of their declaration. The closures for all operations of a kind have the
same number of parameters: first those that the method takes, of the types that it declares, and
then others that are ignored. None is missing, because an operation that declares more parameters
than its closure can have is not generated.
-/
namespace ServiceGen

namespace Render

/-- The names under which the operations of a kind are given what they take. -/
def positions : OperationKind → List String
  | .query => ["req"]
  | _ => ["ctx", "req"]

/-- The parameters of a closure for an operation of a kind that takes nothing. -/
def unused (fallback : Code) : OperationKind → List Slot
  | .query => [("_req", parens [])]
  | _ => [("_ctx", fallback), ("_req", parens [])]

/-- The names of what an operation takes. -/
def labels (operation : Operation) : List String :=
  (positions operation.kind).take operation.params.length

/-- The parameters of a closure that the operation does not take. -/
def padding (fallback : Code) (operation : Operation) : List Slot :=
  (unused fallback operation.kind).drop operation.params.length

/-- A closure that calls a method with its first parameters. -/
def closure (target method : Code) (taken ignored : List Slot) : Code :=
  code "move |" ++ commas ((taken ++ ignored).map Slot.declared) ++ code "|" ++ target ++
    code "." ++ method ++ parens (commas (taken.map Slot.argument))

/-- That an operation takes the first parameters of a closure as it declares its own: they are as
many, in the same order and of the same types. -/
structure Takes (operation : Operation) (fallback : Code) (taken ignored : List Slot) : Prop where
  types : List.Forall₂ (fun param slot => type param.type operation.name = .ok slot.2)
    operation.params taken
  named : taken.map Prod.fst = labels operation
  padded : ignored = padding fallback operation
  arity : (taken ++ ignored).length = if operation.kind = .query then 1 else 2
  distinct : ((taken ++ ignored).map Prod.fst).Nodup

section

open Plan.Convention

theorem length_positions (kind : OperationKind) : (positions kind).length = limit kind := by
  cases kind <;> rfl

theorem length_unused (fallback : Code) (kind : OperationKind) :
    (unused fallback kind).length = limit kind := by
  cases kind <;> rfl

theorem nodup_labels (fallback : Code) (operation : Operation) :
    (labels operation ++ (padding fallback operation).map Prod.fst).Nodup := by
  unfold labels padding
  rw [List.map_drop]
  match operation.params.length with
  | 0 => cases operation.kind <;> simp [positions, unused]
  | 1 => cases operation.kind <;> simp [positions, unused]
  | _ + 2 => cases operation.kind <;> simp [positions, unused]

variable {operation : Operation}

theorem isFallible_iff : operation.isFallible = true ↔ operation.results.length = 2 :=
  beq_iff_eq

variable (hfits : fits operation = true)

include hfits

theorem length_labels : (labels operation).length = operation.params.length := by
  have hlimit : operation.params.length ≤ limit operation.kind := of_decide_eq_true hfits
  rw [labels, List.length_take, length_positions, Nat.min_eq_left hlimit]

/-- What an operation declares, if it has no more parameters than it may have. -/
theorem params_cases :
    operation.params = [] ∨ (∃ first, operation.params = [first]) ∨
      operation.kind ≠ .query ∧ ∃ first second, operation.params = [first, second] := by
  have hlimit : operation.params.length ≤ limit operation.kind := of_decide_eq_true hfits
  match hparams : operation.params, hlimit with
  | [], _ => exact .inl rfl
  | [first], _ => exact .inr (.inl ⟨first, rfl⟩)
  | [first, second], hlimit =>
    refine .inr (.inr ⟨fun hkind => ?_, first, second, rfl⟩)
    rw [hkind] at hlimit
    exact absurd hlimit (by simp [limit])
  | _ :: _ :: _ :: _, hlimit =>
    have hmost : limit operation.kind ≤ 2 := by unfold limit; split <;> omega
    exact absurd (hlimit.trans hmost) (by simp)

/-- A closure for an operation, by the parameters that the operation declares. -/
theorem userClosure_of (target fallback : Code) :
    userClosure target (.of operation) fallback = (do
      let method ← ident operation.name
      let types ← operation.params.mapM fun param => type param.type operation.name
      pure (closure target method ((labels operation).zip types)
        (padding fallback operation))) := by
  have hignoredContext : code "_ctx :" = name "_ctx" ++ code ":" := rfl
  have hignoredRequest : code "_req :" = name "_req" ++ code ":" := rfl
  have hcontext : code "ctx" = name "ctx" := rfl
  have hrequest : code "req" = name "req" := rfl
  unfold userClosure
  congr 1
  funext method
  -- What a query takes first is its request, and what anything else takes first is its context.
  obtain hparams | ⟨first, hparams⟩ | ⟨hquery, first, second, hparams⟩ := params_cases hfits
  · cases hkind : operation.kind <;>
      simp [UserCall.of, contextParam, requestClosureParam, Operation.context?,
        Operation.request?, hkind, hparams, closure, labels, padding, unused, Slot.declared,
        hignoredContext, hignoredRequest]
  · cases hkind : operation.kind <;>
      simp [UserCall.of, contextParam, requestClosureParam, takenParam, Operation.context?,
        Operation.request?, hkind, hparams, closure, labels, positions, padding, unused,
        Slot.declared, Slot.argument, hignoredRequest, hcontext, hrequest]
  · cases hkind : operation.kind with
    | query => exact absurd hkind hquery
    | method | execute | update | signal =>
      simp [UserCall.of, contextParam, requestClosureParam, takenParam, Operation.context?,
        Operation.request?, hkind, hparams, closure, labels, positions, padding, unused,
        Slot.declared, Slot.argument, hcontext, hrequest]

/-- The arguments of a call without a closure. -/
theorem directArguments_of :
    directArguments (.of operation) = (labels operation).map name := by
  have hcontext : code "ctx" = name "ctx" := rfl
  have hrequest : code "req" = name "req" := rfl
  obtain hparams | ⟨first, hparams⟩ | ⟨hquery, first, second, hparams⟩ := params_cases hfits
  · cases hkind : operation.kind <;>
      simp [directArguments, UserCall.of, Operation.context?, Operation.request?, hkind, hparams,
        labels]
  · cases hkind : operation.kind <;>
      simp [directArguments, UserCall.of, Operation.context?, Operation.request?, hkind, hparams,
        labels, positions, hcontext, hrequest]
  · cases hkind : operation.kind with
    | query => exact absurd hkind hquery
    | method | execute | update | signal =>
      simp [directArguments, UserCall.of, Operation.context?, Operation.request?, hkind, hparams,
        labels, positions, hcontext, hrequest]

theorem takes_of_mapM (fallback : Code) {types : List Code}
    (htypes : (operation.params.mapM fun param => type param.type operation.name) = .ok types) :
    Takes operation fallback ((labels operation).zip types) (padding fallback operation) := by
  have hall := Loading.forall₂_of_mapM htypes
  have hlength : (labels operation).length = types.length :=
    (length_labels hfits).trans hall.length_eq
  have hnamed : ((labels operation).zip types).map Prod.fst = labels operation :=
    List.map_fst_zip hlength.le
  have htaken : List.Forall₂ (fun param found => type param.type operation.name = .ok found)
      operation.params (((labels operation).zip types).map Prod.snd) := by
    rwa [List.map_snd_zip hlength.ge]
  rw [List.forall₂_map_right_iff] at htaken
  have hlimit : operation.params.length ≤ limit operation.kind := of_decide_eq_true hfits
  exact {
    types := htaken
    named := hnamed
    padded := rfl
    arity := by
      rw [List.length_append, ← List.length_map Prod.fst, hnamed, length_labels hfits, padding,
        List.length_drop, length_unused, Nat.add_sub_cancel' hlimit]
      cases operation.kind <;> rfl
    distinct := by
      rw [List.map_append, hnamed]
      exact nodup_labels fallback operation }

/-- Whatever closure is made for an operation calls its method as it is declared. -/
theorem takes_of_userClosure {target fallback found : Code}
    (hfound : userClosure target (.of operation) fallback = .ok found) :
    ∃ method taken ignored, ident operation.name = .ok method ∧
      Takes operation fallback taken ignored ∧ found = closure target method taken ignored := by
  rw [userClosure_of hfits] at hfound
  obtain ⟨method, hmethod, hfound⟩ := exists_of_bind hfound
  obtain ⟨types, htypes, hfound⟩ := exists_of_bind hfound
  exact ⟨method, _, _, hmethod, takes_of_mapM hfits fallback htypes, (Except.ok.inj hfound).symm⟩

theorem exists_userClosure (target fallback : Code)
    (hname : ∃ method, ident operation.name = .ok method)
    (htypes : ∀ param ∈ operation.params, ∃ found, type param.type operation.name = .ok found) :
    ∃ found, userClosure target (.of operation) fallback = .ok found := by
  obtain ⟨method, hmethod⟩ := hname
  obtain ⟨types, htypes⟩ := Loading.exists_mapM_eq_ok htypes
  rw [userClosure_of hfits, hmethod, htypes]
  exact ⟨_, rfl⟩

end

/-- How the entrance of a workflow is called, where its context and its request are in scope. -/
def entering (operation : Operation) (method : Code) : Code :=
  code "Ok" ++ parens (code "workflow ." ++ method ++
    parens (commas ((labels operation).map name)) ++
    if operation.results.length = 2 then code "?" else [])

end Render

open Render

/-- That any closure for a call is as an operation is declared. -/
structure UserCall.ClosesOver (call : UserCall) (operation : Operation) : Prop where
  fallible : call.isFallible = true ↔ operation.results.length = 2
  closed : ∀ target fallback found, userClosure target call fallback = .ok found →
    ∃ method taken ignored, ident operation.name = .ok method ∧
      Takes operation fallback taken ignored ∧ found = closure target method taken ignored
  /-- There is a closure if the operation's name and the types of its parameters can be read. -/
  made : ∀ target fallback, (∃ method, ident operation.name = .ok method) →
    (∀ param ∈ operation.params, ∃ found, type param.type operation.name = .ok found) →
    ∃ found, userClosure target call fallback = .ok found

/-- That a call, where a context and a request are in scope, passes on what an operation takes and
no more. -/
structure UserCall.Enters (call : UserCall) (operation : Operation) : Prop where
  fallible : call.isFallible = true ↔ operation.results.length = 2
  passed : directArguments call = (["ctx", "req"].take operation.params.length).map name
  count : (directArguments call).length = operation.params.length
  delegated : ∀ found, Workflow.delegate (some call) = .ok found →
    ∃ method, ident operation.name = .ok method ∧ found = entering operation method

namespace Plan

/-- That a call is registered for an operation of a service, under the operation's constant. -/
structure Registers (service : Service) (constant : String) (call : UserCall)
    (operation : Operation) : Prop extends call.ClosesOver operation where
  constant_eq : constant = Naming.operationConstant service.name operation.name

/-- That the calls in the plan of a service are as its operations are declared. A workflow answers
its queries and updates in closures, and its entrance is called where the request of the plan is in
scope. -/
def CallsAsDeclared (service : Service) : ServicePlan → Prop
  | .activity plan => ∀ registration ∈ plan.registrations, ∃ operation ∈ generated service,
    Registers service registration.constant registration.call operation
  | .workflow plan =>
    (∀ registration ∈ plan.controller.queries, ∃ operation ∈ generatedOfKind service .query,
      Registers service registration.constant registration.call operation) ∧
    (∀ registration ∈ plan.controller.updates, ∃ operation ∈ generatedOfKind service .update,
      Registers service registration.constant registration.call operation) ∧
    ∀ call ∈ plan.controller.execute, ∃ operation ∈ generatedOfKind service .execute,
      call.Enters operation ∧
        ∀ param, operation.params[1]? = some param → plan.request = param.type
  | .service plan => ∀ route ∈ plan.routes, ∃ operation ∈ generated service,
    Registers service route.constant route.call operation

open Convention

section

variable {service : Service} {operation : Operation}

theorem registers_of_fits (hfits : fits operation = true) :
    Registers service (Naming.operationConstant service.name operation.name) (.of operation)
      operation where
  fallible := isFallible_iff
  closed := fun _ _ _ hfound => takes_of_userClosure hfits hfound
  made := fun _ _ => exists_userClosure hfits _ _
  constant_eq := rfl

theorem enters_of_fits (hfits : fits operation = true) (hkind : operation.kind = .execute) :
    (UserCall.of operation).Enters operation where
  fallible := isFallible_iff
  passed := by rw [directArguments_of hfits, labels, hkind]; rfl
  count := by rw [directArguments_of hfits, List.length_map, length_labels hfits]
  delegated := by
    intro found hfound
    obtain ⟨method, hmethod, hfound⟩ := exists_of_bind hfound
    refine ⟨method, hmethod, ?_⟩
    rw [← Except.ok.inj hfound, directArguments_of hfits, entering]
    simp only [UserCall.of, isFallible_iff]

theorem Workflow.of_mem_usableOf (hkind : service.kind = .workflow) {kind : OperationKind}
    (hmethod : kind ≠ .method) (hoperation : operation ∈ usableOf service kind) :
    operation ∈ generatedOfKind service kind ∧ operation.kind = kind ∧ fits operation = true := by
  obtain ⟨husable, hof⟩ := List.mem_filter.mp hoperation
  rw [usableOf_eq hkind hmethod] at hoperation
  exact ⟨hoperation, eq_of_beq hof, (List.mem_filter.mp husable).2⟩

theorem Workflow.registers (hkind : service.kind = .workflow) {kind : OperationKind}
    (hmethod : kind ≠ .method) :
    ∀ registration ∈ registrations service kind, ∃ operation ∈ generatedOfKind service kind,
      Registers service registration.constant registration.call operation := by
  intro registration hregistration
  obtain ⟨operation, hoperation, rfl⟩ := List.mem_map.mp hregistration
  obtain ⟨hgenerated, -, hfits⟩ := of_mem_usableOf hkind hmethod hoperation
  exact ⟨operation, hgenerated, registers_of_fits hfits⟩

theorem Workflow.enters (hkind : service.kind = .workflow) :
    ∀ call ∈ (controller service).execute, ∃ operation ∈ generatedOfKind service .execute,
      call.Enters operation ∧
        ∀ param, operation.params[1]? = some param → requestOf service = param.type := by
  intro call hcall
  obtain ⟨operation, hentrance, rfl⟩ := Option.map_eq_some_iff.mp hcall
  obtain ⟨hgenerated, hexecute, hfits⟩ :=
    of_mem_usableOf hkind (by simp) (List.mem_of_mem_head? hentrance)
  refine ⟨operation, hgenerated, enters_of_fits hfits hexecute, fun param hparam => ?_⟩
  simp only [requestOf, hentrance, Option.map_some, Option.getD_some, Operation.requestType,
    Operation.request?, hexecute, hparam]

end

theorem callsAsDeclared (options : GenerationOptions) (package : Package) (service : Service) :
    CallsAsDeclared service (Contribution.of options package service).plan := by
  unfold Contribution.of
  cases hkind : service.kind with
  | activity =>
    intro registration hregistration
    obtain ⟨operation, hoperation, rfl⟩ := List.mem_map.mp hregistration
    have hgenerated : generated service = usable service := by rw [generated, hkind]
    exact ⟨operation, hgenerated ▸ hoperation, registers_of_fits (List.mem_filter.mp hoperation).2⟩
  | workflow =>
    exact ⟨Workflow.registers hkind (by simp), Workflow.registers hkind (by simp),
      Workflow.enters hkind⟩
  | service =>
    intro route hroute
    obtain ⟨operation, hoperation, hroute⟩ := List.mem_flatMap.mp hroute
    obtain ⟨method, -, rfl⟩ := List.mem_map.mp hroute
    have hgenerated : generated service = usable service := by rw [generated, hkind]
    exact ⟨operation, hgenerated ▸ hoperation, registers_of_fits (List.mem_filter.mp hoperation).2⟩

end Plan

namespace PackagePlan

variable {options : GenerationOptions} {package : Package} {plan : PackagePlan}

end PackagePlan

end ServiceGen
