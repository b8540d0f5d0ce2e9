import ServiceGen.Proofs.Plan.LeftOut
import ServiceGen.Proofs.Plan.MethodNames

/-!
What becomes of the operations of a package that has a plan. An operation is either left out, with a
warning at its place, or generated: then it has a constant and whatever its kind asks for, in the
order of the operations, and nothing else. All other methods of the interfaces are fixed.
-/
namespace ServiceGen

/-- What a method does and to which constant it refers. -/
def MethodPlan.use (method : MethodPlan) : MethodKind × Option String :=
  (method.kind, method.constant)

def Interface.uses (interface : Interface) : InterfaceRole × List (MethodKind × Option String) :=
  (interface.role, interface.methods.map MethodPlan.use)

namespace Plan

open Convention

/-- The interfaces that a service of a kind has. -/
def roles : ServiceKind → List InterfaceRole
  | .activity => [.activityProxy]
  | .workflow => [.run, .childRun, .externalRun, .client, .childClient]
  | .service => []

/-- The fixed methods of an interface. -/
def fixedKinds : InterfaceRole → List MethodKind
  | .activityProxy => []
  | .run => [.workflowId, .runId, .get]
  | .childRun => [.workflowId, .isReady, .underlying, .get, .waitStart, .select, .selectStart]
  | .externalRun => [.workflowId, .runId, .requestCancellation]
  | .client => [.execute, .getHandle]
  | .childClient => [.execute, .executeAsync, .external]

/-- The methods for an operation in an interface. -/
def operationKinds (operation : Operation) : InterfaceRole → List MethodKind
  | .activityProxy => [.call, .callAsync]
  | .run =>
    match operation.kind with
    | .query => [.query]
    | .update => [.update, .updateAsync]
    | .signal => [.signal]
    | .execute | .method => []
  | .childRun | .externalRun =>
    if operation.kind = .signal then [.signal, .signalAsync] else []
  | .client =>
    if operation.kind = .signal then [.executeWithSignal operation.requestType] else []
  | .childClient => []

/-- A fixed method refers to its service if it starts a workflow, else to nothing. -/
def fixedUse (service : Service) (kind : MethodKind) : MethodKind × Option String :=
  (kind, if kind = .execute ∨ kind = .executeAsync then
    some (Naming.serviceConstant service.name) else none)

def operationUse (service : Service) (operation : Operation) (kind : MethodKind) :
    MethodKind × Option String :=
  (kind, some (Naming.operationConstant service.name operation.name))

/-- The methods of an interface: fixed ones, and those for each operation that is generated. -/
def interfaceUses (service : Service) (role : InterfaceRole) :
    List (MethodKind × Option String) :=
  (fixedKinds role).map (fixedUse service) ++
    (generated service).flatMap fun operation =>
      (operationKinds operation role).map (operationUse service operation)

def registrationOf (service : Service) (operation : Operation) : Registration :=
  ⟨Naming.operationConstant service.name operation.name, .of operation⟩

/-- The operations of a kind that are generated. -/
def generatedOfKind (service : Service) (kind : OperationKind) : List Operation :=
  (generated service).filter (·.kind == kind)

/-- What the plan of a service has, beside interfaces, for the operations that are generated. -/
inductive Answers (service : Service) : ServicePlan → Prop where
  | activity (plan : ActivityPlan) (kind : service.kind = .activity)
      (registrations : plan.registrations = (generated service).map (registrationOf service)) :
      Answers service (.activity plan)
  | workflow (plan : WorkflowPlan) (kind : service.kind = .workflow)
      (execute : plan.controller.execute =
        (generatedOfKind service .execute).head?.map UserCall.of)
      (queries : plan.controller.queries =
        (generatedOfKind service .query).map (registrationOf service))
      (updates : plan.controller.updates =
        (generatedOfKind service .update).map (registrationOf service))
      (channels : plan.input.channels =
        (generatedOfKind service .signal).map (Workflow.inputChannel service)) :
      Answers service (.workflow plan)
  | service (plan : HttpServicePlan) (kind : service.kind = .service)
      (routesOf : Operation → List Route)
      (routes : plan.routes = (generated service).flatMap routesOf)
      (reached : ∀ operation, routesOf operation ≠ [] ∧ ∀ route ∈ routesOf operation,
        ⟨route.constant, route.call⟩ = registrationOf service operation) :
      Answers service (.service plan)

section

variable (service : Service)

theorem uses_of {role : InterfaceRole} {methods : List MethodPlan} (fixed : List MethodPlan)
    (produced : Operation → List MethodPlan)
    (hmethods : methods = fixed ++ (generated service).flatMap produced)
    (hfixed : fixed.map MethodPlan.use = (fixedKinds role).map (fixedUse service))
    (hproduced : ∀ operation, (produced operation).map MethodPlan.use =
      (operationKinds operation role).map (operationUse service operation)) :
    methods.map MethodPlan.use = interfaceUses service role := by
  rw [hmethods, List.map_append, hfixed, List.map_flatMap, funext hproduced]
  rfl

/-- An interface whose other methods are for signals. -/
theorem uses_of_signals (hkind : service.kind = .workflow) {role : InterfaceRole}
    {methods : List MethodPlan} (fixed : List MethodPlan)
    (produced : Operation → List MethodPlan)
    (hmethods : methods = fixed ++ (Workflow.usableOf service .signal).flatMap produced)
    (hfixed : fixed.map MethodPlan.use = (fixedKinds role).map (fixedUse service))
    (hproduced : ∀ operation,
      (if operation.kind == .signal then produced operation else []).map MethodPlan.use =
        (operationKinds operation role).map (operationUse service operation)) :
    methods.map MethodPlan.use = interfaceUses service role := by
  rw [usableOf_eq hkind (by simp), flatMap_filter] at hmethods
  exact uses_of service fixed _ hmethods hfixed hproduced

theorem activity_uses (hkind : service.kind = .activity) :
    (Activity.plan service).proxy.methods.map MethodPlan.use =
      interfaceUses service .activityProxy := by
  have hgenerated : generated service = usable service := by rw [generated, hkind]
  refine uses_of service [] (Activity.proxyMethods service) ?_ rfl fun _ => rfl
  rw [hgenerated]
  rfl

namespace Workflow

theorem run_uses (hkind : service.kind = .workflow) :
    (run service).methods.map MethodPlan.use = interfaceUses service .run := by
  refine uses_of service _ _ (run_methods hkind) rfl fun operation => ?_
  unfold runMethods operationKinds
  cases operation.kind <;> rfl

theorem childRun_uses (hkind : service.kind = .workflow) :
    (childRun service).methods.map MethodPlan.use = interfaceUses service .childRun := by
  refine uses_of_signals service hkind (childRunFixed service) (signalPair service) rfl rfl
    fun operation => ?_
  unfold operationKinds
  cases operation.kind <;> rfl

theorem externalRun_uses (hkind : service.kind = .workflow) :
    (externalRun service).methods.map MethodPlan.use = interfaceUses service .externalRun := by
  refine uses_of_signals service hkind externalRunFixed (signalPair service) rfl rfl
    fun operation => ?_
  unfold operationKinds
  cases operation.kind <;> rfl

theorem client_uses (hkind : service.kind = .workflow) :
    (client service).methods.map MethodPlan.use = interfaceUses service .client := by
  refine uses_of_signals service hkind _ _ client_methods rfl fun operation => ?_
  unfold operationKinds
  cases operation.kind <;> rfl

theorem childClient_uses :
    (childClient service).methods.map MethodPlan.use = interfaceUses service .childClient := by
  have hnone : (generated service).flatMap (fun _ => ([] : List MethodPlan)) = [] :=
    List.flatMap_eq_nil_iff.mpr fun _ _ => rfl
  refine uses_of service (childClientFixed service) (fun _ => []) ?_ rfl fun _ => rfl
  rw [hnone, List.append_nil]
  rfl

end Workflow

/-- The interfaces of a service are those of its kind, with fixed methods and those for the
operations that are generated. -/
theorem interfaces_eq (options : GenerationOptions) (package : Package) :
    (Contribution.of options package service).plan.interfaces.map Interface.uses =
      (roles service.kind).map fun role => (role, interfaceUses service role) := by
  unfold Contribution.of
  cases hkind : service.kind with
  | service => rfl
  | activity => exact congrArg (fun methods => [(_, methods)]) (activity_uses service hkind)
  | workflow =>
    simp only [Workflow.contribution, ServicePlan.interfaces, Workflow.plan, List.map_cons,
      List.map_nil, roles, Interface.uses, Workflow.run_uses service hkind,
      Workflow.childRun_uses service hkind, Workflow.externalRun_uses service hkind,
      Workflow.client_uses service hkind, Workflow.childClient_uses service]
    rfl

theorem HttpService.operationRoutes_ne_nil (options : GenerationOptions) (package : Package)
    (operation : Operation) : operationRoutes options package service operation ≠ [] := by
  have hmethods : methods options operation ≠ [] := by
    unfold methods
    dsimp only
    split
    · rw [List.map_singleton, List.eraseDups_cons]
      exact List.cons_ne_nil _ _
    · next hnamed =>
      cases hnames : ((routeTag? options operation).map (·.options.getAll "method")).getD [] with
      | nil => exact absurd (congrArg List.isEmpty hnames) hnamed
      | cons name rest =>
        rw [List.map_cons, List.eraseDups_cons]
        exact List.cons_ne_nil _ _
  unfold operationRoutes
  exact fun hnone => hmethods (List.map_eq_nil_iff.mp hnone)

theorem answers (options : GenerationOptions) (package : Package) :
    Answers service (Contribution.of options package service).plan := by
  unfold Contribution.of
  cases hkind : service.kind with
  | activity =>
    refine .activity _ hkind ?_
    rw [generated, hkind]
    rfl
  | workflow =>
    have hofKind {kind : OperationKind} (hmethod : kind ≠ .method) :
        generatedOfKind service kind = Workflow.usableOf service kind :=
      (usableOf_eq hkind hmethod).symm
    refine .workflow _ hkind ?_ ?_ ?_ ?_ <;> rw [hofKind (by simp)] <;> rfl
  | service =>
    refine .service _ hkind (HttpService.operationRoutes options package service) ?_ ?_
    · rw [generated, hkind]
      rfl
    · intro operation
      refine ⟨HttpService.operationRoutes_ne_nil service options package operation, ?_⟩
      intro route hroute
      obtain ⟨method, -, rfl⟩ := List.mem_map.mp hroute
      rfl

end

end Plan

namespace PackagePlan

open Plan Plan.Convention

variable {options : GenerationOptions} {package : Package} {plan : PackagePlan}

/-- What becomes of the operations of a package that has a plan. -/
structure Divides (options : GenerationOptions) (package : Package) (plan : PackagePlan) :
    Prop where
  /-- An operation is generated unless it is left out. -/
  parts : ∀ service ∈ package.services,
    generated service = service.operations.filter (!leftOut service ·)
  /-- There is one warning for each operation that is left out. -/
  warned : plan.omissions.Perm (package.services.flatMap fun service =>
    (service.operations.filter (leftOut service)).map (omission options.marker service))
  /-- Nothing else is there for the operations that are left out. -/
  traceless : build options (keptPackage package) = .ok { plan with omissions := [] }
  constants : plan.constants = ⟨Naming.packageConstant, package.name⟩ ::
    package.services.flatMap fun service => ownConstants options package service ++
      (generated service).map (operationConstant package service)
  distinct : (plan.constants.map Constant.name).Nodup
  interfaces : plan.services.map (·.interfaces.map Interface.uses) =
    package.services.map fun service =>
      (roles service.kind).map fun role => (role, interfaceUses service role)
  answers : List.Forall₂ Answers package.services plan.services
  /-- There is one channel for each signal that is generated. -/
  channels : plan.signalChannels = (generatedOf package).flatMap channelFor

/-- In a package that has a plan, an operation is either left out, with a warning and no other
trace, or has its constant and whatever its kind asks for. -/
theorem divides_of_build (hbuild : build options package = .ok plan) :
    Divides options package plan := by
  obtain ⟨hconstants, hdistinct⟩ := constants_of_build hbuild
  obtain ⟨-, -, hservices, -⟩ := of_build hbuild
  exact {
    parts := fun service _ => generated_eq service
    warned := by
      rw [omissions_of_build hbuild]
      exact List.Perm.flatMap_left package.services fun service hservice =>
        perm_omissions service options package (problems_of_build hbuild hservice)
    traceless := build_kept hbuild
    constants := hconstants
    distinct := hdistinct
    interfaces := by
      rw [hservices, List.map_map]
      exact List.map_congr_left fun service _ => interfaces_eq service options package
    answers := by
      rw [hservices, List.forall₂_map_right_iff, List.forall₂_same]
      exact fun service _ => answers service options package
    channels := signalChannels_of_build hbuild }

/-- A bazaar with operations of every kind, of which a lenient plan leaves three out. -/
def bazaar : Package :=
  let operation (name : String) (kind : OperationKind) (params : List String) : Operation :=
    { name, kind, docs := "", params := params.map (Param.mk none), results := [], tags := []
      declaredKinds := [kind], location := ⟨"bazaar.rs", 1, 1⟩ }
  let service (name : String) (kind : ServiceKind) (operations : List Operation) : Service :=
    { name, kind, docs := "", tags := [], declaredKinds := [kind], operations
      location := ⟨"bazaar.rs", 1, 1⟩ }
  { name := "bazaar"
    sourcePath := "bazaar.rs"
    services := [
      service "Scales" .activity [
        operation "weigh" .method ["& Context", "Goods"],
        operation "blend" .method ["& Context", "Goods", "Goods"]],
      service "Deal" .workflow [
        operation "haggle" .execute ["& Context", "Offer"],
        operation "price" .query ["Goods"],
        operation "compare" .query ["Goods", "Goods"],
        operation "raise" .update ["& Context", "Offer"],
        operation "leave" .signal ["& Context"],
        operation "shrug" .method []],
      service "Gate" .service [operation "enter" .method []]] }

theorem bazaar_divides :
    ∃ plan, build { strict := false } bazaar = .ok plan ∧ plan.omissions.length = 3 ∧
      Divides { strict := false } bazaar plan := by
  have hproblems : (ledger { strict := false } bazaar).problems.isEmpty := by decide +kernel
  obtain ⟨plan, hbuild⟩ := exists_build hproblems
  have hdivides := divides_of_build hbuild
  exact ⟨plan, hbuild, hdivides.warned.length_eq, hdivides⟩

end PackagePlan

end ServiceGen
