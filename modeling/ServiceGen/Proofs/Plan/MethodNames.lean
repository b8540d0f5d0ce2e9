import Mathlib.Data.List.Nodup
import ServiceGen.Proofs.Naming.LetterCase
import ServiceGen.Proofs.Plan.Agreement

/-!
The names of the methods of an interface. Some are fixed, and the others are made from the names of
operations: the operation's own name, that of the method which does not wait, and that of the method
which starts a workflow with a signal. Distinct constants make the own names distinct, as long as
the names hold no letters that the small form confuses. Nothing keeps an operation from having the
name of a fixed method, or that of another operation with the ending of a method which does not
wait. Apart from this the names of an interface are distinct.
-/
namespace ServiceGen

def ServicePlan.interfaces : ServicePlan → List Interface
  | .activity plan => [plan.proxy]
  | .workflow plan =>
    [plan.run, plan.childRun, plan.externalRun, plan.client, plan.childClient]
  | .service _ => []

namespace Operation

def methodName (operation : Operation) : String := Naming.method operation.name

/-- The name of the method that does not wait. -/
def asyncName (operation : Operation) : String := Naming.asyncMethod operation.name

/-- The name of the method that starts a workflow with a signal. -/
def startName (operation : Operation) : String := Naming.executeWith operation.name

end Operation

/-- What the methods of an interface are named after. -/
structure Makeup where
  /-- The names of the fixed methods. -/
  fixed : List String
  /-- The operations with a method of their own name. -/
  own : List Operation
  /-- The operations with a method that does not wait. -/
  async : List Operation
  /-- The signals with which a workflow is started. -/
  starts : List Operation

namespace Makeup

def names (makeup : Makeup) : List String :=
  makeup.fixed ++ makeup.own.map Operation.methodName ++ makeup.async.map Operation.asyncName ++
    makeup.starts.map Operation.startName

/-- No operation has the name of a fixed method, or that of a method which does not wait. -/
structure Unreserved (makeup : Makeup) : Prop where
  fixed : ∀ operation ∈ makeup.own, operation.methodName ∉ makeup.fixed
  async : ∀ operation ∈ makeup.own, ∀ other ∈ makeup.async,
    operation.methodName ≠ other.asyncName

/-- Beyond that, no two operations have methods of one name. -/
structure Clear (makeup : Makeup) : Prop extends Unreserved makeup where
  own : (makeup.own.map Operation.methodName).Nodup
  starts : (makeup.starts.map Operation.methodName).Nodup

/-- What holds of every interface: the fixed names are distinct and none has an affix by which names
are made, and no interface has both methods of operations and methods that start with a signal. -/
structure Regular (makeup : Makeup) : Prop where
  fixed : makeup.fixed.Nodup
  async : makeup.async.Sublist makeup.own
  unended : makeup.async = [] ∨
    ∀ name ∈ makeup.fixed, ¬ "_async".toList <:+ name.toList
  unbegun : ∀ name ∈ makeup.fixed, ¬ "execute_with_".toList <+: name.toList
  alone : makeup.own = [] ∨ makeup.starts = []

variable {makeup : Makeup}

theorem asyncName_notMem_fixed (hregular : makeup.Regular) {operation : Operation}
    (hoperation : operation ∈ makeup.async) : operation.asyncName ∉ makeup.fixed := by
  intro hmem
  obtain hnone | hunended := hregular.unended
  · exact absurd (hnone ▸ hoperation) List.not_mem_nil
  · apply hunended _ hmem
    rw [Operation.asyncName, Naming.asyncMethod, String.toList_append]
    exact List.suffix_append _ _

theorem startName_notMem_fixed (hregular : makeup.Regular) (operation : Operation) :
    operation.startName ∉ makeup.fixed := by
  intro hmem
  apply hregular.unbegun _ hmem
  rw [Operation.startName, Naming.executeWith, String.toList_append]
  exact List.prefix_append _ _

theorem nodup_asyncNames {operations : List Operation}
    (hown : (operations.map Operation.methodName).Nodup) :
    (operations.map Operation.asyncName).Nodup := by
  have hmap := hown.map (f := fun name => name ++ "_async")
    fun _ _ heq => (String.append_left_inj _).mp heq
  rwa [List.map_map] at hmap

theorem nodup_startNames_iff {operations : List Operation} :
    (operations.map Operation.startName).Nodup ↔ (operations.map Operation.methodName).Nodup := by
  have hinjective : Function.Injective fun name => "execute_with_" ++ name :=
    fun _ _ heq => (String.append_right_inj _).mp heq
  have hmap : operations.map Operation.startName =
      (operations.map Operation.methodName).map fun name => "execute_with_" ++ name := by
    rw [List.map_map]
    rfl
  rw [hmap]
  exact List.nodup_map_iff hinjective

/-- The names of an interface are distinct exactly if those that are made from operations are clear
of each other and of the fixed ones. -/
theorem nodup_names_iff (hregular : makeup.Regular) : makeup.names.Nodup ↔ makeup.Clear := by
  constructor
  · intro hnodup
    obtain ⟨hfront, hstarts, -⟩ := List.nodup_append.mp hnodup
    obtain ⟨hown, -, hasync⟩ := List.nodup_append.mp hfront
    obtain ⟨-, hmethods, hfixed⟩ := List.nodup_append.mp hown
    refine ⟨⟨?_, ?_⟩, hmethods, nodup_startNames_iff.mp hstarts⟩
    · intro operation hoperation hmem
      exact hfixed _ hmem _ (List.mem_map_of_mem hoperation) rfl
    · intro operation hoperation other hother
      exact hasync _ (List.mem_append_right _ (List.mem_map_of_mem hoperation)) _
        (List.mem_map_of_mem hother)
  · intro hclear
    have hown : (makeup.fixed ++ makeup.own.map Operation.methodName).Nodup := by
      refine List.nodup_append.mpr ⟨hregular.fixed, hclear.own, ?_⟩
      rintro name hname _ hmade rfl
      obtain ⟨operation, hoperation, rfl⟩ := List.mem_map.mp hmade
      exact hclear.fixed operation hoperation hname
    have hasync : (makeup.fixed ++ makeup.own.map Operation.methodName ++
        makeup.async.map Operation.asyncName).Nodup := by
      refine List.nodup_append.mpr ⟨hown, nodup_asyncNames (hclear.own.sublist
        (hregular.async.map _)), ?_⟩
      rintro name hname _ hmade rfl
      obtain ⟨other, hother, rfl⟩ := List.mem_map.mp hmade
      obtain hfixed | hmethod := List.mem_append.mp hname
      · exact asyncName_notMem_fixed hregular hother hfixed
      · obtain ⟨operation, hoperation, heq⟩ := List.mem_map.mp hmethod
        exact hclear.async operation hoperation other hother heq
    refine List.nodup_append.mpr ⟨hasync, nodup_startNames_iff.mpr hclear.starts, ?_⟩
    rintro name hname _ hmade rfl
    obtain ⟨start, hstart, rfl⟩ := List.mem_map.mp hmade
    obtain hnone | hnone := hregular.alone
    · have hasyncNone : makeup.async = [] := List.sublist_nil.mp (hnone ▸ hregular.async)
      rw [hnone, hasyncNone, List.map_nil, List.map_nil, List.append_nil, List.append_nil] at hname
      exact startName_notMem_fixed hregular start hname
    · exact absurd (hnone ▸ hstart) List.not_mem_nil

end Makeup

namespace Plan

open Convention

/-- The names of the fixed methods of an interface. -/
def fixedNames : InterfaceRole → List String
  | .activityProxy => []
  | .run => ["workflow_id", "run_id", "get"]
  | .childRun =>
    ["workflow_id", "is_ready", "underlying", "get", "wait_start", "select", "select_start"]
  | .externalRun => ["workflow_id", "run_id", "request_cancellation"]
  | .client => ["execute", "get_handle"]
  | .childClient => ["execute", "execute_async", "external"]

theorem nodup_fixedNames (role : InterfaceRole) : (fixedNames role).Nodup := by
  cases role <;> decide

theorem unbegun_fixedNames (role : InterfaceRole) :
    ∀ name ∈ fixedNames role, ¬ "execute_with_".toList <+: name.toList := by
  cases role <;> decide

theorem unended_fixedNames {role : InterfaceRole} (hrole : role ≠ .childClient) :
    ∀ name ∈ fixedNames role, ¬ "_async".toList <:+ name.toList := by
  cases role with
  | childClient => exact absurd rfl hrole
  | activityProxy | run | childRun | externalRun | client => decide

/-- The operations of a workflow that clients can reach while it runs. -/
def reachable (service : Service) : List Operation :=
  (usable service).filter fun operation =>
    operation.kind == .query || operation.kind == .update || operation.kind == .signal

/-- The operations with a method of their own name in an interface of a service. -/
def ownMethods (service : Service) : InterfaceRole → List Operation
  | .activityProxy => usable service
  | .run => reachable service
  | .childRun | .externalRun => Workflow.usableOf service .signal
  | .client | .childClient => []

/-- The operations with a method that does not wait in an interface of a service. -/
def asyncMethods (service : Service) : InterfaceRole → List Operation
  | .activityProxy => usable service
  | .run => Workflow.usableOf service .update
  | .childRun | .externalRun => Workflow.usableOf service .signal
  | .client | .childClient => []

/-- The signals with which an interface of a service can start a workflow. -/
def startMethods (service : Service) : InterfaceRole → List Operation
  | .client => Workflow.usableOf service .signal
  | _ => []

def makeup (service : Service) (role : InterfaceRole) : Makeup :=
  { fixed := fixedNames role
    own := ownMethods service role
    async := asyncMethods service role
    starts := startMethods service role }

theorem regular_makeup (service : Service) (role : InterfaceRole) :
    (makeup service role).Regular := by
  have hasync : (asyncMethods service role).Sublist (ownMethods service role) := by
    cases role with
    | run =>
      refine List.monotone_filter_right _ fun operation hupdate => ?_
      simp [eq_of_beq hupdate]
    | activityProxy | childRun | externalRun | client | childClient => exact List.Sublist.refl _
  have hunended : asyncMethods service role = [] ∨
      ∀ name ∈ fixedNames role, ¬ "_async".toList <:+ name.toList := by
    by_cases hrole : role = .childClient
    · subst hrole
      exact .inl rfl
    · exact .inr (unended_fixedNames hrole)
  have halone : ownMethods service role = [] ∨ startMethods service role = [] := by
    cases role with
    | client => exact .inl rfl
    | activityProxy | run | childRun | externalRun | childClient => exact .inr rfl
  exact ⟨nodup_fixedNames role, hasync, hunended, unbegun_fixedNames role, halone⟩

/-- The names of two methods for each of several operations. -/
theorem perm_pairs (operations : List Operation) :
    (operations.flatMap fun operation => [operation.methodName, operation.asyncName]).Perm
      (operations.map Operation.methodName ++ operations.map Operation.asyncName) := by
  have hpairs := List.flatMap_append_perm operations (fun operation => [operation.methodName])
    fun operation => [operation.asyncName]
  rw [← List.map_eq_flatMap, ← List.map_eq_flatMap] at hpairs
  exact hpairs.symm

theorem perm_proxy_names (service : Service) :
    ((Activity.plan service).proxy.methods.map MethodPlan.name).Perm
      (makeup service .activityProxy).names := by
  have hnames : (makeup service .activityProxy).names =
      (usable service).map Operation.methodName ++ (usable service).map Operation.asyncName :=
    List.append_nil _
  have hmethods : (Activity.plan service).proxy.methods.map MethodPlan.name =
      (usable service).flatMap fun operation => [operation.methodName, operation.asyncName] :=
    List.map_flatMap
  rw [hnames, hmethods]
  exact perm_pairs (usable service)

namespace Workflow

/-- The own name of an operation in the handle that clients get, if it has a method there. -/
def runOwnName (operation : Operation) : List String :=
  if operation.kind == .query || operation.kind == .update || operation.kind == .signal then
    [operation.methodName]
  else []

/-- The name of the method for an operation that does not wait, in the handle that clients get. -/
def runAsyncName (operation : Operation) : List String :=
  if operation.kind == .update then [operation.asyncName] else []

theorem map_runMethods_name (service : Service) (operation : Operation) :
    (runMethods service operation).map MethodPlan.name =
      runOwnName operation ++ runAsyncName operation := by
  unfold runOwnName runAsyncName runMethods
  cases operation.kind <;> rfl

theorem perm_run_names (service : Service) :
    ((run service).methods.map MethodPlan.name).Perm (makeup service .run).names := by
  have hnames : (makeup service .run).names = fixedNames .run ++
      (reachable service).map Operation.methodName ++
        (usableOf service .update).map Operation.asyncName :=
    List.append_nil _
  have hown : (reachable service).map Operation.methodName =
      (usable service).flatMap runOwnName := by
    rw [reachable, List.map_eq_flatMap, flatMap_filter]
    rfl
  have hasync : (usableOf service .update).map Operation.asyncName =
      (usable service).flatMap runAsyncName := by
    rw [usableOf, List.map_eq_flatMap, flatMap_filter]
    rfl
  have hall : (run service).methods.map MethodPlan.name =
      fixedNames .run ++ (usable service).flatMap fun operation =>
        runOwnName operation ++ runAsyncName operation := by
    change (runFixed service ++ (usable service).flatMap (runMethods service)).map _ = _
    rw [List.map_append, List.map_flatMap,
      List.flatMap_congr fun operation _ => map_runMethods_name service operation]
    rfl
  rw [hnames, hall, hown, hasync, List.append_assoc]
  exact (List.flatMap_append_perm (usable service) runOwnName runAsyncName).symm.append_left _

theorem map_signalMethods_name (service : Service) :
    (signalMethods service).map MethodPlan.name =
      (usableOf service .signal).flatMap fun operation =>
        [operation.methodName, operation.asyncName] :=
  List.map_flatMap

/-- The names of an interface with fixed methods and those for the signals. -/
theorem perm_signal_names (service : Service) (role : InterfaceRole) {fixed : List MethodPlan}
    (hfixed : fixed.map MethodPlan.name = fixedNames role)
    (hown : ownMethods service role = usableOf service .signal)
    (hasync : asyncMethods service role = usableOf service .signal)
    (hstarts : startMethods service role = []) :
    ((fixed ++ signalMethods service).map MethodPlan.name).Perm (makeup service role).names := by
  have hnames : (makeup service role).names = fixedNames role ++
      ((usableOf service .signal).map Operation.methodName ++
        (usableOf service .signal).map Operation.asyncName) := by
    rw [Makeup.names, makeup, hown, hasync, hstarts, List.map_nil, List.append_nil,
      List.append_assoc]
  rw [hnames, List.map_append, hfixed, map_signalMethods_name]
  exact (perm_pairs _).append_left _

theorem client_names (service : Service) :
    (client service).methods.map MethodPlan.name = (makeup service .client).names := by
  change (clientFixed service ++ (usableOf service .signal).map (executeWith service)).map _ = _
  rw [List.map_append, List.map_map]
  rfl

end Workflow

/-- The names of the methods of a generated interface, in some order. -/
theorem perm_names (options : GenerationOptions) (package : Package) (service : Service)
    {interface : Interface}
    (hinterface : interface ∈ (Contribution.of options package service).plan.interfaces) :
    (interface.methods.map MethodPlan.name).Perm (makeup service interface.role).names := by
  unfold Contribution.of at hinterface
  cases hkind : service.kind with
  | service =>
    rw [hkind] at hinterface
    exact absurd hinterface List.not_mem_nil
  | activity =>
    rw [hkind] at hinterface
    rw [List.mem_singleton.mp hinterface]
    exact perm_proxy_names service
  | workflow =>
    simp only [hkind, Workflow.contribution, ServicePlan.interfaces, List.mem_cons,
      List.not_mem_nil, or_false] at hinterface
    obtain rfl | rfl | rfl | rfl | rfl := hinterface
    · exact Workflow.perm_run_names service
    · exact Workflow.perm_signal_names service .childRun rfl rfl rfl rfl
    · exact Workflow.perm_signal_names service .externalRun rfl rfl rfl rfl
    · exact .of_eq (Workflow.client_names service)
    · exact .of_eq rfl

/-- Operations with distinct constants have distinct methods, if their names are of steady
characters. -/
theorem nodup_methodNames {service : Service} (hnames : OwnNames service)
    (hsteady : ∀ operation ∈ generated service, Naming.IsSteady operation.name) :
    ((generated service).map Operation.methodName).Nodup := by
  refine nodup_map_of_keys hnames.distinct ?_
  intro first hfirst second hsecond hmethods
  have hshouty := Naming.shouty_eq_of_snake_eq (hsteady first hfirst) (hsteady second hsecond)
    hmethods
  rw [Workflow.constantOf, Workflow.constantOf, Naming.operationConstant,
    Naming.operationConstant, hshouty]

theorem sublist_reachable {service : Service} (hkind : service.kind = .workflow) :
    (reachable service).Sublist (generated service) := by
  rw [generated, hkind]
  refine List.monotone_filter_right _ fun operation hreachable => ?_
  have hmethod : operation.kind ≠ .method := by
    intro heq
    rw [heq] at hreachable
    exact absurd hreachable (by decide)
  simpa using hmethod

/-- The operations that an interface has methods for are generated ones. -/
theorem sublist_makeup (options : GenerationOptions) (package : Package) (service : Service)
    {interface : Interface}
    (hinterface : interface ∈ (Contribution.of options package service).plan.interfaces) :
    (ownMethods service interface.role).Sublist (generated service) ∧
      (startMethods service interface.role).Sublist (generated service) := by
  unfold Contribution.of at hinterface
  cases hkind : service.kind with
  | service =>
    rw [hkind] at hinterface
    exact absurd hinterface List.not_mem_nil
  | activity =>
    rw [hkind] at hinterface
    rw [List.mem_singleton.mp hinterface]
    refine ⟨?_, List.nil_sublist _⟩
    rw [generated, hkind]
    exact List.Sublist.refl _
  | workflow =>
    have hsignals := sublist_usableOf hkind .signal (by simp)
    simp only [hkind, Workflow.contribution, ServicePlan.interfaces, List.mem_cons,
      List.not_mem_nil, or_false] at hinterface
    obtain rfl | rfl | rfl | rfl | rfl := hinterface
    · exact ⟨sublist_reachable hkind, List.nil_sublist _⟩
    · exact ⟨hsignals, List.nil_sublist _⟩
    · exact ⟨hsignals, List.nil_sublist _⟩
    · exact ⟨List.nil_sublist _, hsignals⟩
    · exact ⟨List.nil_sublist _, List.nil_sublist _⟩

section Package

variable {options : GenerationOptions} {package : Package} {plan : PackagePlan}

/-- In the plan of a package, the methods of an interface have distinct names exactly if the
operations that it has methods for have distinct names, none of which is that of a fixed method or
of a method which does not wait. If the names are of steady characters, the first of this is granted
by the constants of the package. -/
theorem methodNames_nodup_iff (hbuild : PackagePlan.build options package = .ok plan) :
    List.Forall₂ (fun service servicePlan => ∀ interface ∈ ServicePlan.interfaces servicePlan,
        ((interface.methods.map MethodPlan.name).Nodup ↔
          (makeup service interface.role).Clear) ∧
        ((∀ operation ∈ generated service, Naming.IsSteady operation.name) →
          ((interface.methods.map MethodPlan.name).Nodup ↔
            (makeup service interface.role).Unreserved)))
      package.services plan.services := by
  obtain ⟨-, -, hservices, -⟩ := PackagePlan.of_build hbuild
  rw [hservices, List.forall₂_map_right_iff, List.forall₂_same]
  intro service hservice interface hinterface
  have hclear : (interface.methods.map MethodPlan.name).Nodup ↔
      (makeup service interface.role).Clear :=
    (perm_names options package service hinterface).nodup_iff.trans
      (Makeup.nodup_names_iff (regular_makeup service interface.role))
  refine ⟨hclear, fun hsteady => hclear.trans ⟨fun clear => clear.toUnreserved, ?_⟩⟩
  intro hunreserved
  have hmethods := nodup_methodNames (ownNames_of_build hbuild hservice) hsteady
  obtain ⟨hown, hstarts⟩ := sublist_makeup options package service hinterface
  exact ⟨hunreserved, hmethods.sublist (hown.map _), hmethods.sublist (hstarts.map _)⟩

theorem store_methodNames :
    ∃ plan, PackagePlan.build {} store = .ok plan ∧
      List.Forall₂ (fun service servicePlan => ∀ interface ∈ ServicePlan.interfaces servicePlan,
          (interface.methods.map MethodPlan.name).Nodup ↔
            (makeup service interface.role).Unreserved)
        store.services plan.services := by
  have hproblems : (PackagePlan.ledger {} store).problems.isEmpty := by decide +kernel
  obtain ⟨plan, hbuild⟩ := PackagePlan.exists_build hproblems
  have hsteady : ∀ service ∈ store.services, ∀ operation ∈ generated service,
      Naming.IsSteady operation.name := by
    have hascii : ∀ service ∈ store.services, ∀ operation ∈ generated service,
        Naming.IsAscii operation.name := by decide
    intro service hservice operation hoperation
    exact Naming.isSteady_of_ascii (hascii service hservice operation hoperation)
  have hboth := List.forall₂_and_left _ _ |>.mpr ⟨hsteady, methodNames_nodup_iff hbuild⟩
  exact ⟨plan, hbuild, hboth.imp fun _ _ ⟨hnames, hiff⟩ interface hinterface =>
    (hiff interface hinterface).2 hnames⟩

/-- A desk with a workflow that takes two signals. -/
def desk (first second : String) : Package :=
  let operation (name : String) (kind : OperationKind) : Operation :=
    { name, kind, docs := "", params := [], results := [], tags := [], declaredKinds := [kind]
      location := ⟨"desk.rs", 1, 1⟩ }
  { name := "desk"
    sourcePath := "desk.rs"
    services := [{
      name := "Desk"
      kind := .workflow
      docs := ""
      tags := []
      declaredKinds := [.workflow]
      operations := [operation "open" .execute, operation first .signal, operation second .signal]
      location := ⟨"desk.rs", 1, 1⟩ }] }

/-- Whether a package has a plan in which two methods of an interface have one name. -/
def HasClash (package : Package) : Prop :=
  ∃ plan, PackagePlan.build {} package = .ok plan ∧ ∃ servicePlan ∈ plan.services,
    ∃ interface ∈ servicePlan.interfaces, ¬ (interface.methods.map MethodPlan.name).Nodup

theorem hasClash_of {package : Package}
    (hproblems : (PackagePlan.ledger {} package).problems.isEmpty = true)
    (hclash : ∃ service ∈ package.services,
      ∃ interface ∈ (Contribution.of {} package service).plan.interfaces,
        ¬ (interface.methods.map MethodPlan.name).Nodup) : HasClash package := by
  obtain ⟨plan, hbuild⟩ := PackagePlan.exists_build hproblems
  obtain ⟨-, -, hservices, -⟩ := PackagePlan.of_build hbuild
  obtain ⟨service, hservice, hinterface⟩ := hclash
  exact ⟨plan, hbuild, _, hservices ▸ List.mem_map_of_mem hservice, hinterface⟩

/-- Signals with the name of a fixed method, with that of another signal's method which does not
wait, and with names that differ in a letter which has one small form for two capitals. -/
theorem signals_clash :
    HasClash (desk "get" "stop") ∧ HasClash (desk "stop" "stop_async") ∧
      HasClash (desk "maß" "MAẞ") := by
  refine ⟨hasClash_of ?_ ?_, hasClash_of ?_ ?_, hasClash_of ?_ ?_⟩ <;> decide +kernel

end Package

end Plan

end ServiceGen
