import Mathlib
import ServiceGen.Proofs.Analysis.Discovery
import ServiceGen.Proofs.Plan.Fates

/-!
The routes of a plan. Each operation of a plain service has a route for every HTTP method that its
tags name, in capital letters and in the order in which they are named first, or for the one that is
configured. Unless a tag gives its path, it is made of the names of the package and the operation.
It does not tell services apart: operations that differ in their names have different paths, but
where two services have an operation of the same name, their routes can meet.
-/
namespace ServiceGen

open Plan

def ServicePlan.routes : ServicePlan → List Route
  | .service plan => plan.routes
  | _ => []

def PackagePlan.routes (plan : PackagePlan) : List Route :=
  plan.services.flatMap ServicePlan.routes

namespace Plan.HttpService

/-- The HTTP methods that tags name for an operation. -/
def declaredMethods (options : GenerationOptions) (operation : Operation) : List String :=
  ((routeTag? options operation).map (·.options.getAll "method")).getD []

/-- The HTTP methods that are meant for an operation: the declared ones, or else that which is
configured. -/
def meantMethods (options : GenerationOptions) (operation : Operation) : List String :=
  if (declaredMethods options operation).isEmpty then [options.httpMethod]
  else declaredMethods options operation

/-- The path that a tag gives an operation. -/
def declaredPath? (options : GenerationOptions) (operation : Operation) : Option String :=
  (routeTag? options operation).bind (·.options.get? "path")

/-- The generated operations of the plain services of a package, each with its service. -/
def routed (package : Package) : List (Service × Operation) :=
  (generatedOf package).filter (·.1.kind = .service)

def routesFor (options : GenerationOptions) (package : Package) (place : Service × Operation) :
    List Route :=
  operationRoutes options package place.1 place.2

/-- That methods are the named ones in capital letters: all of them, each once, in the order in
which they are named first. -/
structure AreNamed (names methods : List String) : Prop where
  nonempty : methods ≠ []
  distinct : methods.Nodup
  mem_iff : ∀ method, method ∈ methods ↔ method ∈ names.map String.toUpper
  capital : ∀ method ∈ methods, ∀ c ∈ method.toList, c.isLower = false
  inOrder : methods.Pairwise fun first second =>
    (names.map String.toUpper).idxOf first < (names.map String.toUpper).idxOf second

/-- Operations of one name, in services of different names. -/
def AreNamesakes (a b : Service × Operation) : Prop := a.2.name = b.2.name ∧ a.1.name ≠ b.1.name

end Plan.HttpService

open Plan.HttpService

/-- How the routes of a plan differ: the routes of one operation by their methods, and those of
different operations for which no path is given by their paths, except for namesakes. -/
structure PackagePlan.RoutesDiffer (options : GenerationOptions) (package : Package)
    (plan : PackagePlan) : Prop where
  routes : plan.routes = (routed package).flatMap (routesFor options package)
  methods : ∀ place ∈ routed package, AreNamed (meantMethods options place.2)
    ((routesFor options package place).map Route.method)
  paths : (routed package).Pairwise fun a b =>
    declaredPath? options a.2 = none → declaredPath? options b.2 = none →
      ∀ route ∈ routesFor options package a, ∀ other ∈ routesFor options package b,
        route.path = other.path ↔ AreNamesakes a b

/-- What is left without repetitions stands in the order of the first occurrences. -/
theorem pairwise_eraseDups {α : Type} [DecidableEq α] (list : List α) :
    list.eraseDups.Pairwise fun first second => list.idxOf first < list.idxOf second := by
  induction list using List.reverseRecOn with
  | nil => exact .nil
  | append_singleton list last ih =>
    have hkept {entry : α} (hentry : entry ∈ list.eraseDups) :
        (list ++ [last]).idxOf entry = list.idxOf entry :=
      List.idxOf_append_of_mem (List.mem_eraseDups.mp hentry)
    have hbefore : list.eraseDups.Pairwise fun first second =>
        (list ++ [last]).idxOf first < (list ++ [last]).idxOf second := by
      refine ih.imp_of_mem fun hfirst hsecond hlt => ?_
      rwa [hkept hfirst, hkept hsecond]
    rw [Analysis.eraseDups_concat]
    split
    · exact hbefore
    · next hnew =>
      refine List.pairwise_append.mpr ⟨hbefore, List.pairwise_singleton _ _, ?_⟩
      intro entry hentry other hother
      obtain rfl := List.mem_singleton.mp hother
      rw [hkept hentry, List.idxOf_append_of_notMem hnew]
      exact Nat.lt_add_right _ (List.idxOf_lt_length_of_mem (List.mem_eraseDups.mp hentry))

namespace Plan.HttpService

variable {options : GenerationOptions} {package : Package}

theorem map_method_routesFor (place : Service × Operation) :
    (routesFor options package place).map Route.method =
      ((meantMethods options place.2).map String.toUpper).eraseDups := by
  rw [routesFor, operationRoutes, List.map_map]
  exact List.map_id _

theorem areNamed_routesFor (place : Service × Operation) :
    AreNamed (meantMethods options place.2)
      ((routesFor options package place).map Route.method) where
  nonempty := List.map_eq_nil_iff.not.mpr (operationRoutes_ne_nil place.1 options package place.2)
  distinct := map_method_routesFor place ▸ Analysis.nodup_eraseDups _
  mem_iff := fun _ => map_method_routesFor place ▸ List.mem_eraseDups
  capital := by
    intro method hmethod c hc
    rw [map_method_routesFor] at hmethod
    obtain ⟨name, -, rfl⟩ := List.mem_map.mp (List.mem_eraseDups.mp hmethod)
    rw [String.toUpper, String.toList_map] at hc
    obtain ⟨small, -, rfl⟩ := List.mem_map.mp hc
    exact Char.isLower_toUpper_eq_false small
  inOrder := map_method_routesFor place ▸ pairwise_eraseDups _

theorem path_of_mem {place : Service × Operation} {route : Route}
    (hroute : route ∈ routesFor options package place) :
    route.path = (declaredPath? options place.2).getD
      ("/" ++ package.name ++ "/" ++ place.2.name) := by
  obtain ⟨-, -, rfl⟩ := List.mem_map.mp hroute
  rfl

/-- Where no path is given, it is made of the name of the operation, and tells it. -/
theorem path_eq_iff {a b : Service × Operation} (ha : declaredPath? options a.2 = none)
    (hb : declaredPath? options b.2 = none) {route other : Route}
    (hroute : route ∈ routesFor options package a) (hother : other ∈ routesFor options package b) :
    route.path = other.path ↔ a.2.name = b.2.name := by
  rw [path_of_mem hroute, path_of_mem hother, ha, hb]
  exact String.append_right_inj _

/-- Where operations of one name have the same methods and no paths are given, their routes meet. -/
theorem exists_meeting (package : Package) {a b : Service × Operation}
    (ha : declaredPath? options a.2 = none) (hb : declaredPath? options b.2 = none)
    (hname : a.2.name = b.2.name)
    (hmethods : meantMethods options a.2 = meantMethods options b.2) :
    ∃ route ∈ routesFor options package a, ∃ other ∈ routesFor options package b,
      (route.method, route.path) = (other.method, other.path) := by
  have hsame : (routesFor options package a).map Route.method =
      (routesFor options package b).map Route.method := by
    rw [map_method_routesFor, map_method_routesFor, hmethods]
  obtain ⟨route, hroute⟩ :=
    List.exists_mem_of_ne_nil _ (operationRoutes_ne_nil a.1 options package a.2)
  obtain ⟨other, hother, hmethod⟩ :=
    List.mem_map.mp (hsame ▸ List.mem_map_of_mem (f := Route.method) hroute)
  refine ⟨route, hroute, other, hother, Prod.ext hmethod.symm ?_⟩
  exact (path_eq_iff ha hb hroute hother).mpr hname

theorem routes_contribution (service : Service) :
    (Contribution.of options package service).plan.routes =
      (generated service).flatMap fun operation =>
        if service.kind = .service then operationRoutes options package service operation
        else [] := by
  unfold Contribution.of generated
  cases hkind : service.kind with
  | activity => simp [Activity.contribution, ServicePlan.routes]
  | workflow => simp [Workflow.contribution, ServicePlan.routes]
  | service => simp [contribution, ServicePlan.routes, plan]

end Plan.HttpService

namespace PackagePlan

variable {options : GenerationOptions} {package : Package} {plan : PackagePlan}

theorem routes_of_build (hbuild : build options package = .ok plan) :
    plan.routes = (routed package).flatMap (routesFor options package) := by
  obtain ⟨-, -, hservices, -⟩ := of_build hbuild
  rw [routes, hservices, List.flatMap_map, routed, flatMap_filter, generatedOf, List.flatMap_assoc]
  refine List.flatMap_congr fun service _ => ?_
  rw [routes_contribution, List.flatMap_map]
  exact List.flatMap_congr fun operation _ => by simp [routesFor]

/-- No two operations with routes agree in the names of their services and in their own: they would
have the same constant. -/
theorem pairwise_routed (hbuild : build options package = .ok plan) :
    (routed package).Pairwise fun a b => ¬(a.1.name = b.1.name ∧ a.2.name = b.2.name) := by
  have hnodup : ((generatedOf package).map fun place =>
      Naming.operationConstant place.1.name place.2.name).Nodup := by
    rw [generatedOf, List.map_flatMap]
    simpa only [List.map_map, Function.comp_def] using nodup_operationConstants hbuild
  refine ((List.pairwise_map.mp hnodup).sublist List.filter_sublist).imp ?_
  rintro a b hconstants ⟨hservices, hoperations⟩
  exact hconstants (by rw [hservices, hoperations])

/-- In the plan of a package, the routes of one operation differ in their methods, and the routes of
two operations without given paths meet only if the operations have the same name in different
services. -/
theorem routesDiffer_of_build (hbuild : build options package = .ok plan) :
    RoutesDiffer options package plan where
  routes := routes_of_build hbuild
  methods := fun place _ => areNamed_routesFor place
  paths := by
    refine (pairwise_routed hbuild).imp fun hapart ha hb route hroute other hother => ?_
    rw [path_eq_iff ha hb hroute hother, AreNamesakes]
    exact ⟨fun hname => ⟨hname, fun hservice => hapart ⟨hservice, hname⟩⟩, And.left⟩

/-- A market whose stalls are counted by two methods, of which one is named twice, and are listed
like its guards. -/
def market : Package :=
  let operation (name : String) (tags : List Tag) : Operation :=
    { name, kind := .method, docs := "", params := [], results := [], tags
      declaredKinds := [.method], location := ⟨"market.rs", 1, 1⟩ }
  let service (name : String) (operations : List Operation) : Service :=
    { name, kind := .service, docs := "", tags := [], declaredKinds := [.service], operations
      location := ⟨"market.rs", 1, 1⟩ }
  { name := "market"
    sourcePath := "market.rs"
    services := [
      service "Stalls" [operation "list" [], operation "count"
        [⟨["weft", "service", "method"], .ofPairs [("method", ["get", "GET", "put"])]⟩]],
      service "Guards" [operation "list" []]] }

theorem market_routesDiffer :
    ∃ plan, build {} market = .ok plan ∧
      (routed market).map (fun place => methods {} place.2) =
        [["POST"], ["GET", "PUT"], ["POST"]] ∧
      RoutesDiffer {} market plan := by
  have hproblems : (ledger {} market).problems.isEmpty := by decide +kernel
  obtain ⟨plan, hbuild⟩ := exists_build hproblems
  exact ⟨plan, hbuild, by cbv, routesDiffer_of_build hbuild⟩

/-- Two services of the market have an operation of the same name. No path is given for either, and
their routes have the same method and the same path. -/
theorem namesakes_share_route :
    ∃ plan, build {} market = .ok plan ∧
      plan.routes = (routed market).flatMap (routesFor {} market) ∧
      ¬(routed market).Pairwise fun a b =>
        declaredPath? {} a.2 = none → declaredPath? {} b.2 = none →
          ∀ route ∈ routesFor {} market a, ∀ other ∈ routesFor {} market b,
            (route.method, route.path) ≠ (other.method, other.path) := by
  have hproblems : (ledger {} market).problems.isEmpty := by decide +kernel
  obtain ⟨plan, hbuild⟩ := exists_build hproblems
  refine ⟨plan, hbuild, routes_of_build hbuild, fun hapart => ?_⟩
  obtain ⟨stalls, count, guards, hrouted, hstalls, hguards, hname, hmethods⟩ :
      ∃ stalls count guards, routed market = [stalls, count, guards] ∧
        declaredPath? {} stalls.2 = none ∧ declaredPath? {} guards.2 = none ∧
        stalls.2.name = guards.2.name ∧
        meantMethods {} stalls.2 = meantMethods {} guards.2 :=
    ⟨_, _, _, rfl, by decide +kernel, by decide +kernel, rfl, by decide +kernel⟩
  obtain ⟨route, hroute, other, hother, hsame⟩ :=
    exists_meeting market hstalls hguards hname hmethods
  rw [hrouted] at hapart
  have hlast := (List.pairwise_cons.mp hapart).1 guards (by simp)
  exact hlast hstalls hguards route hroute other hother hsame

end PackagePlan

end ServiceGen
