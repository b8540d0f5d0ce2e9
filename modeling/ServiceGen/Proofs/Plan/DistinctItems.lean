import ServiceGen.Proofs.Plan.ItemNames

/-!
Whether the items of the generated file have distinct names. A package has a plan if the names of
its constants are distinct, and this is all that is checked. The constants tell the services and the
generated operations apart, so that items of one kind which are named after different ones of these
have different names. What remains are items whose kinds are named alike: a handle of a workflow
`OrderChild` and one to the children of `Order`, or its external runs, and the controller of a
service `Worker` and that of the whole package.
-/
namespace ServiceGen.Plan

open Naming ItemName

/-- Whether names tell what stands behind them from what else stands there. -/
def Telling (names middles : List String) : Prop :=
  ∀ name ∈ names, ∀ other ∈ names, ∀ middle ∈ middles, ∀ another ∈ middles,
    name ++ middle = other ++ another → middle = another

section Telling

variable {names : List String}

theorem nodup_append_iff {services : List Service} {middles : List String}
    (hnames : (services.map Service.name).Nodup) (hmiddles : middles.Nodup) (ending : String) :
    (services.flatMap fun service =>
        middles.map fun middle => service.name ++ (middle ++ ending)).Nodup ↔
      Telling (services.map Service.name) middles := by
  have hpairs : (services.flatMap fun service =>
      middles.map fun middle => service.name ++ (middle ++ ending)) =
        (services.map Service.name ×ˢ middles).map fun pair => pair.1 ++ (pair.2 ++ ending) := by
    change _ = ((services.map Service.name).flatMap fun name => middles.map (Prod.mk name)).map _
    rw [List.map_flatMap, List.flatMap_map]
    simp only [List.map_map, Function.comp_def]
  have hcancel {name other middle another : String}
      (heq : name ++ (middle ++ ending) = other ++ (another ++ ending)) :
      name ++ middle = other ++ another := by
    rw [← String.append_assoc, ← String.append_assoc] at heq
    exact (String.append_left_inj _).mp heq
  rw [hpairs, List.nodup_map_iff_inj_on (hnames.product hmiddles)]
  constructor
  · intro hinjective name hname other hother middle hmiddle another hanother heq
    have hpair := hinjective (name, middle) (List.mem_product.mpr ⟨hname, hmiddle⟩)
      (other, another) (List.mem_product.mpr ⟨hother, hanother⟩)
    have hlonger : name ++ (middle ++ ending) = other ++ (another ++ ending) := by
      rw [← String.append_assoc, ← String.append_assoc, heq]
    exact congrArg Prod.snd (hpair hlonger)
  · rintro htelling ⟨name, middle⟩ hfirst ⟨other, another⟩ hsecond heq
    obtain ⟨hname, hmiddle⟩ := List.mem_product.mp hfirst
    obtain ⟨hother, hanother⟩ := List.mem_product.mp hsecond
    have hmiddles := htelling name hname other hother middle hmiddle another hanother (hcancel heq)
    subst hmiddles
    exact Prod.ext ((String.append_left_inj _).mp (hcancel heq)) rfl

/-- Names tell what stands behind them if none is another one with something behind it. -/
theorem telling_cons_iff {middles : List String} (hempty : "" ∉ middles)
    (hmiddles : ∀ middle ∈ middles, ∀ another ∈ middles,
      middle.toList <:+ another.toList → middle = another) :
    Telling names ("" :: middles) ↔
      ∀ middle ∈ middles, ∀ name ∈ names, ∀ other ∈ names, name ≠ other ++ middle := by
  constructor
  · intro htelling middle hmiddle name hname other hother heq
    have hnone := htelling name hname other hother "" List.mem_cons_self middle
      (List.mem_cons_of_mem _ hmiddle) (by rw [String.append_empty, heq])
    exact hempty (hnone ▸ hmiddle)
  · intro hapart name hname other hother middle hmiddle another hanother heq
    obtain rfl | hmiddle := List.mem_cons.mp hmiddle <;>
      obtain rfl | hanother := List.mem_cons.mp hanother
    · rfl
    · rw [String.append_empty] at heq
      exact absurd heq (hapart another hanother name hname other hother)
    · rw [String.append_empty] at heq
      exact absurd heq.symm (hapart middle hmiddle other hother name hname)
    -- Both stand at the end of the same text, so that one of them ends in the other.
    · have hends : middle.toList <:+ (name ++ middle).toList := by
        rw [String.toList_append]
        exact List.suffix_append _ _
      have hotherEnds : another.toList <:+ (name ++ middle).toList := by
        rw [heq, String.toList_append]
        exact List.suffix_append _ _
      obtain hshorter | hlonger := List.suffix_or_suffix_of_suffix hends hotherEnds
      · exact hmiddles middle hmiddle another hanother hshorter
      · exact (hmiddles another hanother middle hmiddle hlonger).symm

end Telling

/-- No workflow has a client that is made by the same function as the child client of another one,
or is named like the external runs of another one, and no service is named like the worker. -/
structure ItemsApart (package : Package) : Prop where
  child : ∀ service ∈ workflows package, ∀ parent ∈ workflows package,
    constructor (TypeRole.client.of service.name) ≠
      constructor (TypeRole.childClient.of parent.name)
  external : ∀ service ∈ workflows package, ∀ other ∈ workflows package,
    service.name ≠ other.name ++ "External"
  worker : (∃ service ∈ package.services, service.kind ≠ .service) →
    ∀ service ∈ package.services, service.name ≠ "Worker"

/-- Beyond that, functions of one kind have different names. -/
structure ItemsClear (package : Package) : Prop extends ItemsApart package where
  proxies : ((activities package).map fun service =>
    constructor (TypeRole.proxy.of service.name)).Nodup
  clients : ((workflows package).map fun service =>
    constructor (TypeRole.client.of service.name)).Nodup
  childClients : ((workflows package).map fun service =>
    constructor (TypeRole.childClient.of service.name)).Nodup
  channels : ((workflows package).flatMap fun service =>
    (Workflow.usableOf service .signal).map fun operation =>
      channelProvider service.name operation.name).Nodup

section Package

variable {options : GenerationOptions} {package : Package} {plan : PackagePlan}

/-- Services have different names, even in shouty case. -/
theorem nodup_shouty (hbuild : PackagePlan.build options package = .ok plan) :
    (package.services.map fun service => shouty service.name).Nodup := by
  obtain ⟨hconstants, hnodup⟩ := PackagePlan.constants_of_build hbuild
  have hsublist : (package.services.map (Convention.serviceConstant package)).Sublist
      plan.constants := by
    rw [hconstants, List.map_eq_flatMap]
    refine .cons _ (List.Sublist.flatMap_right _ fun service _ => ?_)
    rw [ownConstants, List.cons_append]
    exact (List.nil_sublist _).cons_cons _
  have hnames := hnodup.sublist (hsublist.map Constant.name)
  rw [List.map_map] at hnames
  have hends : (package.services.map (Constant.name ∘ Convention.serviceConstant package)) =
      (package.services.map fun service => shouty service.name).map (· ++ "_NAME") := by
    rw [List.map_map]
    rfl
  rw [hends] at hnames
  exact List.Nodup.of_map _ hnames

theorem nodup_names (hbuild : PackagePlan.build options package = .ok plan) :
    (package.services.map Service.name).Nodup := by
  have hshouty := nodup_shouty hbuild
  have hmap : (package.services.map fun service => shouty service.name) =
      (package.services.map Service.name).map shouty := by
    rw [List.map_map]
    rfl
  rw [hmap] at hshouty
  exact List.Nodup.of_map _ hshouty

/-- There is a controller of the whole package unless all its services are plain. -/
theorem isEmpty_controllers (hbuild : PackagePlan.build options package = .ok plan) :
    plan.gathering.controllers.isEmpty = true ↔ ∀ service ∈ package.services,
      service.kind = .service := by
  have hcontrollers : plan.gathering.controllers = package.services.flatMap fun service =>
      (Contribution.of options package service).gathering.controllers := by
    rw [PackagePlan.gathering_of_build hbuild]
    exact List.flatMap_map _ _ _
  have hnone (service : Service) :
      (Contribution.of options package service).gathering.controllers = [] ↔
        service.kind = .service := by
    unfold Contribution.of
    cases service.kind with
    | service => exact ⟨fun _ => rfl, fun _ => rfl⟩
    | activity | workflow => exact ⟨fun hnil => absurd hnil (List.cons_ne_nil _ _), nofun⟩
  rw [List.isEmpty_iff, hcontrollers, List.flatMap_eq_nil_iff]
  exact forall₂_congr fun service _ => hnone service

theorem nodup_family_types (hbuild : PackagePlan.build options package = .ok plan)
    {ending : Ending} {kind : ServiceKind} {middles : List String} (hmiddles : middles.Nodup)
    (htypes : typesWith ending = some (kind, middles)) :
    (family ending (allNames package plan)).Nodup ↔
      Telling ((package.services.filter (·.kind = kind)).map Service.name) middles := by
  have hnames := (nodup_names hbuild).sublist
    (List.filter_sublist (p := fun service => decide (service.kind = kind)) |>.map Service.name)
  rw [family_types htypes]
  exact nodup_append_iff hnames hmiddles ending.text

theorem nodup_family_newClient :
    (family .newClient (allNames package plan)).Nodup ↔
      ((workflows package).map fun service =>
          constructor (TypeRole.client.of service.name)).Nodup ∧
        ((workflows package).map fun service =>
          constructor (TypeRole.childClient.of service.name)).Nodup ∧
        ∀ service ∈ workflows package, ∀ parent ∈ workflows package,
          constructor (TypeRole.client.of service.name) ≠
            constructor (TypeRole.childClient.of parent.name) := by
  have hperm := List.flatMap_append_perm (workflows package)
    (fun service => [constructor (TypeRole.client.of service.name)])
    fun service => [constructor (TypeRole.childClient.of service.name)]
  rw [← List.map_eq_flatMap, ← List.map_eq_flatMap] at hperm
  rw [family_newClient]
  refine hperm.nodup_iff.symm.trans ?_
  rw [List.nodup_append]
  simp only [List.forall_mem_map]

theorem nodup_family_controller (hbuild : PackagePlan.build options package = .ok plan) :
    (family .controller (allNames package plan)).Nodup ↔
      ((∃ service ∈ package.services, service.kind ≠ .service) →
        ∀ service ∈ package.services, service.name ≠ "Worker") := by
  have hsome : (∃ service ∈ package.services, service.kind ≠ .service) ↔
      ¬ plan.gathering.controllers.isEmpty = true := by
    rw [isEmpty_controllers hbuild]
    push Not
    rfl
  have hnames : (package.services.map fun service =>
      TypeRole.controller.of service.name).Nodup := by
    have hlonger := (nodup_names hbuild).map (f := (· ++ "Controller"))
      fun _ _ heq => (String.append_left_inj _).mp heq
    rwa [List.map_map] at hlonger
  have hworker (service : Service) :
      service.name ++ "Controller" = "Worker" ++ "Controller" ↔ service.name = "Worker" :=
    String.append_left_inj "Controller"
  rw [family_controller, hsome]
  by_cases hempty : plan.gathering.controllers.isEmpty = true
  · rw [if_pos hempty, List.append_nil]
    exact ⟨fun _ hnot => absurd hempty hnot, fun _ => hnames⟩
  · rw [if_neg hempty, List.nodup_append]
    have hdisjoint : (∀ name ∈ package.services.map fun service =>
        TypeRole.controller.of service.name, ∀ other ∈ ["WorkerController"], name ≠ other) ↔
          ∀ service ∈ package.services, service.name ≠ "Worker" := by
      simp only [List.forall_mem_map, List.mem_singleton, forall_eq]
      exact forall₂_congr fun service _ => not_congr (hworker service)
    rw [hdisjoint]
    exact ⟨fun hall _ => hall.2.2, fun hall => ⟨hnames, List.nodup_singleton _, hall hempty⟩⟩

theorem family_channel_eq (hbuild : PackagePlan.build options package = .ok plan) :
    family .channel (allNames package plan) = (workflows package).flatMap fun service =>
      (Workflow.usableOf service .signal).map fun operation =>
        channelProvider service.name operation.name := by
  rw [family_channel, signalChannels_eq hbuild, List.map_flatMap]
  simp only [List.map_map, Function.comp_def, Workflow.signalChannel]

/-- The names of a workflow's children are among those that make the function for its child client
make another client. -/
theorem ItemsApart.ne_child (hapart : ItemsApart package) :
    ∀ name ∈ (workflows package).map Service.name,
      ∀ other ∈ (workflows package).map Service.name, name ≠ other ++ "Child" := by
  simp only [List.forall_mem_map]
  intro service hservice parent hparent heq
  apply hapart.child service hservice parent hparent
  rw [TypeRole.of, heq, String.append_assoc]
  rfl

/-- The items of a package have distinct names exactly if those are clear of each other that the
constants do not tell apart. -/
theorem nodup_items_iff_clear (hbuild : PackagePlan.build options package = .ok plan) :
    plan.items.Nodup ↔ ItemsClear package := by
  rw [← text_allNames hbuild, nodup_texts_iff (fits_allNames hbuild)]
  have hsingle (kind : ServiceKind) :
      Telling ((package.services.filter (·.kind = kind)).map Service.name) [""] :=
    (telling_cons_iff (by decide) (by decide)).mpr (by simp)
  constructor
  · intro hfamilies
    obtain ⟨hclients, hchildClients, hchild⟩ := nodup_family_newClient.mp (hfamilies .newClient)
    have hruns := (nodup_family_types hbuild (by decide) rfl).mp (hfamilies .run)
    have hworker := (nodup_family_controller hbuild).mp (hfamilies .controller)
    have hproxies := family_newProxy ▸ hfamilies .newProxy
    have hchannels := family_channel_eq hbuild ▸ hfamilies .channel
    have hexternal := (telling_cons_iff (by decide) (by decide)).mp hruns "External" (by simp)
    simp only [List.forall_mem_map] at hexternal
    exact ⟨⟨hchild, hexternal, hworker⟩, hproxies, hclients, hchildClients, hchannels⟩
  · intro hclear ending
    have hexternal : ∀ name ∈ (workflows package).map Service.name,
        ∀ other ∈ (workflows package).map Service.name, name ≠ other ++ "External" := by
      simp only [List.forall_mem_map]
      exact hclear.external
    have hruns : Telling ((workflows package).map Service.name) ["", "Child", "External"] := by
      refine (telling_cons_iff (by decide) (by decide)).mpr ?_
      simp only [List.forall_mem_cons]
      exact ⟨hclear.ne_child, hexternal, by simp⟩
    have hclients : Telling ((workflows package).map Service.name) ["", "Child"] := by
      refine (telling_cons_iff (by decide) (by decide)).mpr ?_
      simp only [List.forall_mem_cons]
      exact ⟨hclear.ne_child, by simp⟩
    cases ending with
    | constant => exact family_constant ▸ (PackagePlan.constants_of_build hbuild).2
    | channel => exact family_channel_eq hbuild ▸ hclear.channels
    | gathered => exact nodup_family_gathered (.inl rfl)
    | gatheredImpl => exact nodup_family_gathered (.inr rfl)
    | proxy | proxyImpl | input | factory =>
      exact (nodup_family_types hbuild (by decide) rfl).mpr (hsingle _)
    | newProxy => exact family_newProxy ▸ hclear.proxies
    | run | runImpl => exact (nodup_family_types hbuild (by decide) rfl).mpr hruns
    | client | clientImpl => exact (nodup_family_types hbuild (by decide) rfl).mpr hclients
    | newClient =>
      exact nodup_family_newClient.mpr ⟨hclear.clients, hclear.childClients, hclear.child⟩
    | controller => exact (nodup_family_controller hbuild).mpr hclear.worker

/-- Whether the names of services and signals are of steady characters. -/
def SteadyNames (package : Package) : Prop :=
  ∀ service ∈ package.services, IsSteady service.name ∧
    ∀ operation ∈ Workflow.usableOf service .signal, IsSteady operation.name

theorem capitalised_child : Capitalised 'C' "hild".toList :=
  ⟨by decide, by decide, by decide, List.all_eq_true.mp (by decide),
    List.all_eq_true.mp (by decide)⟩

/-- The functions that make the objects of a kind have different names. -/
theorem nodup_constructors (hbuild : PackagePlan.build options package = .ok plan)
    (hsteady : SteadyNames package) {services : List Service}
    (hservices : services.Sublist package.services) {role : TypeRole}
    (hascii : IsAscii role.ending)
    (htells : ∀ name other, shouty (role.of name) = shouty (role.of other) →
      shouty name = shouty other) :
    (services.map fun service => constructor (role.of service.name)).Nodup := by
  have hsublist := hservices.map fun service => shouty service.name
  have hdistinct := (nodup_shouty hbuild).sublist hsublist
  refine nodup_map_of_keys hdistinct ?_
  intro service hservice other hother hconstructors
  have hname : IsSteady (role.of service.name) :=
    isSteady_append (hsteady service (hservices.subset hservice)).1 (isSteady_of_ascii hascii)
  have hotherName : IsSteady (role.of other.name) :=
    isSteady_append (hsteady other (hservices.subset hother)).1 (isSteady_of_ascii hascii)
  have hsnake : snake (role.of service.name) = snake (role.of other.name) :=
    (String.append_right_inj _).mp hconstructors
  exact htells _ _ (shouty_eq_of_snake_eq hname hotherName hsnake)

theorem operationConstant_eq_of_channelProvider_eq {service other operation another : String}
    (hservice : IsSteady service) (hother : IsSteady other) (hoperation : IsSteady operation)
    (hanother : IsSteady another)
    (hproviders : channelProvider service operation = channelProvider other another) :
    operationConstant service operation = operationConstant other another := by
  have hsnake : snake service ++ "_" ++ snake operation = snake other ++ "_" ++ snake another := by
    simp only [channelProvider, String.append_assoc, String.append_right_inj] at hproviders
    simp only [← String.append_assoc, String.append_left_inj] at hproviders
    exact hproviders
  have hlarge (name method : String) (hname : IsSteady name) (hmethod : IsSteady method) :
      (snake name ++ "_" ++ snake method).toList.flatMap Text.LetterCase.upper =
        (shouty name ++ "_" ++ shouty method).toList := by
    have hunderscore : "_".toList.flatMap Text.LetterCase.upper = "_".toList := by decide +kernel
    simp only [String.toList_append, List.flatMap_append, upper_snake hname, upper_snake hmethod,
      hunderscore]
  have hshouty : shouty service ++ "_" ++ shouty operation =
      shouty other ++ "_" ++ shouty another := by
    apply String.toList_inj.mp
    rw [← hlarge _ _ hservice hoperation, ← hlarge _ _ hother hanother, hsnake]
  rw [operationConstant, operationConstant, hshouty]

/-- The signals of a package, each with its workflow. -/
def signals (package : Package) : List (Service × Operation) :=
  (workflows package).flatMap fun service =>
    (Workflow.usableOf service .signal).map fun operation => (service, operation)

theorem map_signals {α : Type} (f : Service → Operation → α) :
    (signals package).map (fun signal => f signal.1 signal.2) =
      (workflows package).flatMap fun service =>
        (Workflow.usableOf service .signal).map (f service) := by
  simp only [signals, List.map_flatMap, List.map_map, Function.comp_def]

theorem nodup_signalConstants (hbuild : PackagePlan.build options package = .ok plan) :
    ((signals package).map fun signal =>
      operationConstant signal.1.name signal.2.name).Nodup := by
  refine (PackagePlan.nodup_operationConstants hbuild).sublist ?_
  rw [map_signals fun service operation => operationConstant service.name operation.name,
    workflows, flatMap_filter]
  refine List.Sublist.flatMap_right _ fun service _ => ?_
  split
  · next hworkflow =>
    exact (sublist_usableOf (of_decide_eq_true hworkflow) .signal (by simp)).map _
  · exact List.nil_sublist _

/-- The functions for the channels of signals have different names. -/
theorem nodup_channels (hbuild : PackagePlan.build options package = .ok plan)
    (hsteady : SteadyNames package) :
    ((workflows package).flatMap fun service =>
      (Workflow.usableOf service .signal).map fun operation =>
        channelProvider service.name operation.name).Nodup := by
  have hsignal : ∀ signal ∈ signals package,
      IsSteady signal.1.name ∧ IsSteady signal.2.name := by
    intro signal hmem
    obtain ⟨service, hservice, hoperations⟩ := List.mem_flatMap.mp hmem
    obtain ⟨operation, hoperation, rfl⟩ := List.mem_map.mp hoperations
    obtain ⟨hname, hnames⟩ := hsteady service (List.mem_of_mem_filter hservice)
    exact ⟨hname, hnames operation hoperation⟩
  rw [← map_signals fun service operation => channelProvider service.name operation.name]
  refine nodup_map_of_keys (nodup_signalConstants hbuild) ?_
  intro signal hfirst other hsecond hproviders
  obtain ⟨hservice, hoperation⟩ := hsignal signal hfirst
  obtain ⟨hother, hanother⟩ := hsignal other hsecond
  exact operationConstant_eq_of_channelProvider_eq hservice hother hoperation hanother hproviders

theorem ItemsApart.clear (hbuild : PackagePlan.build options package = .ok plan)
    (hsteady : SteadyNames package) (hapart : ItemsApart package) : ItemsClear package := by
  have hproxy (name other : String) :
      shouty (TypeRole.proxy.of name) = shouty (TypeRole.proxy.of other) →
        shouty name = shouty other := shouty_append_cancel capitalised_proxy
  have hclient (name other : String) :
      shouty (TypeRole.client.of name) = shouty (TypeRole.client.of other) →
        shouty name = shouty other := shouty_append_cancel capitalised_client
  have hchildClient (name other : String)
      (hshouty : shouty (TypeRole.childClient.of name) = shouty (TypeRole.childClient.of other)) :
      shouty name = shouty other := by
    rw [TypeRole.of, TypeRole.of, show TypeRole.childClient.ending = "Child" ++ "Client" from rfl,
      ← String.append_assoc, ← String.append_assoc] at hshouty
    exact shouty_append_cancel capitalised_child (shouty_append_cancel capitalised_client hshouty)
  exact ⟨hapart, nodup_constructors hbuild hsteady List.filter_sublist (by decide) hproxy,
    nodup_constructors hbuild hsteady List.filter_sublist (by decide) hclient,
    nodup_constructors hbuild hsteady List.filter_sublist (by decide) hchildClient,
    nodup_channels hbuild hsteady⟩

/-- The code of a package defines the items of its plan. They have distinct names exactly if no two
items of different kinds have one name and no two functions of one kind do. If names are of steady
characters, the latter is granted by the constants of the package. -/
theorem items_nodup_iff (hbuild : PackagePlan.build options package = .ok plan) :
    (∀ context code, Render.Package.emit context plan = .ok code →
        Render.Defines code plan.items) ∧
      (plan.items.Nodup ↔ ItemsClear package) ∧
      (SteadyNames package → (plan.items.Nodup ↔ ItemsApart package)) := by
  have hclear := nodup_items_iff_clear hbuild
  refine ⟨fun context => Render.Package.emit_defines context plan, hclear, ?_⟩
  intro hsteady
  exact hclear.trans ⟨ItemsClear.toItemsApart, ItemsApart.clear hbuild hsteady⟩

theorem store_items :
    ∃ plan, PackagePlan.build {} store = .ok plan ∧ plan.items.Nodup := by
  have hproblems : (PackagePlan.ledger {} store).problems.isEmpty := by decide +kernel
  obtain ⟨plan, hbuild⟩ := PackagePlan.exists_build hproblems
  have hsteady : SteadyNames store := by
    have hascii : ∀ service ∈ store.services, IsAscii service.name ∧
        ∀ operation ∈ Workflow.usableOf service .signal, IsAscii operation.name := by
      decide +kernel
    intro service hservice
    obtain ⟨hname, hsignals⟩ := hascii service hservice
    exact ⟨isSteady_of_ascii hname, fun operation hoperation =>
      isSteady_of_ascii (hsignals operation hoperation)⟩
  have hapart : ItemsApart store := by constructor <;> decide +kernel
  exact ⟨plan, hbuild, ((items_nodup_iff hbuild).2.2 hsteady).mpr hapart⟩

/-- A yard with two workflows. -/
def yard (first second : String) : Package :=
  let workflow (name : String) : Service :=
    { name, kind := .workflow, docs := "", tags := [], declaredKinds := [.workflow]
      location := ⟨"yard.rs", 1, 1⟩
      operations := [{
        name := "run", kind := .execute, docs := "", params := [], results := [], tags := []
        declaredKinds := [.execute], location := ⟨"yard.rs", 1, 1⟩ }] }
  { name := "yard", sourcePath := "yard.rs", services := [workflow first, workflow second] }

/-- Whether the items of a package have distinct names, if the package has a plan. -/
def distinct? (package : Package) : Except (List Problem) Bool :=
  (PackagePlan.build {} package).map fun plan => decide plan.items.Nodup

/-- A workflow that is named like the children of another one, one named like its external runs, one
named like the worker, and two whose names differ in a letter which has one small form for two
capitals. -/
theorem workflows_clash :
    distinct? (yard "Order" "OrderChild") = .ok false ∧
      distinct? (yard "Order" "OrderExternal") = .ok false ∧
      distinct? (yard "Order" "Worker") = .ok false ∧
      distinct? (yard "Maß" "MAẞ") = .ok false := by
  decide +kernel

end Package

end ServiceGen.Plan
