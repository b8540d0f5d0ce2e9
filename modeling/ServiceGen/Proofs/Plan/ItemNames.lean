import Mathlib.Data.List.ProdSigma
import ServiceGen.Proofs.Naming.Ending
import ServiceGen.Proofs.Plan.Agreement
import ServiceGen.Proofs.Render.Items

/-!
The names of the items of the generated file. All of them end in something that tells what they
name, so that only items of one kind can have the same name. A few kinds have endings that are
longer forms of each other: `OrderChild` and `Order` both have a handle `OrderChildRun`. Only the
names of constants are checked to be distinct. From them follows that the names of all items are, as
long as no workflow is named like the children of another one or like its external runs, no service
is named like the worker, and the names hold no letters that the small form confuses.
-/
namespace ServiceGen

open Plan Plan.Convention

/-- What the name of an item ends in. -/
inductive Ending where
  | constant
  | channel
  | gathered
  | gatheredImpl
  | proxy
  | proxyImpl
  | newProxy
  | run
  | runImpl
  | client
  | clientImpl
  | newClient
  | input
  | factory
  | controller
  deriving DecidableEq

namespace Ending

def text : Ending → String
  | .constant => "E"
  | .channel => "_signal_channel"
  | .gathered => "s"
  | .gatheredImpl => "sImpl"
  | .proxy => "Proxy"
  | .proxyImpl => "ProxyImpl"
  | .newProxy => "proxy"
  | .run => "Run"
  | .runImpl => "RunImpl"
  | .client => "Client"
  | .clientImpl => "ClientImpl"
  | .newClient => "client"
  | .input => "Input"
  | .factory => "Factory"
  | .controller => "Controller"

def all : List Ending :=
  [.constant, .channel, .gathered, .gatheredImpl, .proxy, .proxyImpl, .newProxy, .run, .runImpl,
    .client, .clientImpl, .newClient, .input, .factory, .controller]

theorem mem_all (ending : Ending) : ending ∈ all := by
  cases ending <;> decide

/-- No ending ends in another one. -/
theorem eq_of_suffix {ending other : Ending} (hsuffix : ending.text.toList <:+ other.text.toList) :
    ending = other := by
  have hall : ∀ ending ∈ all, ∀ other ∈ all,
      ending.text.toList <:+ other.text.toList → ending = other := by decide +kernel
  exact hall ending (mem_all ending) other (mem_all other) hsuffix

end Ending

/-- The name of an item, with what it ends in. -/
structure ItemName where
  ending : Ending
  text : String

namespace ItemName

def Fits (name : ItemName) : Prop := name.ending.text.toList <:+ name.text.toList

theorem fits_append {ending : Ending} (front tail : String)
    (htail : ending.text.toList <:+ tail.toList) : Fits ⟨ending, front ++ tail⟩ := by
  rw [Fits, String.toList_append]
  exact List.suffix_append_of_suffix htail

/-- The names with an ending. -/
def family (ending : Ending) (names : List ItemName) : List String :=
  (names.filter (·.ending = ending)).map text

variable {ending : Ending}

theorem family_append (names others : List ItemName) :
    family ending (names ++ others) = family ending names ++ family ending others := by
  rw [family, List.filter_append, List.map_append]
  rfl

theorem family_flatMap {α : Type} (list : List α) (names : α → List ItemName) :
    family ending (list.flatMap names) = list.flatMap fun a => family ending (names a) := by
  rw [family, List.filter_flatMap, List.map_flatMap]
  rfl

theorem family_map_self {α : Type} (list : List α) (name : α → String) :
    family ending (list.map fun a => ⟨ending, name a⟩) = list.map name := by
  have hall : (list.filter fun _ => decide (ending = ending)) = list :=
    List.filter_eq_self.mpr fun _ _ => decide_eq_true rfl
  rw [family, List.filter_map, Function.comp_def, hall, List.map_map]
  rfl

theorem family_map_of_ne {α : Type} {other : Ending} (hother : other ≠ ending) (list : List α)
    (name : α → String) : family ending (list.map fun a => ⟨other, name a⟩) = [] := by
  rw [family, List.filter_map, List.filter_eq_nil_iff.mpr fun _ _ => by simpa using hother]
  rfl

/-- Names are distinct if those with the same ending are. -/
theorem nodup_texts_iff {names : List ItemName} (hfits : ∀ name ∈ names, name.Fits) :
    (names.map text).Nodup ↔ ∀ ending, (family ending names).Nodup := by
  constructor
  · intro hnodup ending
    exact hnodup.sublist (List.filter_sublist.map _)
  · intro hfamilies
    rw [List.Nodup, List.pairwise_map, List.pairwise_iff_forall_sublist]
    intro name other hpair htext
    -- Two names that are the same have comparable endings, which are then the same, too.
    have hname := hfits name (hpair.subset (by simp))
    have hother := hfits other (hpair.subset (by simp))
    have hending : name.ending = other.ending := by
      rw [Fits, ← htext] at hother
      obtain hshorter | hlonger := List.suffix_or_suffix_of_suffix hname hother
      · exact Ending.eq_of_suffix hshorter
      · exact (Ending.eq_of_suffix hlonger).symm
    have hfamily := hfamilies name.ending
    rw [family, List.Nodup, List.pairwise_map, List.pairwise_filter,
      List.pairwise_iff_forall_sublist] at hfamily
    exact hfamily hpair (decide_eq_true rfl) (decide_eq_true hending.symm) htext

end ItemName

namespace Plan

open Naming ItemName

def workflows (package : Package) : List Service := package.services.filter (·.kind = .workflow)

def activities (package : Package) : List Service := package.services.filter (·.kind = .activity)

def interfaceNames (service : Service) (role : TypeRole) (type hidden : Ending) : List ItemName :=
  [⟨type, role.of service.name⟩, ⟨hidden, implementation (role.of service.name)⟩]

/-- The names of the items of a service. -/
def itemNames (service : Service) : List ItemName :=
  match service.kind with
  | .activity =>
    interfaceNames service .proxy .proxy .proxyImpl ++
      [⟨.newProxy, constructor (TypeRole.proxy.of service.name)⟩,
        ⟨.controller, TypeRole.controller.of service.name⟩]
  | .workflow =>
    interfaceNames service .run .run .runImpl ++ interfaceNames service .childRun .run .runImpl ++
      interfaceNames service .externalRun .run .runImpl ++
      interfaceNames service .client .client .clientImpl ++
      interfaceNames service .childClient .client .clientImpl ++
      [⟨.newClient, constructor (TypeRole.client.of service.name)⟩,
        ⟨.newClient, constructor (TypeRole.childClient.of service.name)⟩,
        ⟨.input, TypeRole.input.of service.name⟩, ⟨.factory, TypeRole.factory.of service.name⟩,
        ⟨.controller, TypeRole.controller.of service.name⟩]
  | .service => [⟨.controller, TypeRole.controller.of service.name⟩]

/-- The names of an interface that gathers others, of its implementation and of the function that
makes it. -/
def gathererNames (type : String) : List ItemName :=
  [⟨.gathered, type⟩, ⟨.gatheredImpl, implementation type⟩, ⟨.gathered, constructor type⟩]

def gatheredNames (type : String) (entries : List GatheredInterface) : List ItemName :=
  if entries.isEmpty then [] else gathererNames type

def gatheringNames (gathering : Gathering) : List ItemName :=
  gatheredNames "WorkflowClients" gathering.workflowClients ++
    gatheredNames "WorkflowProxies" gathering.workflowProxies ++
    gatheredNames "ActivityProxies" gathering.activityProxies ++
    if gathering.controllers.isEmpty then [] else [⟨.controller, "WorkerController"⟩]

/-- The names of everything that can gather services. -/
def everyGatherer : List ItemName :=
  gathererNames "WorkflowClients" ++ gathererNames "WorkflowProxies" ++
    gathererNames "ActivityProxies" ++ [⟨.controller, "WorkerController"⟩]

theorem sublist_gatheredNames (type : String) (entries : List GatheredInterface) :
    (gatheredNames type entries).Sublist (gathererNames type) := by
  unfold gatheredNames
  split
  · exact List.nil_sublist _
  · exact List.Sublist.refl _

theorem sublist_gatheringNames (gathering : Gathering) :
    (gatheringNames gathering).Sublist everyGatherer := by
  refine (((sublist_gatheredNames _ _).append (sublist_gatheredNames _ _)).append
    (sublist_gatheredNames _ _)).append ?_
  split
  · exact List.nil_sublist _
  · exact List.Sublist.refl _

/-- The names of all items of a package. -/
def allNames (package : Package) (plan : PackagePlan) : List ItemName :=
  plan.constants.map (fun constant => ⟨.constant, constant.name⟩) ++
    plan.signalChannels.map (fun channel => ⟨.channel, channel.provider⟩) ++
    package.services.flatMap itemNames ++ gatheringNames plan.gathering

theorem text_itemNames (options : GenerationOptions) (package : Package) (service : Service) :
    (itemNames service).map text = (Contribution.of options package service).plan.items := by
  unfold itemNames Contribution.of
  cases service.kind <;> rfl

theorem text_gatheredNames (type : String) (entries : List GatheredInterface) :
    (gatheredNames type entries).map text = Gathering.itemsOf type entries := by
  unfold gatheredNames Gathering.itemsOf
  split <;> rfl

theorem text_gatheringNames (gathering : Gathering) :
    (gatheringNames gathering).map text = gathering.items := by
  rw [gatheringNames, List.map_append, List.map_append, List.map_append, text_gatheredNames,
    text_gatheredNames, text_gatheredNames, Gathering.items]
  split <;> rfl

section Package

variable {options : GenerationOptions} {package : Package} {plan : PackagePlan}

theorem text_allNames (hbuild : PackagePlan.build options package = .ok plan) :
    (allNames package plan).map text = plan.items := by
  obtain ⟨-, -, hservices, -⟩ := PackagePlan.of_build hbuild
  have hitems : (package.services.flatMap itemNames).map text =
      plan.services.flatMap ServicePlan.items := by
    rw [hservices, List.map_flatMap, List.flatMap_map]
    exact List.flatMap_congr fun service _ => text_itemNames options package service
  rw [allNames, List.map_append, List.map_append, List.map_append, hitems, text_gatheringNames,
    PackagePlan.items, List.map_map, List.map_map]
  rfl

/-- Constants are called names, but for those of task queues. -/
theorem fits_constant (hbuild : PackagePlan.build options package = .ok plan) {constant : Constant}
    (hconstant : constant ∈ plan.constants) : Fits ⟨.constant, constant.name⟩ := by
  have hname (front : String) : Fits ⟨.constant, front ++ "_NAME"⟩ :=
    fits_append front "_NAME" (by decide)
  have hqueue (front : String) : Fits ⟨.constant, front ++ "_TASK_QUEUE"⟩ :=
    fits_append front "_TASK_QUEUE" (by decide)
  rw [(PackagePlan.constants_of_build hbuild).1] at hconstant
  obtain rfl | hservices := List.mem_cons.mp hconstant
  · exact hname "PACKAGE"
  obtain ⟨service, -, hmem⟩ := List.mem_flatMap.mp hservices
  obtain hown | hoperation := List.mem_append.mp hmem
  · obtain rfl | hother := List.mem_cons.mp hown
    · exact hname _
    · cases hkind : service.kind with
      | service =>
        rw [hkind] at hother
        exact absurd hother List.not_mem_nil
      | activity | workflow =>
        rw [hkind] at hother
        rw [List.mem_singleton.mp hother]
        exact hqueue _
  · obtain ⟨operation, -, rfl⟩ := List.mem_map.mp hoperation
    exact hname _

/-- The channels of a package are those for the signals of its workflows. -/
theorem signalChannels_eq (hbuild : PackagePlan.build options package = .ok plan) :
    plan.signalChannels = (workflows package).flatMap fun service =>
      (Workflow.usableOf service .signal).map (Workflow.signalChannel service) := by
  obtain ⟨-, -, -, hchannels⟩ := PackagePlan.of_build hbuild
  rw [hchannels, workflows, flatMap_filter]
  refine List.flatMap_congr fun service _ => ?_
  unfold Contribution.of
  cases service.kind <;> rfl

theorem fits_channel (hbuild : PackagePlan.build options package = .ok plan)
    {channel : SignalChannel} (hchannel : channel ∈ plan.signalChannels) :
    Fits ⟨.channel, channel.provider⟩ := by
  rw [signalChannels_eq hbuild] at hchannel
  obtain ⟨service, -, hmem⟩ := List.mem_flatMap.mp hchannel
  obtain ⟨operation, -, rfl⟩ := List.mem_map.mp hmem
  exact fits_append _ "_signal_channel" (List.suffix_refl _)

theorem fits_interfaceNames (service : Service) {role : TypeRole} {type hidden : Ending}
    (htype : type.text.toList <:+ role.ending.toList)
    (hhidden : hidden.text.toList <:+ (role.ending ++ "Impl").toList) :
    ∀ name ∈ interfaceNames service role type hidden, name.Fits := by
  intro name hname
  simp only [interfaceNames, List.mem_cons, List.not_mem_nil, or_false] at hname
  obtain rfl | rfl := hname
  · exact fits_append _ _ htype
  · rw [implementation, TypeRole.of, String.append_assoc]
    exact fits_append _ _ hhidden

theorem capitalised_proxy : Capitalised 'P' "roxy".toList :=
  ⟨by decide, by decide, by decide, List.all_eq_true.mp (by decide),
    List.all_eq_true.mp (by decide)⟩

theorem capitalised_client : Capitalised 'C' "lient".toList :=
  ⟨by decide, by decide, by decide, List.all_eq_true.mp (by decide),
    List.all_eq_true.mp (by decide)⟩

theorem fits_constructor {ending : Ending} {first : Char} {rest : List Char}
    (hcapitalised : Capitalised first rest)
    (hending : ending.text.toList = lowercase (first :: rest)) (name : String) :
    Fits ⟨ending, constructor (name ++ String.ofList (first :: rest))⟩ := by
  have hsnake := suffix_snake_append hcapitalised name
  rw [← hending] at hsnake
  exact fits_append "new_" _ hsnake

theorem fits_itemNames (service : Service) : ∀ name ∈ itemNames service, name.Fits := by
  have htype (ending : Ending) : Fits ⟨ending, service.name ++ ending.text⟩ :=
    fits_append _ _ (List.suffix_refl _)
  have hcontroller : Fits ⟨.controller, TypeRole.controller.of service.name⟩ := htype .controller
  have hproxy : Fits ⟨.newProxy, constructor (TypeRole.proxy.of service.name)⟩ :=
    fits_constructor capitalised_proxy (by decide +kernel) service.name
  have hclient : Fits ⟨.newClient, constructor (TypeRole.client.of service.name)⟩ :=
    fits_constructor capitalised_client (by decide +kernel) service.name
  have hchildClient : Fits ⟨.newClient, constructor (TypeRole.childClient.of service.name)⟩ := by
    rw [TypeRole.of, show TypeRole.childClient.ending = "Child" ++ "Client" from rfl,
      ← String.append_assoc]
    exact fits_constructor capitalised_client (by decide +kernel) (service.name ++ "Child")
  unfold itemNames
  cases service.kind with
  | service => simpa using hcontroller
  | activity =>
    simp only [List.mem_append, or_imp, forall_and, List.forall_mem_cons]
    exact ⟨fits_interfaceNames service (by decide) (by decide), hproxy, hcontroller, by simp⟩
  | workflow =>
    simp only [List.mem_append, or_imp, forall_and, List.forall_mem_cons]
    refine ⟨⟨⟨⟨⟨?_, ?_⟩, ?_⟩, ?_⟩, ?_⟩, hclient, hchildClient, htype .input, htype .factory,
      hcontroller, by simp⟩
    all_goals exact fits_interfaceNames service (by decide) (by decide)

instance (name : ItemName) : Decidable name.Fits := inferInstanceAs (Decidable (_ <:+ _))

theorem fits_gatheringNames (gathering : Gathering) :
    ∀ name ∈ gatheringNames gathering, name.Fits := by
  have hevery : ∀ name ∈ everyGatherer, name.Fits := by decide +kernel
  intro name hname
  exact hevery name ((sublist_gatheringNames gathering).subset hname)

theorem fits_allNames (hbuild : PackagePlan.build options package = .ok plan) :
    ∀ name ∈ allNames package plan, name.Fits := by
  unfold allNames
  simp only [List.mem_append, or_imp, forall_and, List.forall_mem_map]
  refine ⟨⟨⟨?_, ?_⟩, ?_⟩, fits_gatheringNames _⟩
  · exact fun constant hconstant => fits_constant hbuild hconstant
  · exact fun channel hchannel => fits_channel hbuild hchannel
  · intro name hname
    obtain ⟨service, -, hmem⟩ := List.mem_flatMap.mp hname
    exact fits_itemNames service name hmem

end Package

section Family

variable {package : Package} {plan : PackagePlan} {ending : Ending}

theorem family_allNames :
    family ending (allNames package plan) =
      family ending (plan.constants.map fun constant => ⟨.constant, constant.name⟩) ++
        family ending (plan.signalChannels.map fun channel => ⟨.channel, channel.provider⟩) ++
        (package.services.flatMap fun service => family ending (itemNames service)) ++
        family ending (gatheringNames plan.gathering) := by
  rw [allNames, family_append, family_append, family_append, family_flatMap]

theorem ending_of_mem_gatheringNames {gathering : Gathering} {name : ItemName}
    (hname : name ∈ gatheringNames gathering) :
    name.ending ∈ [Ending.gathered, .gatheredImpl, .controller] := by
  have hevery : ∀ name ∈ everyGatherer,
      name.ending ∈ [Ending.gathered, .gatheredImpl, .controller] := by decide +kernel
  exact hevery name ((sublist_gatheringNames gathering).subset hname)

theorem family_gatheringNames {gathering : Gathering}
    (hending : ending ∉ [Ending.gathered, .gatheredImpl, .controller]) :
    family ending (gatheringNames gathering) = [] := by
  rw [family, List.map_eq_nil_iff, List.filter_eq_nil_iff]
  intro name hname heq
  rw [← of_decide_eq_true heq] at hending
  exact hending (ending_of_mem_gatheringNames hname)

/-- The names with an ending that only services of one kind have. -/
theorem family_of_kind {kind : ServiceKind} {names : Service → List String}
    (hending : ending ∉ [Ending.constant, .channel, .gathered, .gatheredImpl, .controller])
    (hnames : ∀ service, family ending (itemNames service) =
      if service.kind = kind then names service else []) :
    family ending (allNames package plan) =
      (package.services.filter (·.kind = kind)).flatMap names := by
  simp only [List.mem_cons, List.not_mem_nil, or_false, not_or] at hending
  obtain ⟨hconstant, hchannel, hgathered, hgatheredImpl, hcontroller⟩ := hending
  rw [family_allNames, family_map_of_ne (Ne.symm hconstant), family_map_of_ne (Ne.symm hchannel),
    family_gatheringNames (by simp [hgathered, hgatheredImpl, hcontroller]), List.nil_append,
    List.nil_append, List.append_nil, flatMap_filter]
  refine List.flatMap_congr fun service _ => ?_
  simp only [hnames, decide_eq_true_eq]

/-- The services that have types with an ending, and what stands in front of the ending behind the
name of the service. -/
def typesWith : Ending → Option (ServiceKind × List String)
  | .proxy | .proxyImpl => some (.activity, [""])
  | .run | .runImpl => some (.workflow, ["", "Child", "External"])
  | .client | .clientImpl => some (.workflow, ["", "Child"])
  | .input | .factory => some (.workflow, [""])
  | _ => none

theorem implementation_of (role : TypeRole) (service : String) :
    implementation (role.of service) = service ++ (role.ending ++ "Impl") := String.append_assoc

theorem family_types {kind : ServiceKind} {middles : List String}
    (htypes : typesWith ending = some (kind, middles)) :
    family ending (allNames package plan) =
      (package.services.filter (·.kind = kind)).flatMap fun service =>
        middles.map fun middle => service.name ++ (middle ++ ending.text) := by
  have hnames (service : Service) : family ending (itemNames service) =
      if service.kind = kind then
        middles.map fun middle => service.name ++ (middle ++ ending.text)
      else [] := by
    unfold itemNames interfaceNames
    simp only [implementation_of]
    cases ending <;> cases htypes <;> cases service.kind <;> rfl
  apply family_of_kind _ hnames
  cases ending <;> cases htypes <;> simp

theorem family_newProxy :
    family .newProxy (allNames package plan) =
      (activities package).map fun service => constructor (TypeRole.proxy.of service.name) := by
  have hnames (service : Service) : family .newProxy (itemNames service) =
      if service.kind = .activity then [constructor (TypeRole.proxy.of service.name)] else [] := by
    unfold itemNames
    cases service.kind <;> rfl
  rw [family_of_kind (by simp) hnames, List.map_eq_flatMap]
  rfl

theorem family_newClient :
    family .newClient (allNames package plan) =
      (workflows package).flatMap fun service =>
        [constructor (TypeRole.client.of service.name),
          constructor (TypeRole.childClient.of service.name)] := by
  apply family_of_kind (by simp)
  intro service
  unfold itemNames
  cases service.kind <;> rfl

theorem flatMap_family_eq_nil (hending : ending ∈ [Ending.constant, .channel, .gathered,
    .gatheredImpl]) :
    (package.services.flatMap fun service => family ending (itemNames service)) = [] := by
  rw [List.flatMap_eq_nil_iff]
  intro service _
  simp only [List.mem_cons, List.not_mem_nil, or_false] at hending
  unfold itemNames
  obtain rfl | rfl | rfl | rfl := hending <;> cases service.kind <;> rfl

theorem family_constant :
    family .constant (allNames package plan) = plan.constants.map Constant.name := by
  rw [family_allNames, family_map_self, family_map_of_ne (by simp),
    flatMap_family_eq_nil (by simp), family_gatheringNames (by simp), List.append_nil,
    List.append_nil, List.append_nil]

theorem family_channel :
    family .channel (allNames package plan) = plan.signalChannels.map SignalChannel.provider := by
  rw [family_allNames, family_map_self, family_map_of_ne (by simp),
    flatMap_family_eq_nil (by simp), family_gatheringNames (by simp), List.append_nil,
    List.append_nil, List.nil_append]

theorem family_controller :
    family .controller (allNames package plan) =
      package.services.map (fun service => TypeRole.controller.of service.name) ++
        if plan.gathering.controllers.isEmpty then [] else ["WorkerController"] := by
  have hservices : (package.services.flatMap fun service =>
      family .controller (itemNames service)) =
        package.services.map fun service => TypeRole.controller.of service.name := by
    rw [List.map_eq_flatMap]
    refine List.flatMap_congr fun service _ => ?_
    unfold itemNames
    cases service.kind <;> rfl
  have hgathered (type : String) (entries : List GatheredInterface) :
      family .controller (gatheredNames type entries) = [] := by
    unfold gatheredNames
    split <;> rfl
  rw [family_allNames, family_map_of_ne (by simp), family_map_of_ne (by simp), hservices,
    gatheringNames, family_append, family_append, family_append, hgathered, hgathered, hgathered]
  split <;> rfl

/-- The names of what gathers the services of a kind are all different. -/
theorem nodup_family_gathered (hending : ending = .gathered ∨ ending = .gatheredImpl) :
    (family ending (allNames package plan)).Nodup := by
  have hfamily : family ending (allNames package plan) =
      family ending (gatheringNames plan.gathering) := by
    obtain rfl | rfl := hending
    all_goals
      rw [family_allNames, family_map_of_ne (by simp), family_map_of_ne (by simp),
        flatMap_family_eq_nil (by simp)]
      rfl
  have hnodup : (family ending everyGatherer).Nodup := by
    obtain rfl | rfl := hending <;> decide +kernel
  rw [hfamily]
  exact hnodup.sublist (((sublist_gatheringNames plan.gathering).filter _).map _)

end Family

end Plan

end ServiceGen
