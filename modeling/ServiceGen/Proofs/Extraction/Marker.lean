import Mathlib.Data.List.Forall2
import Mathlib.Logic.Relation
import ServiceGen.Proofs.Extraction.Provenance
import ServiceGen.Proofs.Tag.Scan

/-!
What extraction reads of documentation. A line counts when it gives a tag of the marker, and every
question that is asked of tags has the same answer for those of the marker alone. So a unit can be
reduced to its lines that count, a package to its tags of the marker, and extraction makes of the
reduced unit what it makes of the unit itself. Units that differ in other lines only have the same
reduction.
-/
namespace ServiceGen

namespace Classifier

variable (classifier : Classifier)

/-- The tags of the marker. -/
def own (tags : List Tag) : List Tag := classifier.anyTag.select tags

theorem tool_of_holds {classifier : Classifier} {tag : Tag}
    (hholds : classifier.anyTag.holds tag = true) : tag.tool = classifier.marker := by
  simp only [anyTag, Predicate.holds, Tag.pathStartsWith] at hholds
  rw [Tag.tool]
  cases hpath : tag.path with
  | nil => simp [hpath] at hholds
  | cons first rest =>
    rw [hpath] at hholds
    simp only [List.isPrefixOf_cons_cons, Bool.and_eq_true, beq_iff_eq] at hholds
    exact hholds.1.symm

theorem holds_of_path {tag : Tag} {rest : List String}
    (hpath : tag.path = classifier.marker :: rest) : classifier.anyTag.holds tag = true := by
  simp [anyTag, Predicate.holds, Tag.pathStartsWith, hpath]

/-- A tag that asks for a kind of service is one of the marker. So is every other tag that is ever
searched for. -/
theorem holds_of_ofService {kind : ServiceKind} {tag : Tag}
    (hholds : (classifier.ofService kind).holds tag = true) :
    classifier.anyTag.holds tag = true := by
  have hpath : tag.path = [classifier.marker, kind.segment] := by
    simpa [ofService, Predicate.holds, Tag.pathIs] using hholds
  exact classifier.holds_of_path hpath

theorem holds_of_ofOperation {kind : OperationKind} {tag : Tag}
    (hholds : (classifier.ofOperation kind).holds tag = true) :
    classifier.anyTag.holds tag = true := by
  unfold ofOperation at hholds
  cases hsegment : kind.segment? with
  | none => simp [hsegment, Predicate.holds, Predicate.holdsOne] at hholds
  | some segment =>
    have hpath : tag.path = [classifier.marker, ServiceKind.workflow.segment, segment] := by
      simpa [hsegment, Predicate.holds, Tag.pathIs] using hholds
    exact classifier.holds_of_path hpath

theorem holds_of_route {tag : Tag} (hholds : classifier.route.holds tag = true) :
    classifier.anyTag.holds tag = true := by
  simp only [route, Predicate.holds, Predicate.holdsOne, Bool.or_false, Bool.or_eq_true] at hholds
  rcases hholds with hmethod | hservice
  · have hpath : tag.path = [classifier.marker, "service", "method"] := by
      simpa [Tag.pathIs] using hmethod
    exact classifier.holds_of_path hpath
  · exact classifier.holds_of_ofService hservice

theorem any_own (tags : List Tag) :
    classifier.anyTag.any (classifier.own tags) = classifier.anyTag.any tags := by
  simp [Predicate.any, own, Predicate.select, List.any_filter]

theorem own_own (tags : List Tag) : classifier.own (classifier.own tags) = classifier.own tags := by
  simp [own, Predicate.select]

/-- A search for tags of the marker passes over all others. -/
theorem find?_own {predicate : Predicate}
    (hown : ∀ tag, predicate.holds tag = true → classifier.anyTag.holds tag = true)
    (tags : List Tag) : predicate.find? (classifier.own tags) = predicate.find? tags := by
  unfold Predicate.find? own Predicate.select
  rw [List.find?_filter]
  congr 1
  funext tag
  cases hholds : predicate.holds tag with
  | false => simp
  | true => simp [hown tag hholds]

/-- Whatever is made of tags of the marker alone is made of them wherever they stand. -/
theorem filterMap_own {α : Type} {f : Tag → Option α}
    (hown : ∀ tag, (f tag).isSome → classifier.anyTag.holds tag = true) (tags : List Tag) :
    (classifier.own tags).filterMap f = tags.filterMap f := by
  unfold own Predicate.select
  rw [List.filterMap_filter]
  apply List.filterMap_congr
  intro tag _
  split
  · rfl
  · next hother =>
    cases hsome : f tag with
    | none => rfl
    | some a => exact absurd (hown tag (by simp [hsome])) hother

theorem serviceKinds_own (tags : List Tag) :
    classifier.serviceKinds (classifier.own tags) = classifier.serviceKinds tags := by
  unfold serviceKinds
  rw [classifier.filterMap_own]
  intro tag hsome
  obtain ⟨kind, -, hholds⟩ := List.find?_isSome.mp hsome
  exact classifier.holds_of_ofService hholds

theorem operationKinds_own (tags : List Tag) :
    classifier.operationKinds (classifier.own tags) = classifier.operationKinds tags := by
  unfold operationKinds
  rw [classifier.filterMap_own]
  intro tag hsome
  obtain ⟨kind, -, hholds⟩ := List.find?_isSome.mp hsome
  exact classifier.holds_of_ofOperation hholds

/-- Whether a line gives a tag of the marker. -/
def speaks (line : String) : Bool := (Tag.ofLine? line).any fun tag => classifier.anyTag.holds tag

/-- The lines that count. -/
def heard (lines : List String) : List String := lines.filter classifier.speaks

theorem tags_heard (lines : List String) :
    (Tag.scan (classifier.heard lines)).tags = classifier.own (Tag.scan lines).tags := by
  rw [Tag.tags_scan, Tag.tags_scan, heard, List.filterMap_filter, own, Predicate.select,
    List.filter_filterMap]
  apply List.filterMap_congr
  intro line _
  unfold speaks
  cases Tag.ofLine? line with
  | none => rfl
  | some tag => rfl

/-- A line that is no tag of the marker: none at all, or one of another tool. -/
def Ignores (line : String) : Prop :=
  ∀ tag, Tag.parse line = .ok tag → tag.tool ≠ classifier.marker

instance (line : String) : Decidable (classifier.Ignores line) :=
  match hparse : Tag.parse line with
  | .ok tag =>
    decidable_of_iff (tag.tool ≠ classifier.marker)
      ⟨fun hne _ hother => Except.ok.inj (hparse.symm.trans hother) ▸ hne,
        fun hignores => hignores tag hparse⟩
  | .error _ => isTrue fun _ hother => absurd (hparse.symm.trans hother) (by simp)

theorem speaks_of_ignores {line : String} (hignores : classifier.Ignores line) :
    classifier.speaks line = false := by
  rw [speaks, Tag.ofLine?]
  split
  · cases hparse : Tag.parse line with
    | error cause => rfl
    | ok tag => exact Bool.eq_false_iff.mpr fun hholds => hignores tag hparse (tool_of_holds hholds)
  · rfl

end Classifier

/-- One line that is no tag of the marker comes or goes. -/
inductive Docs.Edit (classifier : Classifier) : List String → List String → Prop
  | insert (before after : List String) {line : String} (ignored : classifier.Ignores line) :
    Edit classifier (before ++ after) (before ++ line :: after)
  | delete (before after : List String) {line : String} (ignored : classifier.Ignores line) :
    Edit classifier (before ++ line :: after) (before ++ after)

/-- Any number of lines come and go that are no tags of the marker. -/
abbrev Docs.Reworded (classifier : Classifier) : List String → List String → Prop :=
  Relation.ReflTransGen (Docs.Edit classifier)

theorem Docs.Reworded.heard_eq {classifier : Classifier} {docs docs' : List String}
    (h : Docs.Reworded classifier docs docs') :
    classifier.heard docs = classifier.heard docs' := by
  induction h with
  | refl => rfl
  | tail _ hedit ih =>
    rw [ih]
    cases hedit with
    | insert before after hignored =>
      simp [Classifier.heard, classifier.speaks_of_ignores hignored]
    | delete before after hignored =>
      simp [Classifier.heard, classifier.speaks_of_ignores hignored]

section

variable (classifier : Classifier)

/-- Two methods that differ in ignored lines of documentation only. -/
structure Method.Reworded (method method' : Method) : Prop where
  docs : Docs.Reworded classifier method.docs method'.docs
  rest : { method with docs := method'.docs } = method'

inductive Member.Reworded : Member → Member → Prop
  | method {method method' : Method} (reworded : method.Reworded classifier method') :
    Reworded (.method method) (.method method')
  | other (what : String) (location : Location) :
    Reworded (.other what location) (.other what location)

/-- Two declarations that differ in ignored lines only, of their own documentation or of that of
their members. -/
structure Item.Reworded (item item' : Item) : Prop where
  docs : Docs.Reworded classifier item.docs item'.docs
  members : item.members.Forall₂ (Member.Reworded classifier) item'.members
  rest : { item with docs := item'.docs, members := item'.members } = item'

structure SourceUnit.Reworded (unit unit' : SourceUnit) : Prop where
  items : unit.items.Forall₂ (Item.Reworded classifier) unit'.items
  rest : { unit with items := unit'.items } = unit'

/-- The method with those lines of documentation that count. -/
def Method.heard (method : Method) : Method :=
  { method with docs := classifier.heard method.docs }

def Member.heard (member : Member) : Member :=
  match member with
  | .method inner => .method (inner.heard classifier)
  | .other what location => .other what location

def Item.heard (item : Item) : Item :=
  { item with
    docs := classifier.heard item.docs
    members := item.members.map (Member.heard classifier) }

/-- The unit with those lines of documentation that count, and no others. -/
def SourceUnit.heard (unit : SourceUnit) : SourceUnit :=
  { unit with items := unit.items.map (Item.heard classifier) }

/-- The operation as far as the marker is concerned, without its documentation. -/
def Operation.heard (operation : Operation) : Operation :=
  { operation with docs := "", tags := classifier.own operation.tags }

def Service.heard (service : Service) : Service :=
  { service with
    docs := ""
    tags := classifier.own service.tags
    operations := service.operations.map (Operation.heard classifier) }

def Package.heard (package : Package) : Package :=
  { package with services := package.services.map (Service.heard classifier) }

end

theorem map_eq_of_forall₂ {α β : Type} {r : α → α → Prop} {f : α → β}
    (hf : ∀ ⦃a a'⦄, r a a' → f a = f a') {list list' : List α} (h : list.Forall₂ r list') :
    list.map f = list'.map f := by
  rw [← List.forall₂_eq_eq_eq, List.forall₂_map_left_iff, List.forall₂_map_right_iff]
  exact h.imp hf

section

variable {classifier : Classifier}

theorem Member.Reworded.heard_eq {member member' : Member}
    (h : member.Reworded classifier member') :
    member.heard classifier = member'.heard classifier := by
  cases h with
  | other what location => rfl
  | method hmethod =>
    rw [Member.heard, Member.heard, ← hmethod.rest]
    simp only [Method.heard, hmethod.docs.heard_eq]

theorem Item.Reworded.heard_eq {item item' : Item} (h : item.Reworded classifier item') :
    item.heard classifier = item'.heard classifier := by
  have hmembers := map_eq_of_forall₂ (fun _ _ hsame => Member.Reworded.heard_eq hsame) h.members
  rw [← h.rest]
  simp only [Item.heard, h.docs.heard_eq, hmembers]

/-- Units that differ in ignored lines only are one and the same for those lines that count. -/
theorem SourceUnit.Reworded.heard_eq {unit unit' : SourceUnit}
    (h : unit.Reworded classifier unit') : unit.heard classifier = unit'.heard classifier := by
  have hitems := map_eq_of_forall₂ (fun _ _ hsame => Item.Reworded.heard_eq hsame) h.items
  rw [← h.rest]
  simp only [SourceUnit.heard, hitems]

end

namespace Extraction

variable (classifier : Classifier)

theorem tags_heard (item : Item) : (item.heard classifier).tags = classifier.own item.tags :=
  classifier.tags_heard item.docs

theorem addressed_heard (item : Item) :
    addressed classifier (item.heard classifier) = addressed classifier item := by
  rw [addressed, addressed, tags_heard, classifier.any_own]

theorem item?_heard (unit : SourceUnit) (name : String) :
    (unit.heard classifier).item? name = (unit.item? name).map (Item.heard classifier) :=
  List.find?_map ..

theorem objection?_heard (item : Item) (member : Member) :
    objection? (item.heard classifier) (member.heard classifier) = objection? item member := by
  cases member <;> rfl

theorem objections_heard (item : Item) :
    (item.heard classifier).members.filterMap (objection? (item.heard classifier)) =
      item.members.filterMap (objection? item) := by
  change (item.members.map _).filterMap _ = _
  rw [List.filterMap_map]
  exact List.filterMap_congr fun member _ => objection?_heard classifier item member

theorem methods_heard (item : Item) :
    methods (item.heard classifier) = (methods item).map (Method.heard classifier) := by
  change (item.members.map _).filterMap _ = _
  rw [methods, List.filterMap_map, List.map_filterMap]
  apply List.filterMap_congr
  intro member _
  cases member <;> rfl

theorem operation_heard (kind : ServiceKind) (method : Method) :
    (operation classifier kind (method.heard classifier)).heard classifier =
      (operation classifier kind method).heard classifier := by
  have hdeclared : declaredKinds classifier kind (classifier.own (Tag.scan method.docs).tags) =
      declaredKinds classifier kind (Tag.scan method.docs).tags := by
    cases kind with
    | workflow => exact classifier.operationKinds_own _
    | service => rfl
    | activity => rfl
  have htags : (Tag.scan (method.heard classifier).docs).tags =
      classifier.own (Tag.scan method.docs).tags := classifier.tags_heard method.docs
  simp only [operation, Operation.heard, htags, hdeclared, classifier.own_own]
  rfl

/-- A declaration becomes the same service, as far as the marker is concerned, by those lines and
tags that count. -/
theorem service_heard (item : Item) (tags : List Tag) :
    (service classifier (item.heard classifier) (classifier.own tags)).1.map
        (Service.heard classifier) =
      (service classifier item tags).1.map (Service.heard classifier) := by
  unfold service
  have hkind : (item.heard classifier).kind = item.kind := rfl
  rw [classifier.serviceKinds_own, objections_heard, methods_heard, hkind]
  dsimp only
  split
  · rfl
  · cases classifier.serviceKinds tags with
    | nil => rfl
    | cons kind others =>
      dsimp only
      split
      · simp only [Option.map_some, Service.heard, List.map_map, classifier.own_own,
          Option.some.injEq, Service.mk.injEq, true_and]
        refine ⟨rfl, ?_, rfl⟩
        exact List.map_congr_left fun method _ => operation_heard classifier kind method
      · rfl

/-- Extraction makes of the lines that count what it makes of all lines. -/
theorem package_heard (unit : SourceUnit) :
    (package classifier (unit.heard classifier) (.ofUnit (unit.heard classifier))).heard
        classifier =
      (package classifier unit (.ofUnit unit)).heard classifier := by
  suffices hservices : ((services classifier (unit.heard classifier)
        (.ofUnit (unit.heard classifier))).filterMap (·.1)).map (Service.heard classifier) =
      ((services classifier unit (.ofUnit unit)).filterMap (·.1)).map (Service.heard classifier) by
    simp only [package, Package.heard, hservices]
    rfl
  rw [services_eq, services_eq, List.map_filterMap, List.map_filterMap, List.filterMap_map,
    List.filterMap_map]
  change ((unit.items.map _).filter _).filterMap _ = _
  rw [List.filter_map, List.filterMap_map]
  have haddressed : addressed classifier ∘ Item.heard classifier = addressed classifier :=
    funext (addressed_heard classifier)
  rw [haddressed]
  apply List.filterMap_congr
  intro item _
  simp only [Function.comp_apply]
  -- The declaration that the name is looked up to is reduced as well.
  have hitem : ((unit.heard classifier).item? (item.heard classifier).name).getD
        (item.heard classifier) =
      ((unit.item? item.name).getD item).heard classifier := by
    rw [item?_heard]
    exact Option.getD_map ..
  rw [hitem, tags_heard]
  exact service_heard classifier _ _

end Extraction

end ServiceGen
