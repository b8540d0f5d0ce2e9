import Mathlib.Data.List.Basic
import ServiceGen.Extraction.Services

/-!
Which declaration a service is made of. The tags of a unit are kept under the names of their
declarations, and the declaration of a name is looked up again where its tags are used. So every
declaration that speaks to the marker is examined once and in order, but with the members of the
first declaration that has its name. Where that is the declaration itself, every service comes from
one declaration alone, the one whose tags ask for it.
-/
namespace ServiceGen

open Analysis

/-- The tags of a declaration. -/
def Item.tags (item : Item) : List Tag := (Tag.scan item.docs).tags

namespace Extraction

/-- Whether a declaration speaks to the marker. -/
def addressed (classifier : Classifier) (item : Item) : Bool := classifier.anyTag.any item.tags

/-- What is made of a declaration by its own tags and members, and what is reported of it. -/
def examined (classifier : Classifier) (item : Item) : Option Service × List Report :=
  service classifier item item.tags

/-- A declaration that is a service by its own tags and members. -/
structure Qualifies (classifier : Classifier) (item : Item) : Prop where
  isTrait : item.kind = .trait
  asked : classifier.serviceKinds item.tags ≠ []
  fit : ∀ member ∈ item.members, objection? item member = none

instance (classifier : Classifier) (item : Item) : Decidable (Qualifies classifier item) :=
  decidable_of_iff (item.kind = .trait ∧ classifier.serviceKinds item.tags ≠ [] ∧
      ∀ member ∈ item.members, objection? item member = none)
    ⟨fun ⟨htrait, hasked, hfit⟩ => ⟨htrait, hasked, hfit⟩,
      fun ⟨htrait, hasked, hfit⟩ => ⟨htrait, hasked, hfit⟩⟩

/-- The kind of service that a declaration asks for: the first one. -/
def kindOf (classifier : Classifier) (item : Item) : ServiceKind :=
  (classifier.serviceKinds item.tags).head?.getD .service

/-- The service that a declaration is by its own tags and members. -/
def ofItem (classifier : Classifier) (item : Item) : Service :=
  { name := item.name
    docs := Docs.text item.docs
    tags := item.tags
    kind := kindOf classifier item
    declaredKinds := classifier.serviceKinds item.tags
    operations := (methods item).map (operation classifier (kindOf classifier item))
    location := item.location }

section

variable {classifier : Classifier} {item : Item}

/-- A tag that asks for a kind of service speaks to the marker. -/
theorem addressed_of_asked (hasked : classifier.serviceKinds item.tags ≠ []) :
    addressed classifier item = true := by
  obtain ⟨kind, hkind⟩ := List.exists_mem_of_ne_nil _ hasked
  obtain ⟨tag, htag, hfind⟩ := List.mem_filterMap.mp (List.mem_eraseDups.mp hkind)
  have hpath : tag.path = [classifier.marker, kind.segment] := by
    have hholds := List.find?_some hfind
    simpa [Classifier.ofService, Predicate.holds, Tag.pathIs] using hholds
  rw [addressed, Predicate.any, List.any_eq_true]
  refine ⟨tag, htag, ?_⟩
  simp [Classifier.anyTag, Predicate.holds, Tag.pathStartsWith, hpath]

theorem service_of_qualifies (hqualifies : Qualifies classifier item) :
    (examined classifier item).1 = some (ofItem classifier item) := by
  obtain ⟨htrait, hasked, hfit⟩ := hqualifies
  have hobjections : item.members.filterMap (objection? item) = [] :=
    List.filterMap_eq_nil_iff.mpr hfit
  cases hdeclared : classifier.serviceKinds item.tags with
  | nil => exact absurd hdeclared hasked
  | cons kind others => simp [examined, service, ofItem, kindOf, htrait, hdeclared, hobjections]

theorem service_of_not_qualifies (hqualifies : ¬ Qualifies classifier item) :
    (examined classifier item).1 = none := by
  unfold examined service
  by_cases htrait : item.kind = .trait
  · cases hdeclared : classifier.serviceKinds item.tags with
    | nil => simp [htrait]
    | cons kind others =>
      have hobjections : item.members.filterMap (objection? item) ≠ [] := by
        intro hnone
        refine hqualifies ⟨htrait, ?_, List.filterMap_eq_nil_iff.mp hnone⟩
        rw [hdeclared]
        exact List.cons_ne_nil _ _
      simp [htrait, hobjections]
  · simp [htrait]

end

/-- The declaration of a name that some declaration of the unit has. -/
theorem item?_of_mem {unit : SourceUnit} {item : Item} (hitem : item ∈ unit.items) :
    unit.item? item.name = some ((unit.item? item.name).getD item) := by
  cases hfind : unit.item? item.name with
  | none => exact absurd (beq_self_eq_true item.name) (List.find?_eq_none.mp hfind item hitem)
  | some found => rfl

/-- Every declaration that speaks to the marker is examined once, in the order of the unit, with the
members of the first declaration of its name. -/
theorem services_eq (classifier : Classifier) (unit : SourceUnit) :
    services classifier unit (.ofUnit unit) =
      (unit.items.filter (addressed classifier)).map fun item =>
        service classifier ((unit.item? item.name).getD item) item.tags := by
  rw [services, Decorations.ofUnit, List.filterMap_filterMap, ← List.filterMap_eq_map,
    List.filterMap_filter]
  apply List.filterMap_congr
  intro item hitem
  change (if item.tags.isEmpty then none else some (item.name, item.tags)).bind _ = _
  by_cases hempty : item.tags = []
  · have hnot : addressed classifier item = false := by
      rw [addressed, hempty]
      rfl
    simp [hempty, hnot]
  · have hfound := item?_of_mem hitem
    have htags : item.tags.isEmpty = false := by simpa using hempty
    simp only [htags, Bool.false_eq_true, if_false, Option.bind_some, Function.comp_apply]
    change (if addressed classifier item then _ else none) = _
    rw [hfound, Option.map_some, Option.getD_some]

/-- The declarations that become services, in order, when each is examined with its own members. -/
theorem filterMap_examined (classifier : Classifier) (items : List Item) :
    ((items.filter (addressed classifier)).map (examined classifier)).filterMap (·.1) =
      (items.filter fun item => decide (Qualifies classifier item)).map (ofItem classifier) := by
  rw [List.filterMap_map, List.filterMap_filter, ← List.filterMap_eq_map, List.filterMap_filter]
  apply List.filterMap_congr
  intro item _
  by_cases hqualifies : Qualifies classifier item
  · rw [if_pos (addressed_of_asked hqualifies.asked), if_pos (decide_eq_true hqualifies)]
    exact service_of_qualifies hqualifies
  · have hnone : (examined classifier item).1 = none := service_of_not_qualifies hqualifies
    have hleft : (if addressed classifier item = true then (examined classifier item).1 else none) =
        none := by
      rw [hnone, ite_self]
    exact hleft.trans (if_neg (by simpa using hqualifies)).symm

/-- Where every declaration that speaks to the marker is the first of its name, each is examined
once, in order, by its own tags and with its own members. The services of the unit are then the
declarations that qualify, in order, and each service is made of one of them alone. -/
theorem services_of_own_items (classifier : Classifier) (unit : SourceUnit)
    (hfirst : ∀ item ∈ unit.items, addressed classifier item = true →
      unit.item? item.name = some item) :
    services classifier unit (.ofUnit unit) =
        (unit.items.filter (addressed classifier)).map (examined classifier) ∧
      (package classifier unit (.ofUnit unit)).services =
        (unit.items.filter fun item => decide (Qualifies classifier item)).map
          (ofItem classifier) ∧
      reports classifier unit (.ofUnit unit) =
        (unit.items.filter (addressed classifier)).flatMap fun item =>
          (examined classifier item).2 := by
  have hservices : services classifier unit (.ofUnit unit) =
      (unit.items.filter (addressed classifier)).map (examined classifier) := by
    rw [services_eq]
    apply List.map_congr_left
    intro item hitem
    obtain ⟨hmem, haddressed⟩ := List.mem_filter.mp hitem
    rw [hfirst item hmem haddressed]
    rfl
  refine ⟨hservices, ?_, ?_⟩
  · change (services classifier unit (.ofUnit unit)).filterMap (·.1) = _
    rw [hservices, filterMap_examined]
  · rw [reports, hservices, List.flatMap_map]

def traitOf (name : String) (docs : List String) (method : String) (line : Nat) : Item :=
  { name, docs, kind := .trait, location := ⟨"billing.rs", line, 10⟩
    members := [.method {
      name := method
      docs := []
      receiver := .shared
      isGeneric := false
      isAsync := false
      params := []
      results := []
      location := ⟨"billing.rs", line + 1, 7⟩ }] }

/-- A unit with a helper of no tags between two services. -/
def billing : SourceUnit :=
  { package := "billing"
    path := "billing.rs"
    items := [traitOf "Payments" [" weft:activity"] "charge" 2, traitOf "Ledger" [] "record" 5,
      traitOf "Invoices" [" Lookups.", " weft:service"] "find" 10] }

theorem billing_of_own_items :
    (∀ item ∈ billing.items, addressed ⟨"weft"⟩ item = true →
      billing.item? item.name = some item) ∧
    (package ⟨"weft"⟩ billing (.ofUnit billing)).services =
      [ofItem ⟨"weft"⟩ (traitOf "Payments" [" weft:activity"] "charge" 2),
        ofItem ⟨"weft"⟩ (traitOf "Invoices" [" Lookups.", " weft:service"] "find" 10)] := by
  have hfirst : ∀ item ∈ billing.items, addressed ⟨"weft"⟩ item = true →
      billing.item? item.name = some item := by decide +kernel
  obtain ⟨-, hservices, -⟩ := services_of_own_items ⟨"weft"⟩ billing hfirst
  refine ⟨hfirst, hservices.trans ?_⟩
  decide +kernel

/-- A unit with two alternatives of a trait, of which a build takes one. Only the second one speaks
to the marker. -/
def alternatives : SourceUnit :=
  { package := "billing"
    path := "billing.rs"
    items := [traitOf "Payments" [] "record" 2, traitOf "Payments" [" weft:activity"] "charge" 8] }

/-- The service of the second alternative gets the members of the first one, which has no tags and
does not qualify. -/
theorem alternatives_confused :
    ((package ⟨"weft"⟩ alternatives (.ofUnit alternatives)).services.flatMap
        Service.operations).map Operation.name = ["record"] ∧
      (package ⟨"weft"⟩ alternatives (.ofUnit alternatives)).services ≠
        (alternatives.items.filter fun item => decide (Qualifies ⟨"weft"⟩ item)).map
          (ofItem ⟨"weft"⟩) := by
  decide +kernel

end Extraction

end ServiceGen
