import ServiceGen.Extraction.Services
import ServiceGen.Proofs.Plan.Shape
import ServiceGen.Proofs.Source.Layout

/-!
What becomes of places. Extraction carries the place of a declaration to its service and that of a
method to its operation, and a plan carries the place of an operation that is left out to the
warning about it. Nothing else depends on places: a plan differs in its warnings only.
-/
namespace ServiceGen

/-- The operation without the place where it stands. -/
def Operation.unplaced (operation : Operation) : Operation := { operation with location := default }

def Service.unplaced (service : Service) : Service :=
  { service with
    location := default
    operations := service.operations.map Operation.unplaced }

/-- The package without the places where its services and operations stand. -/
def Package.unplaced (package : Package) : Package :=
  { package with services := package.services.map Service.unplaced }

theorem Service.shape_unplaced (service : Service) : service.unplaced.shape = service.shape := by
  simp only [Service.shape, Service.unplaced, List.map_map]
  rfl

namespace Extraction

variable (classifier : Classifier)

theorem item?_unplaced (unit : SourceUnit) (name : String) :
    unit.unplaced.item? name = (unit.item? name).map Item.unplaced :=
  List.find?_map ..

theorem ofUnit_unplaced (unit : SourceUnit) :
    Decorations.ofUnit unit.unplaced = Decorations.ofUnit unit := by
  unfold Decorations.ofUnit
  change Decorations.mk ((unit.items.map _).filterMap _) = _
  rw [List.filterMap_map]
  rfl

/-- The same members are objected to, wherever they stand. -/
theorem objections_unplaced (item : Item) :
    (item.unplaced.members.filterMap (objection? item.unplaced)).isEmpty =
      (item.members.filterMap (objection? item)).isEmpty := by
  have hmember (member : Member) :
      objection? item.unplaced member.unplaced =
        (objection? item member).map fun report => { report with location := some default } := by
    cases member with
    | method method =>
      change (unfitness? method).map _ = ((unfitness? method).map _).map _
      rw [Option.map_map]
      rfl
    | other what location => rfl
  have hmembers : item.unplaced.members.filterMap (objection? item.unplaced) =
      (item.members.filterMap (objection? item)).map fun report =>
        { report with location := some default } := by
    change (item.members.map _).filterMap _ = _
    rw [List.filterMap_map, List.map_filterMap]
    exact List.filterMap_congr fun member _ => hmember member
  rw [hmembers, List.isEmpty_map]

theorem methods_unplaced (item : Item) :
    methods item.unplaced = (methods item).map Method.unplaced := by
  change (item.members.map _).filterMap _ = _
  rw [methods, List.filterMap_map, List.map_filterMap]
  refine List.filterMap_congr fun member _ => ?_
  cases member <;> rfl

/-- A declaration becomes the same service wherever it stands. -/
theorem service_unplaced (item : Item) (tags : List Tag) :
    (service classifier item.unplaced tags).1 =
      (service classifier item tags).1.map Service.unplaced := by
  unfold service
  have hkind : item.unplaced.kind = item.kind := rfl
  rw [hkind, methods_unplaced]
  dsimp only
  split
  · rfl
  · cases classifier.serviceKinds tags with
    | nil => rfl
    | cons kind others =>
      dsimp only
      rw [objections_unplaced]
      split
      · rw [Option.map_some, Service.unplaced, List.map_map, List.map_map]
        rfl
      · rfl

/-- The package of a unit without places is the package of the unit, without places. -/
theorem package_unplaced (unit : SourceUnit) :
    package classifier unit.unplaced (.ofUnit unit.unplaced) =
      (package classifier unit (.ofUnit unit)).unplaced := by
  rw [ofUnit_unplaced]
  unfold package Package.unplaced services
  dsimp only
  rw [List.filterMap_filterMap, List.filterMap_filterMap, List.map_filterMap]
  refine congrArg (Package.mk _ _) (List.filterMap_congr fun entry _ => ?_)
  rw [item?_unplaced]
  split
  · cases unit.item? entry.1 with
    | none => rfl
    | some item => exact service_unplaced classifier item entry.2
  · rfl

end Extraction

def Omission.unplaced (omission : Omission) : Omission := { omission with location := default }

/-- The contribution without the places that its warnings name. -/
def Contribution.unplaced (contribution : Contribution) : Contribution :=
  { contribution with omissions := contribution.omissions.map Omission.unplaced }

/-- The plan without the places that its warnings name. -/
def PackagePlan.unplaced (plan : PackagePlan) : PackagePlan :=
  { plan with omissions := plan.omissions.map Omission.unplaced }

namespace Plan

open Convention

variable (options : GenerationOptions) (package : Package) (service : Service)

theorem usable_unplaced :
    usable service.unplaced = (usable service).map Operation.unplaced := List.filter_map ..

theorem demands_unplaced :
    demands options package.unplaced service.unplaced = demands options package service := by
  unfold demands
  rw [← problems_shape, Service.shape_unplaced, problems_shape]
  rfl

theorem omissions_unplaced :
    omissions options service.unplaced = (omissions options service).map Omission.unplaced := by
  unfold omissions
  change ite _ _ (((service.operations.map _).filter _).map _) = _
  rw [List.filter_map, List.map_map, apply_ite (List.map Omission.unplaced), List.map_map]
  rfl

theorem Activity.contribution_unplaced :
    contribution options package.unplaced service.unplaced =
      (contribution options package service).unplaced := by
  unfold contribution Contribution.unplaced
  rw [← plan_shape, Service.shape_unplaced, plan_shape, demands_unplaced, omissions_unplaced,
    usable_unplaced, List.map_map]
  rfl

theorem HttpService.contribution_unplaced :
    contribution options package.unplaced service.unplaced =
      (contribution options package service).unplaced := by
  unfold contribution plan Contribution.unplaced
  rw [demands_unplaced, omissions_unplaced, usable_unplaced, List.map_map, List.flatMap_map]
  rfl

theorem Workflow.untagged_unplaced (marker : String) :
    untagged marker service.unplaced = (untagged marker service).map Omission.unplaced := by
  unfold untagged usableOf
  rw [usable_unplaced, List.filter_map, List.map_map, List.map_map]
  rfl

theorem Workflow.contribution_unplaced :
    contribution options package.unplaced service.unplaced =
      (contribution options package service).unplaced := by
  have hshape := service.shape_unplaced
  unfold contribution Contribution.unplaced
  rw [demands_unplaced, omissions_unplaced, untagged_unplaced, ← List.map_append, ← plan_shape,
    ← entranceProblems_shape, ← operationConstants_shape, ← signalChannels_shape, hshape,
    plan_shape, entranceProblems_shape, operationConstants_shape, signalChannels_shape]
  rfl

/-- What a service adds to its package depends on places in its warnings only. -/
theorem contribution_unplaced :
    Contribution.of options package.unplaced service.unplaced =
      (Contribution.of options package service).unplaced := by
  have hkind : service.unplaced.kind = service.kind := rfl
  unfold Contribution.of
  rw [hkind]
  cases service.kind with
  | activity => exact Activity.contribution_unplaced options package service
  | workflow => exact Workflow.contribution_unplaced options package service
  | service => exact HttpService.contribution_unplaced options package service

end Plan

namespace PackagePlan

/-- A package has the same plan wherever its operations stand, but for what its warnings say of
that, or the same problems. -/
theorem build_unplaced (options : GenerationOptions) (package : Package) :
    build options package.unplaced = (build options package).map unplaced := by
  have hcontributions : contributions options package.unplaced =
      (contributions options package).map Contribution.unplaced := by
    unfold contributions
    change (package.services.map _).map _ = _
    rw [List.map_map, List.map_map]
    exact List.map_congr_left fun service _ => Plan.contribution_unplaced options package service
  have hledger : ledger options package.unplaced = ledger options package := by
    unfold ledger
    rw [hcontributions, List.flatMap_map]
    rfl
  unfold build
  dsimp only
  rw [hcontributions, hledger, apply_ite (Except.map unplaced)]
  simp only [gather, List.flatMap_map, List.map_map, Except.map, unplaced, List.map_flatMap]
  rfl

end PackagePlan

end ServiceGen
