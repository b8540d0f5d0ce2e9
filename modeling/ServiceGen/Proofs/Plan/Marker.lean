import ServiceGen.Proofs.Extraction.Marker
import ServiceGen.Proofs.Plan.Shape

/-!
What a plan reads of tags. Documentation is not read at all, and tags are only searched for tags of
the marker. So a package has the same plan, or the same problems, as the package that is left of it
when all other tags are gone.
-/
namespace ServiceGen

/-- What the marker hears of a service is of the same shape. -/
theorem Service.shape_heard (classifier : Classifier) (service : Service) :
    (service.heard classifier).shape = service.shape := by
  simp only [Service.shape, Service.heard, List.map_map]
  rfl

namespace Plan

open Convention

variable (options : GenerationOptions) (classifier : Classifier) (package : Package)
  (service : Service) (operation : Operation)

theorem usable_heard :
    usable (service.heard classifier) = (usable service).map (Operation.heard classifier) :=
  List.filter_map ..

theorem omissions_heard :
    omissions options (service.heard classifier) = omissions options service := by
  unfold omissions
  change ite _ _ (((service.operations.map _).filter _).map _) = _
  rw [List.filter_map, List.map_map]
  rfl

theorem taskQueueConstant_heard :
    taskQueueConstant options (package.heard ⟨options.marker⟩) (service.heard ⟨options.marker⟩) =
      taskQueueConstant options package service := by
  have htag : Classifier.topTag? ⟨options.marker⟩ (service.heard ⟨options.marker⟩) =
      Classifier.topTag? ⟨options.marker⟩ service :=
    Classifier.find?_own _ (fun _ => Classifier.holds_of_ofService _) service.tags
  unfold taskQueueConstant
  rw [htag]
  rfl

theorem demands_heard :
    demands options (package.heard classifier) (service.heard classifier) =
      demands options package service := by
  unfold demands
  rw [← problems_shape, Service.shape_heard, problems_shape]
  rfl

namespace Activity

theorem contribution_heard :
    contribution options (package.heard ⟨options.marker⟩) (service.heard ⟨options.marker⟩) =
      contribution options package service := by
  unfold contribution
  rw [← plan_shape, Service.shape_heard, plan_shape, demands_heard, taskQueueConstant_heard,
    omissions_heard, usable_heard, List.map_map]
  rfl

end Activity

namespace HttpService

theorem routeTag?_heard :
    routeTag? options (operation.heard ⟨options.marker⟩) = routeTag? options operation :=
  Classifier.find?_own _ (fun _ => Classifier.holds_of_route _) operation.tags

theorem operationRoutes_heard :
    operationRoutes options (package.heard ⟨options.marker⟩) (service.heard ⟨options.marker⟩)
        (operation.heard ⟨options.marker⟩) =
      operationRoutes options package service operation := by
  unfold operationRoutes methods path
  rw [routeTag?_heard]
  rfl

theorem plan_heard :
    plan options (package.heard ⟨options.marker⟩) (service.heard ⟨options.marker⟩) =
      plan options package service := by
  unfold plan
  rw [usable_heard, List.flatMap_map]
  simp only [operationRoutes_heard]
  rfl

theorem contribution_heard :
    contribution options (package.heard ⟨options.marker⟩) (service.heard ⟨options.marker⟩) =
      contribution options package service := by
  unfold contribution
  rw [plan_heard, demands_heard, omissions_heard, usable_heard, List.map_map]
  rfl

end HttpService

namespace Workflow

theorem untagged_heard (marker : String) :
    untagged marker (service.heard classifier) = untagged marker service := by
  unfold untagged usableOf
  rw [usable_heard, List.filter_map, List.map_map]
  rfl

theorem contribution_heard :
    contribution options (package.heard ⟨options.marker⟩) (service.heard ⟨options.marker⟩) =
      contribution options package service := by
  have hshape := service.shape_heard ⟨options.marker⟩
  unfold contribution
  rw [demands_heard, taskQueueConstant_heard, omissions_heard, untagged_heard, ← plan_shape,
    ← entranceProblems_shape, ← operationConstants_shape, ← signalChannels_shape, hshape,
    plan_shape, entranceProblems_shape, operationConstants_shape, signalChannels_shape]
  rfl

end Workflow

theorem contribution_heard :
    Contribution.of options (package.heard ⟨options.marker⟩) (service.heard ⟨options.marker⟩) =
      Contribution.of options package service := by
  have hkind : (service.heard ⟨options.marker⟩).kind = service.kind := rfl
  unfold Contribution.of
  rw [hkind]
  cases service.kind with
  | activity => exact Activity.contribution_heard options package service
  | workflow => exact Workflow.contribution_heard options package service
  | service => exact HttpService.contribution_heard options package service

end Plan

namespace PackagePlan

/-- A package has the plan, or the problems, of what the marker hears of it. -/
theorem build_heard (options : GenerationOptions) (package : Package) :
    build options (package.heard ⟨options.marker⟩) = build options package := by
  have hcontributions :
      contributions options (package.heard ⟨options.marker⟩) = contributions options package := by
    unfold contributions
    change (package.services.map _).map _ = _
    rw [List.map_map]
    exact List.map_congr_left fun service _ => Plan.contribution_heard options package service
  unfold build ledger
  rw [hcontributions]
  rfl

end PackagePlan

end ServiceGen
