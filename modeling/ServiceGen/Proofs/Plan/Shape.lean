import ServiceGen.Plan.Package

/-!
What a plan reads of a service beside its tags. It reads neither documentation nor places, except to
say where an operation is left out, and tags are only asked for the task queue and for routes. The
shape of a service is what remains, and all else of its plan is the plan of its shape.
-/
namespace ServiceGen

/-- The operation without documentation, tags and place. -/
def Operation.shape (operation : Operation) : Operation :=
  { operation with docs := "", tags := [], location := default }

/-- The service without documentation, tags and places. -/
def Service.shape (service : Service) : Service :=
  { service with
    docs := "", tags := [], location := default
    operations := service.operations.map Operation.shape }

namespace Plan

open Convention

variable (service : Service)

theorem usable_shape : usable service.shape = (usable service).map Operation.shape :=
  List.filter_map ..

theorem problems_shape : problems service.shape = problems service := by
  unfold problems
  change _ ++ (service.operations.map _).flatMap _ = _
  rw [List.flatMap_map]
  rfl

namespace Activity

theorem plan_shape : plan service.shape = plan service := by
  unfold plan
  rw [usable_shape, List.flatMap_map, List.map_map]
  rfl

end Activity

namespace Workflow

theorem usableOf_shape (kind : OperationKind) :
    usableOf service.shape kind = (usableOf service kind).map Operation.shape := by
  unfold usableOf
  rw [usable_shape, List.filter_map]
  rfl

theorem entrance?_shape : entrance? service.shape = (entrance? service).map Operation.shape := by
  unfold entrance?
  rw [usableOf_shape, List.head?_map]

theorem requestOf_shape : requestOf service.shape = requestOf service := by
  unfold requestOf
  rw [entrance?_shape, Option.map_map]
  rfl

theorem responseOf_shape : responseOf service.shape = responseOf service := by
  unfold responseOf
  rw [entrance?_shape, Option.map_map]
  rfl

theorem signalMethods_shape : signalMethods service.shape = signalMethods service := by
  unfold signalMethods
  rw [usableOf_shape, List.flatMap_map]
  rfl

theorem run_shape : run service.shape = run service := by
  unfold run runFixed
  rw [usable_shape, List.flatMap_map, responseOf_shape]
  rfl

theorem client_shape : client service.shape = client service := by
  unfold client clientFixed starting
  rw [usableOf_shape, List.map_map, requestOf_shape, responseOf_shape]
  have hstarted (operation : Operation) :
      executeWith service.shape operation.shape = executeWith service operation := by
    unfold executeWith
    rw [requestOf_shape, responseOf_shape]
    rfl
  simp only [Function.comp_def, hstarted]
  rfl

theorem input_shape : input service.shape = input service := by
  unfold input
  rw [usableOf_shape, List.map_map, requestOf_shape]
  rfl

theorem registrations_shape (kind : OperationKind) :
    registrations service.shape kind = registrations service kind := by
  unfold registrations
  rw [usableOf_shape, List.map_map]
  rfl

theorem controller_shape : controller service.shape = controller service := by
  unfold controller
  rw [entrance?_shape, Option.map_map, registrations_shape, registrations_shape]
  rfl

theorem plan_shape : plan service.shape = plan service := by
  unfold plan childRun childRunFixed externalRun childClient childClientFixed starting
  rw [requestOf_shape, responseOf_shape, run_shape, client_shape, signalMethods_shape, input_shape,
    controller_shape]
  rfl

theorem entranceProblems_shape (marker : String) :
    entranceProblems marker service.shape = entranceProblems marker service := by
  unfold entranceProblems
  rw [usableOf_shape]
  rcases usableOf service .execute with _ | ⟨first, _ | ⟨second, rest⟩⟩
  · rfl
  · rfl
  · simp only [List.map_cons, List.map_map]
    rfl

theorem operationConstants_shape (package : Package) :
    operationConstants package service.shape = operationConstants package service := by
  unfold operationConstants
  rw [usable_shape, List.filter_map, List.map_map]
  rfl

theorem signalChannels_shape :
    (usableOf service.shape .signal).map (signalChannel service.shape) =
      (usableOf service .signal).map (signalChannel service) := by
  rw [usableOf_shape, List.map_map]
  rfl

end Workflow

end Plan

end ServiceGen
