import ServiceGen.Plan.Convention

/-!
The plan of an activity: a proxy with two methods for each operation, one that waits and one that
does not, and a controller that registers every operation.
-/
namespace ServiceGen.Plan.Activity

open Convention

def proxyMethods (service : Service) (operation : Operation) : List MethodPlan :=
  let constant := Naming.operationConstant service.name operation.name
  let request := operation.request?.map Param.type
  [.calling constant (Naming.method operation.name) .call request operation.responseType,
    .calling constant (Naming.asyncMethod operation.name) .callAsync request operation.responseType]

def registration (service : Service) (operation : Operation) : Registration :=
  ⟨Naming.operationConstant service.name operation.name, .of operation⟩

def plan (service : Service) : ActivityPlan :=
  let proxy :=
    Interface.of service.name .proxy .activityProxy
      ((usable service).flatMap (proxyMethods service))
  { service := service.name
    taskQueueConstant := Naming.taskQueueConstant service.name
    proxy := proxy
    proxyConstructor := Naming.constructor proxy.name
    controller := Naming.TypeRole.controller.of service.name
    registrations := (usable service).map (registration service) }

def contribution (options : GenerationOptions) (package : Package) (service : Service) :
    Contribution :=
  let plan := plan service
  let field := Naming.serviceField service.name
  { demands := demands options package service ++
      [.constant (taskQueueConstant options package service)] ++
      (usable service).map fun operation =>
        .constant (operationConstant package service operation)
    omissions := omissions options service
    signalChannels := []
    plan := .activity plan
    gathering := {
      workflowClients := []
      workflowProxies := []
      activityProxies := [⟨field, plan.proxy.name, plan.proxyConstructor⟩]
      controllers := [⟨field, plan.controller⟩] } }

end ServiceGen.Plan.Activity
