import ServiceGen.Plan.Convention

/-!
The plan of a plain service: a controller with a route for each operation and each HTTP method that
a tag names for it.
-/
namespace ServiceGen.Plan.HttpService

open Convention

/-- The tag that says how an operation is reached. -/
def routeTag? (options : GenerationOptions) (operation : Operation) : Option Tag :=
  (Classifier.route ⟨options.marker⟩).find? operation.tags

def path (options : GenerationOptions) (package : Package) (operation : Operation) : String :=
  ((routeTag? options operation).bind (·.options.get? "path")).getD
    ("/" ++ package.name ++ "/" ++ operation.name)

/-- The HTTP methods of an operation, each once, in capital letters. -/
def methods (options : GenerationOptions) (operation : Operation) : List String :=
  let named := ((routeTag? options operation).map (·.options.getAll "method")).getD []
  let named := if named.isEmpty then [options.httpMethod] else named
  (named.map String.toUpper).eraseDups

def operationRoutes (options : GenerationOptions) (package : Package) (service : Service)
    (operation : Operation) : List Route :=
  (methods options operation).map fun method =>
    { method
      path := path options package operation
      constant := Naming.operationConstant service.name operation.name
      call := .of operation }

def plan (options : GenerationOptions) (package : Package) (service : Service) : HttpServicePlan :=
  { service := service.name
    controller := Naming.TypeRole.controller.of service.name
    routes := (usable service).flatMap (operationRoutes options package service) }

/-- What a plain service adds to its package. -/
def contribution (options : GenerationOptions) (package : Package) (service : Service) :
    Contribution :=
  { demands := demands options package service ++
      (usable service).map fun operation => .constant (operationConstant package service operation)
    omissions := omissions options service
    signalChannels := []
    plan := .service (plan options package service)
    gathering := ⟨[], [], [], []⟩ }

end ServiceGen.Plan.HttpService
