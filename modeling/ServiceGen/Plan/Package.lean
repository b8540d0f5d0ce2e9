import ServiceGen.Plan.Activity
import ServiceGen.Plan.HttpService
import ServiceGen.Plan.Workflow

/-!
The plan of a package: what its services add, one after the other. Constants are shared by the
package, and a name that is taken already is a problem in either mode. A package with problems has
no plan.
-/
namespace ServiceGen

/-- The constants and problems of a package so far. -/
structure Ledger where
  constants : List Constant
  problems : List Problem
  deriving Repr, DecidableEq

namespace Ledger

/-- Enters a demand. A constant whose name is taken is not entered. -/
def enter (ledger : Ledger) : Demand → Ledger
  | .problem problem => { ledger with problems := ledger.problems ++ [problem] }
  | .constant constant =>
    match ledger.constants.find? (·.name == constant.name) with
    | none => { ledger with constants := ledger.constants ++ [constant] }
    | some taken =>
      { ledger with
        problems := ledger.problems ++ [.clash constant.name taken.value constant.value] }

def start (package : Package) : Ledger := ⟨[⟨Naming.packageConstant, package.name⟩], []⟩

end Ledger

def Contribution.of (options : GenerationOptions) (package : Package) (service : Service) :
    Contribution :=
  match service.kind with
  | .activity => Plan.Activity.contribution options package service
  | .workflow => Plan.Workflow.contribution options package service
  | .service => Plan.HttpService.contribution options package service

namespace PackagePlan

/-- What the services of a package add, in order. -/
def contributions (options : GenerationOptions) (package : Package) : List Contribution :=
  package.services.map (Contribution.of options package)

/-- The constants and problems of a package. -/
def ledger (options : GenerationOptions) (package : Package) : Ledger :=
  ((contributions options package).flatMap Contribution.demands).foldl Ledger.enter (.start package)

def gather (contributions : List Contribution) : Gathering :=
  { workflowClients := contributions.flatMap (·.gathering.workflowClients)
    workflowProxies := contributions.flatMap (·.gathering.workflowProxies)
    activityProxies := contributions.flatMap (·.gathering.activityProxies)
    controllers := contributions.flatMap (·.gathering.controllers) }

def build (options : GenerationOptions) (package : Package) : Except (List Problem) PackagePlan :=
  let contributions := contributions options package
  let ledger := ledger options package
  if ledger.problems.isEmpty then
    .ok {
      package := package.name
      sourcePath := package.sourcePath
      constants := ledger.constants
      signalChannels := contributions.flatMap Contribution.signalChannels
      services := contributions.map Contribution.plan
      gathering := gather contributions
      omissions := contributions.flatMap Contribution.omissions }
  else .error ledger.problems

end PackagePlan

end ServiceGen
