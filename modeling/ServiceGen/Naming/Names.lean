import ServiceGen.Naming.Words

/-!
The names of everything that is generated. Whoever calls an operation and whoever registers it take
its name from here, so that they agree.
-/
namespace ServiceGen.Naming

/-- The name under which a service is known while the generated code runs. -/
def serviceSymbol (package service : String) : String := package ++ "." ++ service

/-- The name under which an operation is known while the generated code runs. It is kept as
declared. -/
def operationSymbol (package service operation : String) : String :=
  serviceSymbol package service ++ "." ++ operation

def packageConstant : String := "PACKAGE_NAME"

def serviceConstant (service : String) : String := shouty service ++ "_NAME"

def operationConstant (service operation : String) : String :=
  shouty service ++ "_" ++ shouty operation ++ "_NAME"

def taskQueueConstant (service : String) : String := shouty service ++ "_TASK_QUEUE"

def method (operation : String) : String := snake operation

/-- The method that stands for an operation and does not wait for it. -/
def asyncMethod (operation : String) : String := method operation ++ "_async"

/-- The accessor of the channel of a signal. -/
def channelMethod (operation : String) : String := method operation ++ "_channel"

/-- The method that starts a workflow with a signal. -/
def executeWith (operation : String) : String := "execute_with_" ++ method operation

/-- The function that answers the channel of a signal. -/
def channelProvider (service operation : String) : String :=
  "new_" ++ snake service ++ "_" ++ snake operation ++ "_signal_channel"

/-- The field or accessor that stands for a service. -/
def serviceField (service : String) : String := snake service

/-- The function that makes an object of a generated interface. -/
def constructor (type : String) : String := "new_" ++ snake type

/-- The hidden implementation of a generated interface. -/
def implementation (type : String) : String := type ++ "Impl"

/-- What a type is to its service; its name is that of the service with this ending. -/
inductive TypeRole where
  | proxy
  | run
  | childRun
  | externalRun
  | client
  | childClient
  | input
  | factory
  | controller
  deriving Repr, DecidableEq

namespace TypeRole

def ending : TypeRole → String
  | .proxy => "Proxy"
  | .run => "Run"
  | .childRun => "ChildRun"
  | .externalRun => "ExternalRun"
  | .client => "Client"
  | .childClient => "ChildClient"
  | .input => "Input"
  | .factory => "Factory"
  | .controller => "Controller"

def all : List TypeRole :=
  [.proxy, .run, .childRun, .externalRun, .client, .childClient, .input, .factory, .controller]

def of (role : TypeRole) (service : String) : String := service ++ role.ending

end TypeRole

end ServiceGen.Naming
