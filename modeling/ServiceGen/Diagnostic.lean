/-!
Diagnostics: what an analyzer reports about a unit, how serious it is and where it was found.
-/
namespace ServiceGen

/-- A place in a file: lines count from one, columns from zero and in characters. -/
structure Location where
  file : String
  line : Nat
  column : Nat
  deriving Repr, DecidableEq, Inhabited

def Location.text (location : Location) : String :=
  location.file ++ ":" ++ toString location.line ++ ":" ++ toString location.column

inductive Severity where
  /-- A declaration was passed over; the unit is still good. -/
  | warning
  /-- An analyzer failed, and the walk went on without it. -/
  | error
  deriving Repr, DecidableEq, Inhabited

def Severity.text : Severity → String
  | .warning => "warning"
  | .error => "error"

structure Diagnostic where
  severity : Severity
  location : Option Location
  message : String
  /-- The name of the analyzer that reports it. -/
  analyzer : String
  deriving Repr, DecidableEq, Inhabited

def Diagnostic.text (diagnostic : Diagnostic) : String :=
  let place := match diagnostic.location with
    | some location => location.text ++ ": "
    | none => ""
  place ++ diagnostic.severity.text ++ " [" ++ diagnostic.analyzer ++ "]: " ++ diagnostic.message

end ServiceGen
