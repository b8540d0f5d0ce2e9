import ServiceGen.Plan.Basic

/-!
The rules that a package can break. The texts of the problems say what was declared and what would
have been allowed.
-/
namespace ServiceGen

inductive Problem where
  | manyKinds (service : String) (kinds : List ServiceKind)
  | manyOperationKinds (service operation : String) (kinds : List OperationKind)
  | manyParams (service operation : String) (count limit : Nat)
  | noExecute (service marker : String)
  | manyExecutes (service : String) (operations : List String)
  /-- Two values for one constant. -/
  | clash (constant first second : String)
  deriving Repr, DecidableEq

namespace Problem

def allowed (limit : Nat) : String := if limit == 1 then "request" else "context, request"

def message : Problem → String
  | .manyKinds service kinds =>
    "`" ++ service ++ "` is tagged with more than one kind (" ++
      String.intercalate ", " (kinds.map ServiceKind.segment) ++ ")"
  | .manyOperationKinds service operation kinds =>
    "`" ++ service ++ "::" ++ operation ++ "` is tagged with more than one operation kind (" ++
      String.intercalate ", " (kinds.filterMap OperationKind.segment?) ++ ")"
  | .manyParams service operation count limit =>
    "`" ++ service ++ "::" ++ operation ++ "` takes " ++ toString count ++
      " parameters; at most " ++ toString limit ++ " expected (" ++ allowed limit ++ ")"
  | .noExecute service marker =>
    "workflow `" ++ service ++ "` has no `" ++ marker ++ ":workflow:execute` operation"
  | .manyExecutes service operations =>
    "workflow `" ++ service ++ "` has " ++ toString operations.length ++ " execute operations (" ++
      String.intercalate ", " operations ++ "); exactly one is allowed"
  | .clash constant first second =>
    "constant `" ++ constant ++ "` would be generated for both `" ++ first ++ "` and `" ++
      second ++ "`"

end Problem

end ServiceGen
