import ServiceGen.Plan.Problem

/-!
Why no code can be generated for a package.
-/
namespace ServiceGen

inductive GenerateError where
  /-- The package breaks rules. -/
  | validation (package : String) (problems : List Problem)
  /-- The text of a declared type is not a type; `context` says where it is used. -/
  | type (text context : String)
  /-- A name cannot be an identifier. -/
  | ident (name : String)
  /-- A method has no code in the interface that it stands in. -/
  | unsupported (method interface : String)
  /-- The library that generated code calls is not given by a path. -/
  | runtimePath (path : String)
  deriving Repr, DecidableEq

namespace GenerateError

def message : GenerateError → String
  | .validation package problems =>
    "package `" ++ package ++ "` cannot be generated: " ++
      String.intercalate "; " (problems.map Problem.message)
  | .type text context => "invalid type `" ++ text ++ "` in " ++ context
  | .ident name => "`" ++ name ++ "` is not a valid identifier"
  | .unsupported method interface => "`" ++ method ++ "` cannot be rendered in " ++ interface
  | .runtimePath path => "invalid runtime crate path `" ++ path ++ "`"

end GenerateError

end ServiceGen
