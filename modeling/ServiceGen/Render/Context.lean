import ServiceGen.Grammar.Closed
import ServiceGen.Render.Code
import ServiceGen.Render.Error

/-!
What all generated code has in common: names are checked to be identifiers, declared types are read
again before they are used, and the user's methods are called in closures whose parameters follow
the calling convention.
-/
namespace ServiceGen.Render

/-- Code, unless it cannot be generated. -/
abbrev Emit := Except GenerateError

/-- The path of the library that generated code calls. -/
structure Context where
  runtime : Code

def Context.of (options : GenerationOptions) : Emit Context :=
  match Grammar.pathTokens? options.runtimeCrate with
  | some runtime => .ok ⟨runtime⟩
  | none => .error (.runtimePath options.runtimeCrate)

def ident (text : String) : Emit Code :=
  match Grammar.identifier? text with
  | some found => .ok (name found)
  | none => .error (.ident text)

def type (text context : String) : Emit Code :=
  match Grammar.typeTokens? text with
  | some tokens => .ok tokens
  | none => .error (.type text context)

def Context.lib (context : Context) (path : String) : Code :=
  context.runtime ++ code "::" ++ code path

def requestParam (request : Option String) (context : String) : Emit Code :=
  match request with
  | some text => do
    let type ← type text context
    pure (code "req :" ++ type ++ code ",")
  | none => pure []

/-- A parameter of a closure, and the argument for it if the user's method takes one. -/
structure ClosureParam where
  declared : Code
  argument : Option Code

/-- A parameter that the user's method takes, of its declared type. -/
def takenParam (call : UserCall) (label text : String) : Emit ClosureParam := do
  let type ← type text call.method
  pure ⟨code label ++ code ":" ++ type, some (code label)⟩

def contextParam (call : UserCall) (fallback : Code) : Emit (List ClosureParam) :=
  if call.withContext then
    match call.context with
    | some text => do
      let param ← takenParam call "ctx" text
      pure [param]
    | none => pure [⟨code "_ctx :" ++ fallback, none⟩]
  else pure []

def requestClosureParam (call : UserCall) : Emit ClosureParam :=
  match call.request with
  | some text => takenParam call "req" text
  | none => pure ⟨code "_req :" ++ parens [], none⟩

/-- A closure that calls a method of the user. What the method does not take is still a parameter
of the closure, so that all closures of a kind can be called alike. -/
def userClosure (target : Code) (call : UserCall) (fallback : Code) : Emit Code := do
  let method ← ident call.method
  let context ← contextParam call fallback
  let request ← requestClosureParam call
  let params := context ++ [request]
  pure (code "move |" ++ commas (params.map ClosureParam.declared) ++ code "|" ++ target ++
    code "." ++ method ++ parens (commas (params.filterMap ClosureParam.argument)))

def directArguments (call : UserCall) : List Code :=
  (if call.withContext && call.context.isSome then [code "ctx"] else []) ++
    (if call.request.isSome then [code "req"] else [])

/-- The argument that stands for a request, which may be missing. -/
def requestArgument (request : Option String) : Code :=
  if request.isSome then code "req" else parens []

/-- A shared object of the user's service. -/
def sharedService (service : Code) : Code :=
  code ":: std :: sync :: Arc < dyn" ++ service ++ code "+ Send + Sync >"

def boxed (interface : Code) : Code := code "Box < dyn" ++ interface ++ code ">"

end ServiceGen.Render
