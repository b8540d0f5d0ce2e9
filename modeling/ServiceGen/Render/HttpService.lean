import ServiceGen.Render.Context

/-!
The code of a plain service: a controller with a handler for each route.
-/
namespace ServiceGen.Render.HttpService

def handler (context : Context) (route : Route) : Emit Code := do
  let constant ← ident route.constant
  let closure ← userClosure (code "inner") route.call (code "&" ++ context.lib "http :: Context")
  pure (braces (code "let inner = :: std :: sync :: Arc :: clone" ++
    parens (code "& self . inner") ++ code ";" ++
    context.lib "http :: Handler :: new" ++
    parens (commas [quoted route.method, quoted route.path, constant, closure])))

def render (context : Context) (plan : HttpServicePlan) : Emit Code := do
  let service ← ident plan.service
  let controller ← ident plan.controller
  let handlers ← plan.routes.mapM (handler context)
  let inner := code "inner :" ++ sharedService service
  pure (documented ("Serves a `" ++ plan.service ++ "` implementation over HTTP.") ++
    code "pub struct" ++ controller ++ braces (inner ++ code ",") ++
    code "impl" ++ controller ++
    braces (
      code "pub fn new" ++ parens inner ++ code "-> Self" ++
      braces (code "Self" ++ braces (code "inner")) ++
      code "pub fn handlers" ++ parens (code "& self") ++ code "-> Vec <" ++
      context.lib "http :: Handler" ++ code ">" ++
      braces (code "vec !" ++ brackets (commas handlers))))

end ServiceGen.Render.HttpService
