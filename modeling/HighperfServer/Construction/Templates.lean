import HighperfServer.Construction.Http.Response

namespace HighperfServer
open Library

inductive Json where
  | bool (value : Bool)
  | number (value : Nat)
  | string (value : Str)
  | array (values : List Json)
  | object (fields : List (Str × Json))

abbrev Context := Str → Option Json

namespace Context

def new : Context := fun _ => none

def insert (context : Context) (name : Str) (value : Json) : Context :=
  fun key => if key = name then some value else context key

end Context

/-- A compiled template engine renders a named template or reports an error. -/
structure TemplateEngine where
  tera : Str → Context → Except Str Str

def contentSecurityPolicy : Str :=
  ("default-src 'self'; style-src 'self' 'unsafe-inline'; base-uri 'self'; " ++
    "form-action 'self'; frame-ancestors 'none'").toList

/-- A rendered page carries the security headers, and an error becomes a 500 page. -/
def TemplateEngine.render (engine : TemplateEngine) (templateName : Str) (context : Context) :
    HttpResponse :=
  match engine.tera templateName context with
  | .ok html =>
      let page := ResponseBuilder.okStatus.header "content-type".toList
        "text/html; charset=utf-8".toList
      let page := page.header "content-security-policy".toList contentSecurityPolicy
      let page := page.header "x-content-type-options".toList "nosniff".toList
      let page := page.header "x-frame-options".toList "DENY".toList
      let page := page.header "referrer-policy".toList "no-referrer".toList
      page.text html
  | .error error =>
      let page := ResponseBuilder.internalError.header "content-type".toList
        "text/html; charset=utf-8".toList
      page.text ("<h1>500 Internal Server Error</h1><pre>".toList ++ error ++ "</pre>".toList)

end HighperfServer
