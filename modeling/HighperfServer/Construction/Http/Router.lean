import HighperfServer.Construction.Http.Response

namespace HighperfServer
open Library

inductive PathSegment where
  | literal (text : Str)
  | param (name : Str)
  | wildcard (name : Str)
  deriving DecidableEq, Repr

def parseSegment (segment : Str) : PathSegment :=
  match segment with
  | '*' :: name => .wildcard name
  | ':' :: name => .param name
  | text => .literal text

def parsePattern (pattern : Str) : List PathSegment :=
  (pieces '/' pattern).map parseSegment

abbrev PathParams := Str → Option Str

def PathParams.insert (params : PathParams) (name value : Str) : PathParams :=
  fun key => if key = name then some value else params key

def hasWildcard (segments : List PathSegment) : Bool :=
  match segments.getLast? with
  | some (.wildcard _) => true
  | _ => false

/-- The loop of `match_path` walks the pattern along the path and captures as it goes. -/
def matchSegments (params : PathParams) : List PathSegment → List Str → Option PathParams
  | [], _ => some params
  | .literal text :: pattern, segments =>
      match segments with
      | segment :: rest => if segment = text then matchSegments params pattern rest else none
      | [] => none
  | .param name :: pattern, segments =>
      match segments with
      | segment :: rest => matchSegments (params.insert name segment) pattern rest
      | [] => none
  | .wildcard name :: _, segments =>
      match segments with
      | [] => some params
      | segments => some (params.insert name (['/'].intercalate segments))

def matchPath (segments : List PathSegment) (path : Str) : Option PathParams :=
  let pathSegments := pieces '/' path
  let fits :=
    if hasWildcard segments then segments.length - 1 ≤ pathSegments.length
    else pathSegments.length = segments.length
  if fits then matchSegments (fun _ => none) segments pathSegments else none

/-- The sentinel method of a route that accepts every method. -/
def Method.anySentinel : Method := .extension ['*']

structure RouteEntry (M : Type → Type) where
  method : Method
  segments : List PathSegment
  handler : HttpRequest → M HttpResponse

structure Router (M : Type → Type) where
  routes : List (RouteEntry M)

namespace Router
variable {M : Type → Type}

def new : Router M := ⟨[]⟩

def add (router : Router M) (method : Method) (pattern : Str)
    (handler : HttpRequest → M HttpResponse) : Router M :=
  ⟨router.routes ++ [⟨method, parsePattern pattern, handler⟩]⟩

def get (router : Router M) (pattern : Str) (handler : HttpRequest → M HttpResponse) : Router M :=
  router.add .get pattern handler

def post (router : Router M) (pattern : Str) (handler : HttpRequest → M HttpResponse) : Router M :=
  router.add .post pattern handler

def put (router : Router M) (pattern : Str) (handler : HttpRequest → M HttpResponse) : Router M :=
  router.add .put pattern handler

def delete (router : Router M) (pattern : Str) (handler : HttpRequest → M HttpResponse) : Router M :=
  router.add .delete pattern handler

def any (router : Router M) (pattern : Str) (handler : HttpRequest → M HttpResponse) : Router M :=
  router.add .anySentinel pattern handler

def methodOk (route : RouteEntry M) (method : Method) : Bool :=
  route.method.asStr = ['*'] ∨ route.method = method

/-- The scan remembers whether any earlier path matched. -/
def dispatchRoutes [Monad M] (request : HttpRequest) :
    List (RouteEntry M) → Bool → M HttpResponse
  | [], anyPathMatched =>
      pure (if anyPathMatched then ResponseBuilder.methodNotAllowed.empty
        else ResponseBuilder.notFound.text "404 Not Found\n".toList)
  | route :: rest, anyPathMatched =>
      match matchPath route.segments request.path with
      | some params =>
          if methodOk route request.method then
            route.handler { request with pathParams := params }
          else dispatchRoutes request rest true
      | none => dispatchRoutes request rest anyPathMatched

def dispatch [Monad M] (router : Router M) (request : HttpRequest) : M HttpResponse :=
  dispatchRoutes request router.routes false

end Router

end HighperfServer
