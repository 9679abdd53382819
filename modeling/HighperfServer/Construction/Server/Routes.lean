import HighperfServer.Construction.Http.Router
import HighperfServer.Construction.Metrics
import HighperfServer.Construction.Middleware.Auth
import HighperfServer.Construction.Models
import HighperfServer.Construction.Proxy
import HighperfServer.Construction.Session
import HighperfServer.Construction.StaticFiles
import HighperfServer.Construction.Templates

namespace HighperfServer
open Library

inductive TaskError where
  | panicked (message : Str)
  | cancelled
  deriving DecidableEq, Repr

structure LoginPayload where
  username : Str
  password : Str
  deriving DecidableEq, Repr

/-- The libraries and shared state that the handlers call: password hashing, token keys, JSON,
the counters as the request reads them, the file system and the blocking pool. -/
structure Services where
  argon2 : Argon2
  jwt : JwtSecret
  parseLogin : Bytes → Option LoginPayload
  parseItem : Bytes → Option CreateItem
  serialise : Json → Option Bytes
  metrics : Metrics
  fileSystem : StaticFiles.FileSystem
  joinError : Option TaskError

abbrev Handler := HttpRequest → DbAction HttpResponse

namespace Routes

def redirect (location : String) : HttpResponse :=
  ((ResponseBuilder.new .found).header "location".toList location.toList).empty

def jsonError (services : Services) (status : StatusCode) (message : String) : HttpResponse :=
  (ResponseBuilder.new status).json
    (services.serialise (.object [("error".toList, .string message.toList)]))

def itemJson (item : Item) : Json :=
  .object [("id".toList, .string item.id), ("name".toList, .string item.name),
    ("description".toList, .string item.description)]

def root : Handler := fun _ => pure (redirect "/ui/index")

def health : Handler := fun _ => pure (ResponseBuilder.okStatus.text "ok\n".toList)

def echo : Handler := fun request =>
  let message := (request.pathParam "message".toList).getD []
  pure (ResponseBuilder.okStatus.text (message ++ "\n".toList))

/-- The loop of `fib` shifts the pair with wrapping addition. -/
def fibLoop : Nat → UInt64 → UInt64 → UInt64
  | 0, a, _ => a
  | n + 1, a, b => fibLoop n b (a + b)

def fib (n : Nat) : UInt64 := fibLoop n 0 1

def runBlocking {A : Type} (services : Services) (work : Unit → A) : Except TaskError A :=
  match services.joinError with
  | some error => .error error
  | none => .ok (work ())

def fibonacci (services : Services) : Handler := fun request =>
  let n := (((request.pathParam "n".toList).bind fun text => parseUnsigned 64 text).getD 10).min 50
  pure (match runBlocking services fun _ => fib n with
    | .ok result => ResponseBuilder.okStatus.text (decimal result.toNat ++ "\n".toList)
    | .error _ => ResponseBuilder.internalError.empty)

def staticFile (services : Services) (base : Str) : Handler := fun request =>
  let filepath := (request.pathParam "filepath".toList).getD []
  pure (services.fileSystem.run (StaticFiles.serveFile base filepath)).1

def authToken (services : Services) : Handler := fun request =>
  match services.parseLogin request.body with
  | none => pure (jsonError services .badRequest "invalid JSON body")
  | some payload => do
      let verified ← (verifyUser services.argon2 payload.username payload.password).result
      match verified with
      | .ok true =>
          let created ← services.jwt.createToken payload.username
          return match created with
            | some token => ResponseBuilder.okStatus.json
                (services.serialise (.object [("token".toList, .string token)]))
            | none => ResponseBuilder.internalError.empty
      | .ok false => return jsonError services .unauthorized "invalid credentials"
      | .error _ => return ResponseBuilder.internalError.empty

def apiListItems (services : Services) : Handler := fun _ => do
  let listed ← listItems.result
  return match listed with
    | .ok items => ResponseBuilder.okStatus.json (services.serialise (.array (items.map itemJson)))
    | .error _ => ResponseBuilder.internalError.empty

def apiGetItem (services : Services) : Handler := fun request => do
  let id := (request.pathParam "id".toList).getD []
  let found ← (getItem id).result
  return match found with
    | .ok (some item) => ResponseBuilder.okStatus.json (services.serialise (itemJson item))
    | .ok none => jsonError services .notFound "item not found"
    | .error _ => ResponseBuilder.internalError.empty

/-- The administrative routes go on only with a valid bearer token. -/
def requireBearer (services : Services) (request : HttpRequest) (next : DbAction HttpResponse) :
    DbAction HttpResponse :=
  match extractBearer (request.header "authorization".toList) with
  | none => pure (jsonError services .unauthorized "missing Bearer token")
  | some token => do
      let verified ← services.jwt.verifyToken token
      match verified with
      | none => return jsonError services .unauthorized "invalid or expired token"
      | some _ => next

def adminCreateItem (services : Services) : Handler := fun request =>
  requireBearer services request
    (match services.parseItem request.body with
    | none => pure (jsonError services .badRequest "invalid JSON body")
    | some payload => do
        let created ← (createItem payload.name payload.description).result
        return match created with
          | .ok item => (ResponseBuilder.new .created).json (services.serialise (itemJson item))
          | .error _ => ResponseBuilder.internalError.empty)

def adminDeleteItem (services : Services) : Handler := fun request =>
  requireBearer services request (do
    let id := (request.pathParam "id".toList).getD []
    let deleted ← (deleteItem id).result
    return match deleted with
      | .ok true => ResponseBuilder.okStatus.json
          (services.serialise (.object [("deleted".toList, .bool true)]))
      | .ok false => jsonError services .notFound "item not found"
      | .error _ => ResponseBuilder.internalError.empty)

def sessionToken (request : HttpRequest) : Option Str :=
  (request.header "cookie".toList).bind fun cookie => extractSessionCookie (some cookie)

/-- A failed lookup counts as no session. -/
def currentSession (token : Option Str) : DbAction (Option Session) :=
  match token with
  | some token => do
      let found ← (SessionStore.get token).result
      return found.toOption.join
  | none => pure none

def sessionContext (session : Option Session) : Context :=
  match session with
  | some session => (Context.new.insert "session_user".toList (.string session.username)).insert
      "csrf_token".toList (.string session.csrfToken)
  | none => Context.new

/-- The form loop binds two fields, and the last pair with a key wins. -/
def formFields (firstKey secondKey : String) (body : Bytes) : Str × Str :=
  ((Utf8.decodeLossy body).splitOn '&').foldl (fun fields pair =>
    match splitOnce '=' pair with
    | some (key, value) =>
        let decoded := Utf8.decodeLossy (percentDecodeStr (plusToSpace value))
        (if key = firstKey.toList then decoded else fields.1,
          if key = secondKey.toList then decoded else fields.2)
    | none => fields) ([], [])

def uiIndex (engine : TemplateEngine) : Handler := fun request => do
  let session ← currentSession (sessionToken request)
  return engine.render "index.html".toList (sessionContext session)

def uiLoginPage (engine : TemplateEngine) : Handler := fun _ =>
  pure (engine.render "login.html".toList Context.new)

def cookieSecure (config : ServerConfig) : Bool :=
  config.tlsCertPath.isSome && config.tlsKeyPath.isSome

def sessionCookie (token : Str) (secure : Bool) : Str :=
  "session=".toList ++ token ++ "; HttpOnly; SameSite=Strict; Path=/; Max-Age=3600".toList ++
    if secure then "; Secure".toList else []

def uiLogin (services : Services) (engine : TemplateEngine) (secure : Bool) : Handler :=
  fun request => do
    let (username, password) := formFields "username" "password" request.body
    let verified ← (verifyUser services.argon2 username password).result
    match verified with
    | .ok true =>
        let created ← (SessionStore.create username).result
        return match created with
          | .ok token => (((ResponseBuilder.new .found).header "location".toList
              "/ui/items".toList).header "set-cookie".toList (sessionCookie token secure)).empty
          | .error _ => ResponseBuilder.internalError.empty
    | .ok false =>
        return engine.render "login.html".toList ((Context.new.insert "flash".toList
          (.string "Invalid username or password.".toList)).insert "flash_type".toList
            (.string "error".toList))
    | .error _ => return ResponseBuilder.internalError.empty

def csrfParam (request : HttpRequest) : Str := (request.formParam "_csrf".toList).getD []

def csrfFailed : HttpResponse :=
  (ResponseBuilder.new .forbidden).text "CSRF validation failed\n".toList

def uiLogout : Handler := fun request => do
  let token := sessionToken request
  let session ← currentSession token
  let csrf := csrfParam request
  if session.all fun session => session.csrfToken ≠ csrf then return csrfFailed
  else
    let response := (((ResponseBuilder.new .found).header "location".toList
      "/ui/login".toList).header "set-cookie".toList "session=; Max-Age=0; Path=/".toList).empty
    match token with
    | some token =>
        let _removed ← (SessionStore.remove token).result
        return response
    | none => return response

def uiItems (engine : TemplateEngine) : Handler := fun request => do
  let session ← currentSession (sessionToken request)
  let listed ← listItems.result
  let items := listed.toOption.getD []
  let context := (sessionContext session).insert "items".toList (.array (items.map itemJson))
  return engine.render "items.html".toList
    (match request.queryParam "flash".toList with
    | some message => context.insert "flash".toList (.string message)
    | none => context)

/-- The form routes go on only with a session whose CSRF token the form repeats. -/
def requireSession (request : HttpRequest) (next : DbAction HttpResponse) :
    DbAction HttpResponse := do
  let session ← currentSession (sessionToken request)
  let csrf := csrfParam request
  match session with
  | none => return redirect "/ui/login"
  | some session => if session.csrfToken ≠ csrf then return csrfFailed else next

def uiCreateItem (engine : TemplateEngine) : Handler := fun request =>
  requireSession request (do
    let (name, description) := formFields "name" "description" request.body
    let created ← (createItem name description).result
    match created with
    | .ok _ => return redirect "/ui/items?flash=Item+created"
    | .error _ =>
        let listed ← listItems.result
        let items := listed.toOption.getD []
        let context := Context.new.insert "items".toList (.array (items.map itemJson))
        let context := context.insert "flash".toList (.string "Failed to create item.".toList)
        return engine.render "items.html".toList
          (context.insert "flash_type".toList (.string "error".toList)))

def uiDeleteItem : Handler := fun request =>
  requireSession request (do
    let id := (request.pathParam "id".toList).getD []
    let deleted ← (deleteItem id).result
    return match deleted with
      | .ok _ => redirect "/ui/items?flash=Item+deleted"
      | .error _ => redirect "/ui/items")

def metricsContext (metrics : Metrics) (context : Context) : Context :=
  [("requests_total".toList, metrics.requestsTotal),
    ("requests_active".toList, metrics.requestsActive),
    ("responses_2xx".toList, metrics.responses2xx),
    ("responses_4xx".toList, metrics.responses4xx),
    ("responses_5xx".toList, metrics.responses5xx),
    ("rate_limited".toList, metrics.rateLimited),
    ("concurrency_limited".toList, metrics.concurrencyLimited),
    ("timed_out".toList, metrics.timedOut),
    ("connections_accepted".toList, metrics.connectionsAccepted),
    ("connections_rejected_ip".toList, metrics.connectionsRejectedIp)].foldl
      (fun context counter => context.insert counter.1 (.number counter.2)) context

def uiMetrics (services : Services) (engine : TemplateEngine) : Handler := fun request => do
  let session ← currentSession (sessionToken request)
  return engine.render "metrics.html".toList
    (metricsContext services.metrics (sessionContext session))

def metricsPage (services : Services) : Handler := fun _ =>
  pure ((ResponseBuilder.okStatus.header "content-type".toList
    "text/plain; version=0.0.4; charset=utf-8".toList).text services.metrics.render)

def forward (client : Proxy.Client) (upstream : Str) (strip : Option Str) : Handler :=
  fun request => pure (Proxy.proxyRequest client request upstream strip)

def apiRoutes (config : ServerConfig) (services : Services) (router : Router DbAction) :
    Router DbAction :=
  let router := router.get "/".toList root
  let router := router.get "/health".toList health
  let router := router.get "/echo/:message".toList echo
  let router := router.get "/fib/:n".toList (fibonacci services)
  let router := router.get "/static/*filepath".toList (staticFile services config.staticDir)
  let router := router.post "/auth/token".toList (authToken services)
  let router := router.get "/api/items".toList (apiListItems services)
  let router := router.get "/api/items/:id".toList (apiGetItem services)
  let router := router.post "/api/admin/items".toList (adminCreateItem services)
  router.delete "/api/admin/items/:id".toList (adminDeleteItem services)

def uiRoutes (config : ServerConfig) (services : Services) (engine : TemplateEngine)
    (router : Router DbAction) : Router DbAction :=
  let router := router.get "/ui".toList root
  let router := router.get "/ui/index".toList (uiIndex engine)
  let router := router.get "/ui/login".toList (uiLoginPage engine)
  let router := router.post "/ui/login".toList (uiLogin services engine (cookieSecure config))
  let router := router.post "/ui/logout".toList uiLogout
  let router := router.get "/ui/items".toList (uiItems engine)
  let router := router.post "/ui/items".toList (uiCreateItem engine)
  let router := router.post "/ui/items/:id/delete".toList uiDeleteItem
  router.get "/ui/metrics".toList (uiMetrics services engine)

/-- The application router registers the HTML pages when templates are loaded, and the proxy's
catch-all last when a client and an upstream are configured. -/
def buildRouter (config : ServerConfig) (services : Services) (templates : Option TemplateEngine)
    (proxyClient : Option Proxy.Client) : Router DbAction :=
  let router := apiRoutes config services Router.new
  let router := match templates with
    | some engine => uiRoutes config services engine router
    | none => router
  let router := router.get "/metrics".toList (metricsPage services)
  match proxyClient, config.proxyUpstream with
  | some client, some upstream =>
      router.any "/*path".toList (forward client upstream config.proxyStripPrefix)
  | _, _ => router

end Routes

end HighperfServer
