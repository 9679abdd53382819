import HighperfServer.Proof.Http.Response
import HighperfServer.Proof.Server.Authorisation
import HighperfServer.Proof.Server.RouteTable
import HighperfServer.Proof.Storage.Reliable

namespace HighperfServer
open Library

namespace Routes

section Guards
variable {env : Env} {db : Database} {drawn : Nat} {request : HttpRequest} {row : SessionRow}

/-- A valid session is looked up by its token. -/
theorem SessionValid.selected (valid : SessionValid request env db row) :
    db.sessions.selectLive row.token env.now = some ⟨row.username, row.csrfToken⟩ := by
  obtain ⟨member, unexpired, _, _⟩ := valid
  exact Sessions.selectLive_eq_some_iff.mpr
    ⟨row, Table.lookup_eq_some_iff.mpr ⟨member, rfl⟩, unexpired, rfl⟩

end Guards

/-- A route that has the method and matches the path handles the request. -/
theorem dispatch_route (config : ServerConfig) (services : Services)
    (templates : Option TemplateEngine) (proxyClient : Option Proxy.Client) {request : HttpRequest}
    {method : Method} {pattern : String} {handler : Handler} {params : PathParams}
    (member : ⟨method, parsePattern pattern.toList, handler⟩ ∈
      (buildRouter config services templates none).routes)
    (requested : Requests request method pattern params) :
    (buildRouter config services templates proxyClient).dispatch request =
      handler { request with pathParams := params } := by
  refine dispatch_of_local config services templates proxyClient request member requested.2 ?_
  exact decide_eq_true (.inr requested.1.symm)

end Routes

end HighperfServer
