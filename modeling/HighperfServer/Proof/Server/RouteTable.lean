import HighperfServer.Construction.Server.Routes
import HighperfServer.Proof.Http.Dispatch

namespace HighperfServer
open Library

namespace Routes

/-- The methods and patterns of the local routes, with the HTML pages when templates are loaded. -/
def localRoutes (templated : Bool) : List (Method × String) :=
  [(.get, "/"), (.get, "/health"), (.get, "/echo/:message"), (.get, "/fib/:n"),
    (.get, "/static/*filepath"), (.post, "/auth/token"), (.get, "/api/items"),
    (.get, "/api/items/:id"), (.post, "/api/admin/items"), (.delete, "/api/admin/items/:id")] ++
  (if templated then
    [(.get, "/ui"), (.get, "/ui/index"), (.get, "/ui/login"), (.post, "/ui/login"),
      (.post, "/ui/logout"), (.get, "/ui/items"), (.post, "/ui/items"),
      (.post, "/ui/items/:id/delete"), (.get, "/ui/metrics")]
  else []) ++
  [(.get, "/metrics")]

/-- A router without a proxy registers exactly the local routes. -/
theorem buildRouter_table (config : ServerConfig) (services : Services)
    (templates : Option TemplateEngine) :
    ((buildRouter config services templates none).routes.map fun route =>
      (route.method, route.segments)) =
      (localRoutes templates.isSome).map fun entry => (entry.1, parsePattern entry.2.toList) := by
  cases templates <;>
    simp only [buildRouter, apiRoutes, uiRoutes, Router.get, Router.post, Router.delete, Router.add,
      Router.new, localRoutes, Option.isSome, if_true, Bool.false_eq_true, if_false,
      List.nil_append, List.append_nil, List.cons_append, List.map_cons, List.map_nil]

/-- Every registered route is one of the local routes. -/
theorem exists_localRoute {config : ServerConfig} {services : Services}
    {templates : Option TemplateEngine} {route : RouteEntry DbAction}
    (member : route ∈ (buildRouter config services templates none).routes) :
    ∃ entry ∈ localRoutes templates.isSome,
      route.method = entry.1 ∧ route.segments = parsePattern entry.2.toList := by
  have listed : (route.method, route.segments) ∈
      (buildRouter config services templates none).routes.map fun route =>
        (route.method, route.segments) := List.mem_map.mpr ⟨route, member, rfl⟩
  rw [buildRouter_table] at listed
  obtain ⟨entry, present, same⟩ := List.mem_map.mp listed
  obtain ⟨method, segments⟩ := Prod.mk.inj same
  exact ⟨entry, present, method.symm, segments.symm⟩

/-- Two patterns may match one path. -/
def overlap : List PathSegment → List PathSegment → Bool
  | .wildcard _ :: _, _ => true
  | _, .wildcard _ :: _ => true
  | [], [] => true
  | .literal first :: pattern, .literal second :: other => first = second && overlap pattern other
  | _ :: pattern, _ :: other => overlap pattern other
  | _, _ => false

/-- Patterns that match one path overlap. -/
theorem overlap_of_matches {first second : List PathSegment} {segments : List Str}
    {one other : List (Str × Str)} (left : Matches first segments one)
    (right : Matches second segments other) : overlap first second = true := by
  induction left generalizing second other with
  | nil =>
      cases right with
      | nil => rfl
      | wildcardEmpty => rfl
      | wildcard => rfl
  | literal text rest ih =>
      cases right with
      | literal _ later => simp [overlap, ih later]
      | param _ _ later => simp [overlap, ih later]
      | wildcard => simp [overlap]
  | param name value rest ih =>
      cases right with
      | literal _ later => simp [overlap, ih later]
      | param _ _ later => simp [overlap, ih later]
      | wildcard => simp [overlap]
  | wildcardEmpty name => simp [overlap]
  | wildcard name nonempty => simp [overlap]

/-- The two routes have different methods or patterns that share no path. -/
def Apart (first second : Method × List PathSegment) : Prop :=
  first.1 ≠ second.1 ∨ overlap first.2 second.2 = false

instance (first second : Method × List PathSegment) : Decidable (Apart first second) :=
  inferInstanceAs (Decidable (_ ∨ _))

/-- The route has one method and its wildcard, if any, at the end. -/
def Plain (route : Method × List PathSegment) : Prop :=
  route.1.asStr ≠ ['*'] ∧ WildcardLast route.2

instance (route : Method × List PathSegment) : Decidable (Plain route) :=
  inferInstanceAs (Decidable (_ ∧ _))

/-- The compiled local routes. -/
def compiledRoutes (templated : Bool) : List (Method × List PathSegment) :=
  (localRoutes templated).map fun entry => (entry.1, parsePattern entry.2.toList)

/-- No two routes of the table share a method and a path. -/
theorem compiledRoutes_apart (templated : Bool) : (compiledRoutes templated).Pairwise Apart := by
  cases templated <;> decide +kernel

/-- Every route of the table is plain. -/
theorem compiledRoutes_plain (templated : Bool) :
    ((compiledRoutes templated).all fun route => Plain route) = true := by
  cases templated <;> decide +kernel

/-- No two local routes take one request. -/
theorem localRoutes_exclusive (config : ServerConfig) (services : Services)
    (templates : Option TemplateEngine) (request : HttpRequest) :
    Exclusive (Router.Fits request) (Router.Accepts request)
      (buildRouter config services templates none).routes := by
  have table := buildRouter_table config services templates
  have apart := compiledRoutes_apart templates.isSome
  have plain (route : RouteEntry DbAction)
      (member : route ∈ (buildRouter config services templates none).routes) :
      Plain (route.method, route.segments) := by
    have listed : (route.method, route.segments) ∈ compiledRoutes templates.isSome := by
      rw [compiledRoutes, ← table]
      exact List.mem_map.mpr ⟨route, member, rfl⟩
    exact of_decide_eq_true
      (List.all_eq_true.mp (compiledRoutes_plain templates.isSome) _ listed)
  rw [compiledRoutes, ← table, List.pairwise_map] at apart
  apply apart.imp_of_mem
  intro first second firstMember secondMember different one other fits accepts fitted accepted
  obtain ⟨firstMethod, firstLast⟩ := plain first firstMember
  obtain ⟨secondMethod, secondLast⟩ := plain second secondMember
  obtain ⟨_, left, _⟩ := (matchPath_eq_some_iff firstLast).mp fits
  obtain ⟨_, right, _⟩ := (matchPath_eq_some_iff secondLast).mp fitted
  have sameMethod : first.method = second.method :=
    ((Router.methodOk_iff firstMethod).mp accepts).symm.trans
      ((Router.methodOk_iff secondMethod).mp accepted)
  rcases different with methods | disjoint
  · exact methods sameMethod
  · rw [overlap_of_matches left right] at disjoint
    exact absurd disjoint (by simp)

/-- The proxy adds nothing but its catch-all, and it comes last. -/
theorem buildRouter_proxy (config : ServerConfig) (services : Services)
    (templates : Option TemplateEngine) (proxyClient : Option Proxy.Client) :
    (buildRouter config services templates proxyClient).routes =
        (buildRouter config services templates none).routes ∨
      ∃ handler, (buildRouter config services templates proxyClient).routes =
        (buildRouter config services templates none).routes ++ [catchAll handler] := by
  cases proxyClient with
  | none => exact .inl rfl
  | some client =>
      cases upstream : config.proxyUpstream with
      | none =>
          left
          simp only [buildRouter, upstream]
      | some address =>
          right
          refine ⟨forward client address config.proxyStripPrefix, ?_⟩
          simp only [buildRouter, upstream]
          rfl

/-- A local route that fits and accepts a request handles it, with or without a proxy. -/
theorem dispatch_of_local (config : ServerConfig) (services : Services)
    (templates : Option TemplateEngine) (proxyClient : Option Proxy.Client) (request : HttpRequest)
    {route : RouteEntry DbAction} {params : PathParams}
    (member : route ∈ (buildRouter config services templates none).routes)
    (fits : Router.Fits request route params) (accepts : Router.Accepts request route) :
    (buildRouter config services templates proxyClient).dispatch request =
      route.handler { request with pathParams := params } := by
  have exclusive := localRoutes_exclusive config services templates request
  obtain ⟨index, taken⟩ := exclusive.taken_iff.mpr ⟨member, fits, accepts⟩
  have kept : Router.Decided request (buildRouter config services templates proxyClient).routes
      (.taken index route params) := by
    rcases buildRouter_proxy config services templates proxyClient with same | ⟨handler, longer⟩
    · rw [same]
      exact taken
    · rw [longer]
      exact taken.append_taken _
  exact Router.dispatch_of_decides request kept

/-- At most one local route takes a request, and their order does not matter. -/
theorem localRoutes_unshadowed (config : ServerConfig) (services : Services)
    (templates : Option TemplateEngine) (request : HttpRequest) :
    (∀ (first second : Nat) (one other : RouteEntry DbAction) (left right : PathParams),
      (buildRouter config services templates none).routes[first]? = some one →
      (buildRouter config services templates none).routes[second]? = some other →
      Router.Fits request one left → Router.Accepts request one →
      Router.Fits request other right → Router.Accepts request other → first = second) ∧
    (∀ permuted : Router DbAction,
      (buildRouter config services templates none).routes.Perm permuted.routes →
      (∀ route params,
        (∃ index, Router.Decided request permuted.routes (.taken index route params)) ↔
        ∃ index, Router.Decided request (buildRouter config services templates none).routes
          (.taken index route params)) ∧
      (Router.Decided request permuted.routes .refused ↔
        Router.Decided request (buildRouter config services templates none).routes .refused) ∧
      (Router.Decided request permuted.routes .unmatched ↔
        Router.Decided request (buildRouter config services templates none).routes .unmatched) ∧
      permuted.dispatch request =
        (buildRouter config services templates none).dispatch request) ∧
    (∀ proxyClient,
      (buildRouter config services templates proxyClient).routes =
          (buildRouter config services templates none).routes ∨
        ∃ handler, (buildRouter config services templates proxyClient).routes =
          (buildRouter config services templates none).routes ++ [catchAll handler]) := by
  have exclusive := localRoutes_exclusive config services templates request
  refine ⟨?_, ?_, buildRouter_proxy config services templates⟩
  · intro first second one other left right present found fits accepts fitted accepted
    exact exclusive.index_unique present found fits accepts fitted accepted
  · intro permuted permutation
    exact Router.dispatch_perm request exclusive permutation

end Routes

end HighperfServer
