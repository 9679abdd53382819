import HighperfServer.Construction.Http.Router
import HighperfServer.Library.FirstMatch

namespace HighperfServer
open Library

/-- A wildcard ends the walk along the pattern. -/
def isWildcard : PathSegment → Bool
  | .wildcard _ => true
  | .literal _ | .param _ => false

/-- Without a wildcard a match fills every parameter of the pattern. -/
theorem matchSegments_captures {name : Str} {pattern : List PathSegment} {segments : List Str}
    {params captured : PathParams} (plain : ∀ part ∈ pattern, isWildcard part = false)
    (named : .param name ∈ pattern ∨ (params name).isSome = true)
    (matched : matchSegments params pattern segments = some captured) :
    (captured name).isSome = true := by
  induction pattern generalizing params segments with
  | nil =>
      obtain rfl := Option.some.inj matched
      exact named.resolve_left List.not_mem_nil
  | cons part pattern ih =>
      have plainRest (other : PathSegment) (member : other ∈ pattern) : isWildcard other = false :=
        plain other (List.mem_cons_of_mem _ member)
      cases part with
      | wildcard rest => exact absurd (plain _ List.mem_cons_self) (by simp [isWildcard])
      | literal text =>
          cases segments with
          | nil => exact absurd matched (by simp [matchSegments])
          | cons segment segments =>
              obtain ⟨_, later⟩ := Option.ite_none_right_eq_some.mp matched
              refine ih plainRest ?_ later
              simpa using named
      | param other =>
          cases segments with
          | nil => exact absurd matched (by simp [matchSegments])
          | cons segment segments =>
              refine ih plainRest ?_ matched
              by_cases same : name = other
              · simp [PathParams.insert, same]
              · simpa [PathParams.insert, same] using named

/-- A match captures every parameter that the pattern names. -/
theorem matchPath_captures {name : Str} {pattern : List PathSegment} {path : Str}
    {captured : PathParams} (plain : ∀ part ∈ pattern, isWildcard part = false)
    (named : .param name ∈ pattern) (matched : matchPath pattern path = some captured) :
    ∃ value, captured name = some value := by
  obtain ⟨_, walked⟩ := Option.ite_none_right_eq_some.mp matched
  exact Option.isSome_iff_exists.mp (matchSegments_captures plain (.inl named) walked)

namespace Router
variable {M : Type → Type}

/-- The pattern of the route matches the path of the request. -/
def Fits (request : HttpRequest) (route : RouteEntry M) (params : PathParams) : Prop :=
  matchPath route.segments request.path = some params

/-- The route accepts the method of the request. -/
def Accepts (request : HttpRequest) (route : RouteEntry M) : Prop :=
  methodOk route request.method = true

/-- The routes decide the request. -/
abbrev Decided (request : HttpRequest) (routes : List (RouteEntry M)) :
    Decision (RouteEntry M) PathParams → Prop :=
  Decides (Fits request) (Accepts request) routes

/-- A request that is taken goes to a handler, and any other is answered by the router. -/
def perform [Monad M] {Entry : Type} (handler : Entry → HttpRequest → M HttpResponse)
    (request : HttpRequest) : Decision Entry PathParams → M HttpResponse
  | .taken _ entry params => handler entry { request with pathParams := params }
  | .refused => pure ResponseBuilder.methodNotAllowed.empty
  | .unmatched => pure (ResponseBuilder.notFound.text "404 Not Found\n".toList)

/-- A route for one method accepts that method only. -/
theorem methodOk_iff {route : RouteEntry M} {method : Method} (plain : route.method.asStr ≠ ['*']) :
    methodOk route method = true ↔ method = route.method := by
  unfold methodOk
  rw [decide_eq_true_eq]
  constructor
  · intro accepted
    exact (accepted.resolve_left plain).symm
  · intro same
    exact .inr same.symm

/-- A route with the sentinel accepts every method. -/
theorem methodOk_any (route : RouteEntry M) (sentinel : route.method = .anySentinel)
    (method : Method) : methodOk route method = true := by
  unfold methodOk
  rw [sentinel]
  exact decide_eq_true (.inl rfl)

theorem fits_functional (request : HttpRequest) (route : RouteEntry M) (first second : PathParams)
    (one : Fits request route first) (other : Fits request route second) : first = second :=
  Option.some.inj (one.symm.trans other)

section Dispatch
variable [Monad M] (request : HttpRequest)

@[simp] theorem perform_shift {Entry : Type} (handler : Entry → HttpRequest → M HttpResponse)
    (decision : Decision Entry PathParams) :
    perform handler request decision.shift = perform handler request decision := by
  cases decision <;> rfl

@[simp] theorem perform_shift_refuse {Entry : Type} (handler : Entry → HttpRequest → M HttpResponse)
    (decision : Decision Entry PathParams) :
    perform handler request decision.shift.refuse = perform handler request decision.refuse := by
  cases decision <;> rfl

/-- The scan performs the decision of its routes, and a path that matched before counts as a
refusal. -/
theorem dispatchRoutes_decides (routes : List (RouteEntry M)) (anyPathMatched : Bool) :
    ∃ decision, Decided request routes decision ∧
      dispatchRoutes request routes anyPathMatched =
        perform RouteEntry.handler request (if anyPathMatched then decision.refuse else decision) := by
  induction routes generalizing anyPathMatched with
  | nil =>
      refine ⟨.unmatched, decides_nil, ?_⟩
      cases anyPathMatched <;> rfl
  | cons route rest ih =>
      unfold dispatchRoutes
      cases matched : matchPath route.segments request.path with
      | none =>
          obtain ⟨decision, decided, performed⟩ := ih anyPathMatched
          refine ⟨decision.shift, decided.behind_unfit ?_, ?_⟩
          · intro params fits
            exact absurd (matched.symm.trans fits) (by simp)
          · dsimp only
            rw [performed]
            cases anyPathMatched <;> simp
      | some params =>
          dsimp only
          by_cases accepted : methodOk route request.method = true
          · refine ⟨.taken 0 route params, decides_front matched accepted, ?_⟩
            rw [if_pos accepted]
            cases anyPathMatched <;> rfl
          · obtain ⟨decision, decided, performed⟩ := ih true
            refine ⟨decision.shift.refuse, decided.behind_refusing matched accepted, ?_⟩
            rw [if_neg accepted, performed]
            cases anyPathMatched <;> simp

/-- A request is dispatched by the decision of the routes. -/
theorem dispatch_of_decides {router : Router M} {decision : Decision (RouteEntry M) PathParams}
    (decided : Decided request router.routes decision) :
    router.dispatch request = perform RouteEntry.handler request decision := by
  obtain ⟨found, holds, performed⟩ := dispatchRoutes_decides request router.routes false
  rw [decided.unique (fits_functional request) holds]
  exact performed

/-- Every router decides on every request. -/
theorem exists_decides (router : Router M) :
    ∃ decision, Decided request router.routes decision := by
  obtain ⟨decision, decided, _⟩ := dispatchRoutes_decides request router.routes false
  exact ⟨decision, decided⟩

/-- A request goes to a route that accepts it or is answered by the router itself. -/
theorem dispatch_cases (router : Router M) :
    (∃ route ∈ router.routes, ∃ params, Accepts request route ∧ Fits request route params ∧
      router.dispatch request = route.handler { request with pathParams := params }) ∨
    ∃ response, router.dispatch request = pure response := by
  obtain ⟨decision, decided⟩ := exists_decides request router
  have performed := dispatch_of_decides request decided
  cases decided with
  | taken present fits accepts least =>
      exact .inl ⟨_, List.mem_of_getElem? present, _, accepts, fits, performed⟩
  | refused _ _ => exact .inr ⟨_, performed⟩
  | unmatched _ => exact .inr ⟨_, performed⟩

/-- The order of routes that exclude each other does not matter. -/
theorem dispatch_perm {first second : Router M}
    (exclusive : Exclusive (Fits request) (Accepts request) first.routes)
    (permuted : first.routes.Perm second.routes) :
    (∀ route params, (∃ index, Decided request second.routes (.taken index route params)) ↔
      ∃ index, Decided request first.routes (.taken index route params)) ∧
    (Decided request second.routes .refused ↔ Decided request first.routes .refused) ∧
    (Decided request second.routes .unmatched ↔ Decided request first.routes .unmatched) ∧
    second.dispatch request = first.dispatch request := by
  have taken (route : RouteEntry M) (params : PathParams) :
      (∃ index, Decided request second.routes (.taken index route params)) ↔
        ∃ index, Decided request first.routes (.taken index route params) := by
    rw [(exclusive.perm permuted).taken_iff, exclusive.taken_iff, permuted.mem_iff]
  have refused : Decided request second.routes .refused ↔ Decided request first.routes .refused := by
    simp only [decides_refused_iff, permuted.mem_iff]
  have unmatched : Decided request second.routes .unmatched ↔
      Decided request first.routes .unmatched := by
    simp only [decides_unmatched_iff, permuted.mem_iff]
  refine ⟨taken, refused, unmatched, ?_⟩
  obtain ⟨decision, decided⟩ := exists_decides request first
  rw [dispatch_of_decides request decided]
  cases decision with
  | taken index route params =>
      obtain ⟨other, decidedOther⟩ := (taken route params).mpr ⟨index, decided⟩
      rw [dispatch_of_decides request decidedOther]
      rfl
  | refused => exact dispatch_of_decides request (refused.mpr decided)
  | unmatched => exact dispatch_of_decides request (unmatched.mpr decided)

end Dispatch

/-- A property of the registered routes extends to one more registration. -/
theorem forall_add {property : RouteEntry M → Prop} {router : Router M} {method : Method}
    {pattern : Str} {handler : HttpRequest → M HttpResponse}
    (earlier : ∀ route ∈ router.routes, property route)
    (added : property ⟨method, parsePattern pattern, handler⟩) :
    ∀ route ∈ (router.add method pattern handler).routes, property route := by
  intro route member
  rcases List.mem_append.mp member with old | new
  · exact earlier route old
  · rw [List.mem_singleton.mp new]
    exact added

end Router

end HighperfServer
