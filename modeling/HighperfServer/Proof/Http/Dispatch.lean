import HighperfServer.Proof.Http.Router

namespace HighperfServer
open Library

/-- A pattern matches a list of segments and captures named values from left to right.

A trailing wildcard captures the rest of the path, or nothing when there is no rest. -/
inductive Matches : List PathSegment → List Str → List (Str × Str) → Prop where
  | nil : Matches [] [] []
  | literal (text : Str) {pattern : List PathSegment} {segments : List Str}
      {captures : List (Str × Str)} (rest : Matches pattern segments captures) :
      Matches (.literal text :: pattern) (text :: segments) captures
  | param (name value : Str) {pattern : List PathSegment} {segments : List Str}
      {captures : List (Str × Str)} (rest : Matches pattern segments captures) :
      Matches (.param name :: pattern) (value :: segments) ((name, value) :: captures)
  | wildcardEmpty (name : Str) : Matches [.wildcard name] [] []
  | wildcard (name : Str) {segments : List Str} (nonempty : segments ≠ []) :
      Matches [.wildcard name] segments [(name, ['/'].intercalate segments)]

/-- The captures are inserted in order. -/
def PathParams.insertAll (params : PathParams) (captures : List (Str × Str)) : PathParams :=
  captures.foldl (fun params capture => params.insert capture.1 capture.2) params

/-- The request sees exactly the captures. -/
def PathParams.ofCaptures (captures : List (Str × Str)) : PathParams :=
  PathParams.insertAll (fun _ => none) captures

/-- A wildcard stands at the end of the pattern only. -/
def WildcardLast (pattern : List PathSegment) : Prop :=
  ∀ part ∈ pattern.dropLast, isWildcard part = false

instance (pattern : List PathSegment) : Decidable (WildcardLast pattern) :=
  inferInstanceAs (Decidable (∀ part ∈ pattern.dropLast, isWildcard part = false))

/-- The path has as many segments as the pattern can match. -/
def LengthFits (pattern : List PathSegment) (segments : List Str) : Prop :=
  if hasWildcard pattern then pattern.length - 1 ≤ segments.length
  else segments.length = pattern.length

section Patterns
variable {part : PathSegment} {pattern : List PathSegment} {segments : List Str}

theorem WildcardLast.tail (last : WildcardLast (part :: pattern)) : WildcardLast pattern := by
  cases pattern with
  | nil => exact fun _ member => absurd member List.not_mem_nil
  | cons next rest =>
      intro other member
      exact last other (List.mem_cons_of_mem _ member)

/-- A wildcard that stands last ends its pattern. -/
theorem WildcardLast.of_wildcard {name : Str} (last : WildcardLast (.wildcard name :: pattern)) :
    pattern = [] := by
  cases pattern with
  | nil => rfl
  | cons next rest => exact absurd (last _ List.mem_cons_self) (by simp [isWildcard])

theorem hasWildcard_cons (plain : isWildcard part = false) :
    hasWildcard (part :: pattern) = hasWildcard pattern := by
  cases pattern with
  | nil =>
      cases part with
      | wildcard name => exact absurd plain (by simp [isWildcard])
      | literal _ | param _ => rfl
  | cons next rest => rw [hasWildcard, List.getLast?_cons_cons, ← hasWildcard]

theorem length_pos_of_hasWildcard (wild : hasWildcard pattern = true) : 0 < pattern.length := by
  cases pattern with
  | nil => exact absurd wild (by simp [hasWildcard])
  | cons next rest => exact Nat.succ_pos _

/-- A plain segment takes one segment of the path. -/
theorem lengthFits_cons (plain : isWildcard part = false) (segment : Str) :
    LengthFits (part :: pattern) (segment :: segments) ↔ LengthFits pattern segments := by
  unfold LengthFits
  rw [hasWildcard_cons plain, List.length_cons, List.length_cons]
  by_cases wild : hasWildcard pattern = true
  · have positive := length_pos_of_hasWildcard wild
    rw [if_pos wild, if_pos wild]
    omega
  · rw [if_neg wild, if_neg wild]
    omega

end Patterns

section Matches
variable {pattern : List PathSegment} {segments : List Str} {captures : List (Str × Str)}

/-- The empty pattern matches the empty path alone. -/
theorem matches_nil_iff : Matches [] segments captures ↔ segments = [] ∧ captures = [] := by
  constructor
  · intro matched
    cases matched
    exact ⟨rfl, rfl⟩
  · rintro ⟨rfl, rfl⟩
    exact .nil

/-- A literal matches its own text. -/
theorem matches_literal_iff {text : Str} :
    Matches (.literal text :: pattern) segments captures ↔
      ∃ rest, segments = text :: rest ∧ Matches pattern rest captures := by
  constructor
  · intro matched
    cases matched with
    | literal _ later => exact ⟨_, rfl, later⟩
  · rintro ⟨rest, rfl, later⟩
    exact .literal text later

/-- A parameter captures one segment. -/
theorem matches_param_iff {name : Str} :
    Matches (.param name :: pattern) segments captures ↔
      ∃ value rest later, segments = value :: rest ∧ captures = (name, value) :: later ∧
        Matches pattern rest later := by
  constructor
  · intro matched
    cases matched with
    | param _ value later => exact ⟨value, _, _, rfl, rfl, later⟩
  · rintro ⟨value, rest, later, rfl, rfl, matched⟩
    exact .param name value matched

/-- A final wildcard captures all segments that remain. -/
theorem matches_wildcard_iff {name : Str} :
    Matches [.wildcard name] segments captures ↔
      captures = if segments = [] then [] else [(name, ['/'].intercalate segments)] := by
  constructor
  · intro matched
    cases matched with
    | wildcardEmpty => rfl
    | wildcard _ nonempty => rw [if_neg nonempty]
  · rintro rfl
    split
    · rename_i empty
      rw [empty]
      exact .wildcardEmpty name
    · rename_i nonempty
      exact .wildcard name nonempty

end Matches

/-- The walk along a path of the right length finds the match of the pattern. -/
theorem matchSegments_eq_some_iff {pattern : List PathSegment} (last : WildcardLast pattern)
    {segments : List Str} (fits : LengthFits pattern segments) {params captured : PathParams} :
    matchSegments params pattern segments = some captured ↔
      ∃ captures, Matches pattern segments captures ∧ captured = params.insertAll captures := by
  induction pattern generalizing segments params with
  | nil =>
      obtain rfl := List.eq_nil_of_length_eq_zero fits
      simp only [matchSegments, matches_nil_iff, true_and, exists_eq_left, Option.some.injEq]
      exact eq_comm
  | cons part pattern ih =>
      cases part with
      | wildcard name =>
          obtain rfl := last.of_wildcard
          simp only [matches_wildcard_iff, exists_eq_left]
          cases segments with
          | nil => exact Option.some_inj.trans eq_comm
          | cons segment rest => exact Option.some_inj.trans eq_comm
      | literal text =>
          simp only [matches_literal_iff]
          cases segments with
          | nil => simp [matchSegments]
          | cons segment rest =>
              have fitsRest := (lengthFits_cons rfl segment).mp fits
              by_cases same : segment = text
              · subst same
                simp [matchSegments, ih last.tail fitsRest]
              · simp [matchSegments, same]
      | param name =>
          simp only [matches_param_iff]
          cases segments with
          | nil => simp [matchSegments]
          | cons segment rest =>
              rw [matchSegments, ih last.tail ((lengthFits_cons rfl segment).mp fits)]
              constructor
              · rintro ⟨captures, matched, filled⟩
                exact ⟨_, ⟨segment, rest, captures, rfl, rfl, matched⟩, filled⟩
              · rintro ⟨_, ⟨value, other, captures, same, rfl, matched⟩, filled⟩
                obtain ⟨rfl, rfl⟩ := List.cons_eq_cons.mp same
                exact ⟨captures, matched, filled⟩

/-- A matching path has a length that fits the pattern. -/
theorem Matches.lengthFits {pattern : List PathSegment} {segments : List Str}
    {captures : List (Str × Str)} (matched : Matches pattern segments captures) :
    LengthFits pattern segments := by
  induction matched with
  | nil => exact rfl
  | literal text rest ih => exact (lengthFits_cons rfl text).mpr ih
  | param name value rest ih => exact (lengthFits_cons rfl value).mpr ih
  | wildcardEmpty name => exact Nat.le_refl 0
  | wildcard name nonempty => exact Nat.zero_le _

/-- A pattern captures in one way. -/
theorem Matches.unique {pattern : List PathSegment} {segments : List Str}
    {first second : List (Str × Str)} (one : Matches pattern segments first)
    (other : Matches pattern segments second) : first = second := by
  induction one generalizing second with
  | nil =>
      cases other
      rfl
  | literal text rest ih =>
      cases other with
      | literal _ later => exact ih later
  | param name value rest ih =>
      cases other with
      | param _ _ later => rw [ih later]
  | wildcardEmpty name =>
      cases other with
      | wildcardEmpty => rfl
      | wildcard _ nonempty => exact absurd rfl nonempty
  | wildcard name nonempty =>
      cases other with
      | wildcardEmpty => exact absurd rfl nonempty
      | wildcard => rfl

/-- A path matches by its non-empty segments. -/
theorem matchPath_eq_some_iff {pattern : List PathSegment} (last : WildcardLast pattern)
    {path : Str} {params : PathParams} :
    matchPath pattern path = some params ↔
      ∃ captures, Matches pattern (pieces '/' path) captures ∧
        params = PathParams.ofCaptures captures := by
  constructor
  · intro matched
    obtain ⟨fits, walked⟩ := Option.ite_none_right_eq_some.mp matched
    exact (matchSegments_eq_some_iff last fits).mp walked
  · rintro ⟨captures, matches_, filled⟩
    apply Option.ite_none_right_eq_some.mpr
    exact ⟨matches_.lengthFits,
      (matchSegments_eq_some_iff last matches_.lengthFits).mpr ⟨captures, matches_, filled⟩⟩

/-- The catch-all of the proxy. -/
def catchAll {M : Type → Type} (handler : HttpRequest → M HttpResponse) : RouteEntry M :=
  ⟨.anySentinel, parsePattern "/*path".toList, handler⟩

/-- The catch-all captures the joined segments of the path, if there are any. -/
def catchAllParams (path : Str) : PathParams := fun name =>
  if name = "path".toList ∧ pieces '/' path ≠ [] then some (['/'].intercalate (pieces '/' path))
  else none

/-- The catch-all matches every path. -/
theorem matchPath_catchAll (path : Str) :
    matchPath (parsePattern "/*path".toList) path = some (catchAllParams path) := by
  have pattern : parsePattern "/*path".toList = [.wildcard "path".toList] := by decide
  have last : WildcardLast [.wildcard "path".toList] := fun _ member =>
    absurd member List.not_mem_nil
  rw [pattern, matchPath_eq_some_iff last]
  by_cases empty : pieces '/' path = []
  · refine ⟨[], ?_, ?_⟩
    · rw [empty]
      exact .wildcardEmpty _
    · funext name
      simp only [catchAllParams, empty, ne_eq, not_true_eq_false, and_false, if_false]
      rfl
  · refine ⟨_, .wildcard _ empty, ?_⟩
    funext name
    simp only [catchAllParams, empty, ne_eq, not_false_eq_true, and_true]
    rfl

/-- A catch-all registered last leaves every taken request to its handler, and takes every other
request with the path as its parameter. -/
theorem catchAll_only_adds {M : Type → Type} [Monad M] (router : Router M)
    (handler : HttpRequest → M HttpResponse) (request : HttpRequest) :
    (∀ index route params, Router.Decided request router.routes (.taken index route params) →
      Router.Decided request (router.any "/*path".toList handler).routes
        (.taken index route params) ∧
      router.dispatch request = route.handler { request with pathParams := params } ∧
      (router.any "/*path".toList handler).dispatch request =
        route.handler { request with pathParams := params }) ∧
    ((∀ index route params, ¬ Router.Decided request router.routes (.taken index route params)) →
      (router.dispatch request = pure ResponseBuilder.methodNotAllowed.empty ∨
        router.dispatch request =
          pure (ResponseBuilder.notFound.text "404 Not Found\n".toList)) ∧
      Router.Decided request (router.any "/*path".toList handler).routes
        (.taken router.routes.length (catchAll handler) (catchAllParams request.path)) ∧
      (router.any "/*path".toList handler).dispatch request =
        handler { request with pathParams := catchAllParams request.path }) := by
  constructor
  · intro index route params taken
    have kept : Router.Decided request (router.any "/*path".toList handler).routes
        (.taken index route params) := taken.append_taken _
    exact ⟨kept, Router.dispatch_of_decides request taken, Router.dispatch_of_decides request kept⟩
  · intro untaken
    obtain ⟨decision, decided⟩ := Router.exists_decides request router
    have performed := Router.dispatch_of_decides request decided
    have last : Router.Decided request (router.any "/*path".toList handler).routes
        (.taken router.routes.length (catchAll handler) (catchAllParams request.path)) :=
      decides_append_last (decided.passes untaken) (matchPath_catchAll request.path)
        (Router.methodOk_any _ rfl request.method)
    refine ⟨?_, last, Router.dispatch_of_decides request last⟩
    cases decided with
    | taken present fitting accepted least =>
        exact absurd (.taken present fitting accepted least) (untaken _ _ _)
    | refused _ _ => exact .inl performed
    | unmatched _ => exact .inr performed

/-- The segments of a written pattern or path that are not empty. -/
def written (text : Str) : List Str := (text.splitOn '/').filter fun segment => segment ≠ []

/-- A written pattern covers a list of segments and captures named values from left to right.

A segment that starts with a colon stands for one segment, a last one that starts with a star for
any number of them, and every other one for itself. -/
inductive Covers : List Str → List Str → List (Str × Str) → Prop where
  | nil : Covers [] [] []
  | literal {text : Str} (plain : text.head? ≠ some ':' ∧ text.head? ≠ some '*')
      {pattern segments : List Str} {captures : List (Str × Str)}
      (rest : Covers pattern segments captures) :
      Covers (text :: pattern) (text :: segments) captures
  | param (name value : Str) {pattern segments : List Str} {captures : List (Str × Str)}
      (rest : Covers pattern segments captures) :
      Covers ((':' :: name) :: pattern) (value :: segments) ((name, value) :: captures)
  | wildcardEmpty (name : Str) : Covers ['*' :: name] [] []
  | wildcard (name : Str) {segments : List Str} (nonempty : segments ≠ []) :
      Covers ['*' :: name] segments [(name, ['/'].intercalate segments)]

/-- Only the last segment of the written pattern may start with a star. -/
def StarLast (pattern : Str) : Prop :=
  ∀ segment ∈ (written pattern).dropLast, segment.head? ≠ some '*'

instance (pattern : Str) : Decidable (StarLast pattern) :=
  inferInstanceAs (Decidable (∀ segment ∈ (written pattern).dropLast, segment.head? ≠ some '*'))

section Written

/-- A segment without a leading colon or star is a literal. -/
theorem parseSegment_plain {text : Str}
    (plain : text.head? ≠ some ':' ∧ text.head? ≠ some '*') : parseSegment text = .literal text := by
  unfold parseSegment
  split
  · exact absurd rfl plain.2
  · exact absurd rfl plain.1
  · rfl

/-- Only a leading star makes a wildcard. -/
theorem isWildcard_parseSegment_iff {segment : Str} :
    isWildcard (parseSegment segment) = true ↔ segment.head? = some '*' := by
  unfold parseSegment
  split
  · exact iff_of_true rfl rfl
  · exact iff_of_false (by simp [isWildcard]) (by simp)
  · rename_i noStar _
    refine iff_of_false (by simp [isWildcard]) ?_
    intro star
    obtain ⟨name, rfl⟩ := List.head?_eq_some_iff.mp star
    exact noStar name rfl

/-- A pattern with its star last compiles to one with its wildcard last. -/
theorem wildcardLast_parsePattern {pattern : Str} (last : StarLast pattern) :
    WildcardLast (parsePattern pattern) := by
  intro part member
  rw [parsePattern, ← List.map_dropLast] at member
  obtain ⟨segment, among, rfl⟩ := List.mem_map.mp member
  rw [← Bool.not_eq_true, isWildcard_parseSegment_iff]
  exact last segment among

/-- The compiled pattern matches what the written one covers. -/
theorem matches_parseSegment_iff {pattern segments : List Str} {captures : List (Str × Str)} :
    Matches (pattern.map parseSegment) segments captures ↔ Covers pattern segments captures := by
  constructor
  · intro matched
    induction pattern generalizing segments captures with
    | nil =>
        cases matched
        exact .nil
    | cons segment pattern ih =>
        rw [List.map_cons] at matched
        unfold parseSegment at matched
        split at matched
        · -- A wildcard matches only at the end, so nothing of the pattern is left.
          cases pattern with
          | cons next rest => cases matched
          | nil =>
              cases matched with
              | wildcardEmpty => exact .wildcardEmpty _
              | wildcard _ nonempty => exact .wildcard _ nonempty
        · cases matched with
          | param _ value rest => exact .param _ value (ih rest)
        · rename_i noStar noColon
          cases matched with
          | literal _ rest =>
              refine .literal ⟨?_, ?_⟩ (ih rest)
              · intro colon
                obtain ⟨name, rfl⟩ := List.head?_eq_some_iff.mp colon
                exact noColon name rfl
              · intro star
                obtain ⟨name, rfl⟩ := List.head?_eq_some_iff.mp star
                exact noStar name rfl
  · intro covered
    induction covered with
    | nil => exact .nil
    | literal plain rest ih =>
        rw [List.map_cons, parseSegment_plain plain]
        exact .literal _ ih
    | param name value rest ih => exact .param name value ih
    | wildcardEmpty name => exact .wildcardEmpty name
    | wildcard name nonempty => exact .wildcard name nonempty

/-- A path matches a compiled pattern when the written one covers its segments. -/
theorem matchPath_parsePattern_iff {pattern path : Str} (last : StarLast pattern)
    {params : PathParams} :
    matchPath (parsePattern pattern) path = some params ↔
      ∃ captures, Covers (written pattern) (written path) captures ∧
        params = PathParams.ofCaptures captures := by
  rw [matchPath_eq_some_iff (wildcardLast_parsePattern last)]
  have same (captures : List (Str × Str)) :
      Matches (parsePattern pattern) (pieces '/' path) captures ↔
        Covers (written pattern) (written path) captures := matches_parseSegment_iff
  simp only [same]

end Written

/-- The public registration functions of the router. -/
inductive Verb where
  | get
  | post
  | put
  | delete
  | any
  deriving DecidableEq, Repr

/-- A verb accepts its own method, and `any` accepts every method. -/
def Verb.Accepts : Verb → Method → Prop
  | .get, method => method = .get
  | .post, method => method = .post
  | .put, method => method = .put
  | .delete, method => method = .delete
  | .any, _ => True

/-- A call of one of the registration functions. -/
structure Registration (M : Type → Type) where
  verb : Verb
  pattern : Str
  handler : HttpRequest → M HttpResponse

namespace Registration
variable {M : Type → Type}

/-- The call registers its route. -/
def register (router : Router M) (registration : Registration M) : Router M :=
  match registration.verb with
  | .get => router.get registration.pattern registration.handler
  | .post => router.post registration.pattern registration.handler
  | .put => router.put registration.pattern registration.handler
  | .delete => router.delete registration.pattern registration.handler
  | .any => router.any registration.pattern registration.handler

/-- The router after all calls. -/
def router (registrations : List (Registration M)) : Router M :=
  registrations.foldl register Router.new

/-- The method that the verb stores. -/
def method (registration : Registration M) : Method :=
  match registration.verb with
  | .get => .get
  | .post => .post
  | .put => .put
  | .delete => .delete
  | .any => .anySentinel

/-- The stored route of a call. -/
def route (registration : Registration M) : RouteEntry M :=
  ⟨registration.method, parsePattern registration.pattern, registration.handler⟩

/-- The written pattern covers the non-empty segments of the path. -/
def Fits (path : Str) (registration : Registration M) (params : PathParams) : Prop :=
  ∃ captures, Covers (written registration.pattern) (written path) captures ∧
    params = PathParams.ofCaptures captures

/-- The verb accepts the method. -/
def Accepts (method : Method) (registration : Registration M) : Prop :=
  registration.verb.Accepts method

theorem routes_register (start : Router M) (registration : Registration M) :
    (register start registration).routes = start.routes ++ [registration.route] := by
  cases same : registration.verb <;>
    simp [register, route, method, same, Router.get, Router.post, Router.put, Router.delete,
      Router.any, Router.add]

theorem routes_foldl (start : Router M) (registrations : List (Registration M)) :
    (registrations.foldl register start).routes =
      start.routes ++ registrations.map Registration.route := by
  induction registrations generalizing start with
  | nil => simp
  | cons registration rest ih =>
      rw [List.foldl_cons, ih, routes_register, List.map_cons, List.append_assoc]
      rfl

/-- A router has the compiled routes of its registrations in their order. -/
theorem router_routes (registrations : List (Registration M)) :
    (router registrations).routes = registrations.map Registration.route :=
  routes_foldl Router.new registrations

/-- The stored method decides as the verb. -/
theorem methodOk_route (registration : Registration M) (method : Method) :
    Router.methodOk registration.route method = true ↔ registration.Accepts method := by
  obtain ⟨verb, pattern, handler⟩ := registration
  cases verb with
  | get => exact Router.methodOk_iff (show Method.asStr .get ≠ ['*'] by decide)
  | post => exact Router.methodOk_iff (show Method.asStr .post ≠ ['*'] by decide)
  | put => exact Router.methodOk_iff (show Method.asStr .put ≠ ['*'] by decide)
  | delete => exact Router.methodOk_iff (show Method.asStr .delete ≠ ['*'] by decide)
  | any => exact iff_of_true (Router.methodOk_any _ rfl method) trivial

/-- A registration fits a path with one list of parameters at most. -/
theorem fits_functional (path : Str) (registration : Registration M) (first second : PathParams)
    (one : registration.Fits path first) (other : registration.Fits path second) :
    first = second := by
  obtain ⟨captures, covered, rfl⟩ := one
  obtain ⟨others, again, rfl⟩ := other
  rw [(matches_parseSegment_iff.mpr covered).unique (matches_parseSegment_iff.mpr again)]

end Registration

/-- Dispatch follows the first registered route that matches the path and accepts the method, and
otherwise tells a refused method from an unknown path. -/
theorem dispatch_refines_rule {M : Type → Type} [Monad M] (registrations : List (Registration M))
    (request : HttpRequest)
    (last : ∀ registration ∈ registrations, StarLast registration.pattern) :
    ∃ decision, Decides (Registration.Fits request.path) (Registration.Accepts request.method)
        registrations decision ∧
      (∀ other, Decides (Registration.Fits request.path) (Registration.Accepts request.method)
        registrations other → other = decision) ∧
      (Registration.router registrations).dispatch request =
        Router.perform Registration.handler request decision := by
  have sameFits (registration : Registration M) (member : registration ∈ registrations)
      (params : PathParams) : Router.Fits request registration.route params ↔
        registration.Fits request.path params :=
    matchPath_parsePattern_iff (last registration member)
  have sameAccepts (registration : Registration M) (_ : registration ∈ registrations) :
      Router.Accepts request registration.route ↔ registration.Accepts request.method :=
    registration.methodOk_route request.method
  obtain ⟨compiled, decided⟩ := Router.exists_decides request (Registration.router registrations)
  have performed := Router.dispatch_of_decides request decided
  rw [Registration.router_routes] at decided
  obtain ⟨decision, holds, rfl⟩ := decided.of_map sameFits sameAccepts
  refine ⟨decision, holds, ?_, ?_⟩
  · intro other holdsOther
    exact holdsOther.unique (Registration.fits_functional request.path) holds
  · rw [performed]
    cases decision <;> rfl

/-- A table in which a parameter, a wildcard and a refused method compete. -/
def sampleRegistrations : List (Registration Id) :=
  [⟨.post, "/files/:name".toList, fun _ => ResponseBuilder.okStatus.empty⟩,
    ⟨.any, "/files/*rest".toList, fun request =>
      ResponseBuilder.okStatus.text ((request.pathParam "rest".toList).getD [])⟩]

def sampleRequest (path : UriPath) : HttpRequest :=
  HttpRequest.fromParts .get (.withoutQuery path) [] []

/-- The written path with empty segments is left to the wildcard, which captures its last segment,
and an unknown path is a 404. -/
theorem dispatch_refines_rule_sample :
    let request := sampleRequest (.rooted "//files//a".toList (.refl true))
    let unknown := sampleRequest (.rooted "/".toList (.refl true))
    (∃ entry params, params "rest".toList = some ['a'] ∧
      Decides (Registration.Fits request.path) (Registration.Accepts request.method)
        sampleRegistrations (.taken 1 entry params)) ∧
    (Registration.router sampleRegistrations).dispatch request =
      ResponseBuilder.okStatus.text ['a'] ∧
    Decides (Registration.Fits unknown.path) (Registration.Accepts unknown.method)
      sampleRegistrations .unmatched ∧
    (Registration.router sampleRegistrations).dispatch unknown =
      ResponseBuilder.notFound.text "404 Not Found\n".toList := by
  intro request unknown
  have last : (sampleRegistrations.all fun registration => StarLast registration.pattern) = true := by
    decide
  have rule (request : HttpRequest) := dispatch_refines_rule sampleRegistrations request
    fun registration member => of_decide_eq_true (List.all_eq_true.mp last registration member)
  have captured : PathParams.ofCaptures [("rest".toList, ['a'])] "rest".toList = some ['a'] := by
    decide
  have taken : Decides (Registration.Fits request.path) (Registration.Accepts request.method)
      sampleRegistrations (.taken 1 ⟨.any, "/files/*rest".toList, fun request =>
        ResponseBuilder.okStatus.text ((request.pathParam "rest".toList).getD [])⟩
        (PathParams.ofCaptures [("rest".toList, ['a'])])) := by
    refine .taken rfl ⟨[("rest".toList, ['a'])], ?_, rfl⟩ trivial ?_
    · have segments : written request.path = ["files".toList, ['a']] := by decide
      have pattern : written "/files/*rest".toList = ["files".toList, '*' :: "rest".toList] := by
        decide
      rw [segments, pattern]
      exact .literal (by decide) (.wildcard "rest".toList (List.cons_ne_nil _ _))
    · intro earlier other value before found _ accepts
      obtain rfl : earlier = 0 := by omega
      obtain rfl := Option.some.inj found
      have posted : Method.get = Method.post := accepts
      exact absurd posted (by decide)
  have unmatched : Decides (Registration.Fits unknown.path) (Registration.Accepts unknown.method)
      sampleRegistrations .unmatched := by
    refine .unmatched ?_
    rintro registration member params ⟨captures, covered, _⟩
    have segments : written unknown.path = [] := by decide
    have first : ∃ text rest, written registration.pattern = text :: rest ∧
        text.head? ≠ some '*' := by
      simp only [sampleRegistrations, List.mem_cons, List.not_mem_nil, or_false] at member
      rcases member with rfl | rfl
      · exact ⟨"files".toList, [":name".toList], by decide, by decide⟩
      · exact ⟨"files".toList, ["*rest".toList], by decide, by decide⟩
    obtain ⟨text, rest, pattern, plain⟩ := first
    rw [segments, pattern] at covered
    cases covered with
    | wildcardEmpty name => exact plain rfl
    | wildcard name nonempty => exact plain rfl
  refine ⟨⟨_, _, captured, taken⟩, ?_, unmatched, ?_⟩
  · obtain ⟨decision, _, only, performed⟩ := rule request
    rw [performed, ← only _ taken]
    simp only [Router.perform, HttpRequest.pathParam, captured, Option.getD_some]
  · obtain ⟨decision, _, only, performed⟩ := rule unknown
    rw [performed, ← only _ unmatched]
    rfl

end HighperfServer
