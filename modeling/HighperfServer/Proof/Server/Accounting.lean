import HighperfServer.Construction.Server.Routes
import HighperfServer.Proof.Server.Stack

namespace HighperfServer
open Library Middleware

/-- The request was answered with a status of the range. -/
def RequestStage.answeredWithin (first last : Nat) : RequestStage → Bool
  | .answered response => decide (first ≤ response.status.asU16 ∧ response.status.asU16 ≤ last)
  | .collecting _ | .dispatching _ | .cancelled => false

/-- The call was answered by the layer with the status. -/
def CallStage.answeredBy (layer : Layer) (code : Nat) : CallStage → Bool
  | .refused other response => decide (other = layer ∧ response.status.asU16 = code)
  | .forwarded _ | .entered _ | .dropped => false

/-- A request inside is not answered yet. -/
theorem RequestStage.answeredWithin_of_isInside {stage : RequestStage} (first last : Nat)
    (inner : stage.isInside = true) : stage.answeredWithin first last = false := by
  cases stage with
  | collecting _ | dispatching _ => rfl
  | answered _ | cancelled => exact absurd inner (by simp [isInside])

/-- The class counters did not move. -/
def Metrics.SameClasses (first second : Metrics) : Prop :=
  first.responses2xx = second.responses2xx ∧ first.responses4xx = second.responses4xx ∧
    first.responses5xx = second.responses5xx

namespace InnerService

/-- The number of responses of the inner service with a status of the range. -/
def produced (service : InnerService) (first last : Nat) : Nat :=
  service.requests.countP (·.answeredWithin first last)

/-- The class counters show the produced responses. -/
def ClassesExact (service : InnerService) : Prop :=
  service.metrics.responses2xx = service.produced 200 299 ∧
    service.metrics.responses4xx = service.produced 400 499 ∧
    service.metrics.responses5xx = service.produced 500 599

/-- The status is in one of the counted classes. -/
def HasClass (response : HttpResponse) : Prop :=
  (200 ≤ response.status.asU16 ∧ response.status.asU16 ≤ 299) ∨
    (400 ≤ response.status.asU16 ∧ response.status.asU16 ≤ 599)

instance (response : HttpResponse) : Decidable (HasClass response) :=
  inferInstanceAs (Decidable (_ ∨ _))

/-- No request is answered before its dispatch, and a handler answers with a counted class. -/
def AnswersCounted (config : ServerConfig) (service : InnerService) : Event → Prop
  | .enter headers => declaresTooLarge config headers = false
  | .bodyEnd index => ∀ received, service.requests[index]? = some (.collecting received) →
      received.length ≤ config.maxBodyBytes
  | .bodyError _ => False
  | .respond _ response => HasClass response
  | .frame _ _ | .timeout _ | .cancel _ => True

/-- The response goes into the class that its status number is compared with. -/
theorem countResponse_classes (metrics : Metrics) (response : HttpResponse) :
    (countResponse metrics response).responses2xx =
        metrics.responses2xx + (if response.status.asU16 < 300 then 1 else 0) ∧
      (countResponse metrics response).responses4xx = metrics.responses4xx +
        (if 300 ≤ response.status.asU16 ∧ response.status.asU16 < 500 then 1 else 0) ∧
      (countResponse metrics response).responses5xx =
        metrics.responses5xx + (if 500 ≤ response.status.asU16 then 1 else 0) := by
  unfold countResponse
  dsimp only
  split
  · rename_i low
    simp [show ¬ 300 ≤ response.status.asU16 by omega, show ¬ 500 ≤ response.status.asU16 by omega]
  · rename_i above
    split
    · rename_i middle
      simp [middle, Nat.not_lt.mp above]
    · rename_i high
      simp [Nat.not_lt.mp high, show ¬ response.status.asU16 < 500 from high]

/-- The inner service never touches the counters of the two limiters. -/
theorem countResponse_limits (metrics : Metrics) (response : HttpResponse) :
    (countResponse metrics response).rateLimited = metrics.rateLimited ∧
      (countResponse metrics response).concurrencyLimited = metrics.concurrencyLimited := by
  unfold countResponse
  dsimp only
  split
  · exact ⟨rfl, rfl⟩
  · split <;> exact ⟨rfl, rfl⟩

/-- A request leaves the counters of the limits alone. -/
theorem Effect.limits {config : ServerConfig} {service next : InnerService} {event : Event}
    (effect : service.Effect config event next) :
    next.metrics.rateLimited = service.metrics.rateLimited ∧
      next.metrics.concurrencyLimited = service.metrics.concurrencyLimited := by
  cases effect with
  | enter | frame | bodyEnd | bodyError | cancel => exact ⟨rfl, rfl⟩
  | respond | timeout => exact countResponse_limits _ _

/-- A refused length is a client error. -/
theorem payloadTooLarge_clientError :
    400 ≤ payloadTooLarge.status.asU16 ∧ payloadTooLarge.status.asU16 ≤ 499 := by
  decide

/-- The next state has one more stage to count the responses of. -/
def Adds (service next : InnerService) (stage : RequestStage) : Prop :=
  ∀ first last, next.produced first last =
    service.produced first last + if stage.answeredWithin first last then 1 else 0

/-- An entering request adds its first stage. -/
theorem adds_enter (config : ServerConfig) (service : InnerService) (headers : HeaderMap) :
    service.Adds (service.enter config headers)
      (if declaresTooLarge config headers then .answered payloadTooLarge else .collecting []) := by
  intro first last
  unfold produced
  rw [enter, List.countP_append, List.countP_singleton]

section Steps
variable {config : ServerConfig} {service next : InnerService} {stage : RequestStage}
  {response : HttpResponse}

/-- A request that moves on adds its new stage. -/
theorem adds_of_set {index : Nat} {old : RequestStage}
    (present : service.requests[index]? = some old) (inner : old.isInside = true)
    (same : next.requests = service.requests.set index stage) : service.Adds next stage := by
  intro first last
  have moved := countP_set_add (·.answeredWithin first last) present stage
  rw [RequestStage.answeredWithin_of_isInside first last inner] at moved
  unfold produced
  rw [same]
  exact moved

/-- A stage without a response leaves exact counters exact. -/
theorem Adds.silent (adds : service.Adds next stage) (holds : service.ClassesExact)
    (same : next.metrics.SameClasses service.metrics)
    (silent : ∀ first last, stage.answeredWithin first last = false) : next.ClassesExact := by
  have kept (first last : Nat) : next.produced first last = service.produced first last := by
    rw [adds, silent, if_neg Bool.false_ne_true, Nat.add_zero]
  obtain ⟨success, clientError, serverError⟩ := holds
  obtain ⟨same2, same4, same5⟩ := same
  unfold ClassesExact
  rw [same2, same4, same5, kept, kept, kept]
  exact ⟨success, clientError, serverError⟩

/-- An uncounted response in the 400s is missing from the counters. -/
theorem Adds.uncounted (adds : service.Adds next (.answered response)) (holds : service.ClassesExact)
    (same : next.metrics.SameClasses service.metrics)
    (clientError : 400 ≤ response.status.asU16 ∧ response.status.asU16 ≤ 499) :
    ¬ next.ClassesExact := by
  rintro ⟨_, shown, _⟩
  have one : RequestStage.answeredWithin 400 499 (.answered response) = true :=
    decide_eq_true clientError
  rw [same.2.1, adds, one, if_pos rfl, holds.2.1] at shown
  omega

/-- A completed response is counted in its class exactly when it has one. -/
theorem classesExact_complete_iff {index : Nat} {body : Bytes} {metrics : Metrics}
    (holds : service.ClassesExact) (present : service.requests[index]? = some (.dispatching body))
    (same : metrics.SameClasses service.metrics) (response : HttpResponse) :
    HasClass response ↔
      ClassesExact { service.setStage index (.answered response) with
        metrics := countResponse metrics response } := by
  have adds : service.Adds { service.setStage index (.answered response) with
      metrics := countResponse metrics response } (.answered response) :=
    adds_of_set present rfl rfl
  obtain ⟨success, clientError, serverError⟩ := holds
  obtain ⟨same2, same4, same5⟩ := same
  obtain ⟨counted2, counted4, counted5⟩ := countResponse_classes metrics response
  unfold ClassesExact
  rw [adds, adds, adds]
  dsimp only
  rw [counted2, counted4, counted5, same2, same4, same5, success, clientError, serverError]
  simp only [RequestStage.answeredWithin, decide_eq_true_eq, Nat.add_left_cancel_iff,
    indicator_eq_iff, HasClass]
  omega

/-- An entering request stays without a response exactly when its declared length passes. -/
theorem classesExact_enter_iff (holds : service.ClassesExact) (headers : HeaderMap) :
    service.AnswersCounted config (.enter headers) ↔
      (service.enter config headers).ClassesExact := by
  have adds := adds_enter config service headers
  change declaresTooLarge config headers = false ↔ _
  cases tooLarge : declaresTooLarge config headers with
  | false =>
      rw [tooLarge, if_neg Bool.false_ne_true] at adds
      exact iff_of_true rfl (adds.silent holds ⟨rfl, rfl, rfl⟩ (fun _ _ => rfl))
  | true =>
      rw [tooLarge, if_pos rfl] at adds
      exact iff_of_false (by simp)
        (adds.uncounted holds ⟨rfl, rfl, rfl⟩ payloadTooLarge_clientError)

/-- A collected body stays without a response exactly when it fits the limit. -/
theorem classesExact_bodyEnd_iff {index : Nat} {received : Bytes} (holds : service.ClassesExact)
    (present : service.requests[index]? = some (.collecting received)) :
    service.AnswersCounted config (.bodyEnd index) ↔
      (service.setStage index (if received.length > config.maxBodyBytes
        then .answered payloadTooLarge else .dispatching received)).ClassesExact := by
  have fits : service.AnswersCounted config (.bodyEnd index) ↔
      received.length ≤ config.maxBodyBytes := by
    simp [AnswersCounted, present]
  rw [fits]
  by_cases tooLarge : received.length > config.maxBodyBytes
  · rw [if_pos tooLarge]
    exact iff_of_false (Nat.not_le.mpr tooLarge)
      ((adds_of_set present rfl rfl).uncounted holds ⟨rfl, rfl, rfl⟩ payloadTooLarge_clientError)
  · rw [if_neg tooLarge]
    exact iff_of_true (Nat.not_lt.mp tooLarge)
      ((adds_of_set present rfl rfl).silent holds ⟨rfl, rfl, rfl⟩ (fun _ _ => rfl))

/-- The condition decides at every step whether the class counters stay exact. -/
theorem answersCounted_iff {event : Event} (holds : service.ClassesExact)
    (effect : service.Effect config event next) :
    service.AnswersCounted config event ↔ next.ClassesExact := by
  cases effect with
  | enter headers => exact classesExact_enter_iff holds headers
  | frame data present =>
      exact iff_of_true trivial
        ((adds_of_set present rfl rfl).silent holds ⟨rfl, rfl, rfl⟩ (fun _ _ => rfl))
  | bodyEnd present => exact classesExact_bodyEnd_iff holds present
  | bodyError present =>
      exact iff_of_false id
        ((adds_of_set present rfl rfl).uncounted holds ⟨rfl, rfl, rfl⟩ (by decide))
  | respond response present =>
      exact classesExact_complete_iff holds present ⟨rfl, rfl, rfl⟩ response
  | timeout present =>
      have counted := classesExact_complete_iff holds present ⟨rfl, rfl, rfl⟩ processingTimeout
      exact iff_of_true trivial (counted.mp (by decide))
  | cancel present inner =>
      exact iff_of_true trivial
        ((adds_of_set present inner rfl).silent holds ⟨rfl, rfl, rfl⟩ (fun _ _ => rfl))

end Steps

end InnerService

namespace Server

/-- The number of calls that the layer answered with the status. -/
def refusals (server : Server) (layer : Layer) (code : Nat) : Nat :=
  server.calls.countP (·.answeredBy layer code)

/-- The counters show every response of the inner service and every refusal. -/
def Accounted (server : Server) : Prop :=
  server.service.ClassesExact ∧
    server.service.metrics.rateLimited = server.refusals .rateLimiter 429 ∧
    server.service.metrics.concurrencyLimited = server.refusals .concurrencyLimiter 503

/-- Every call finds a token and a permit, and every response has a counter. -/
def Accountable (origin : ℚ) (config : ServerConfig) (server : Server) : Event → Prop
  | .call connection _ now => ∀ task, server.acceptLoop.tasks[connection]? = some task →
      server.rateLimiter.HasToken origin task.peer now ∧ 0 < server.concurrencyLimiter.permits
  | .poll index => ∀ headers, server.calls[index]? = some (.forwarded headers) →
      server.service.AnswersCounted config (.enter headers)
  | .request event => server.service.AnswersCounted config event
  | .connection _ | .sweep _ | .drop _ => True

section Steps
variable {origin : ℚ} {config : ServerConfig} {server next : Server}

/-- A new call adds its own refusal, if it is one. -/
theorem refusals_of_append {stage : CallStage} (same : next.calls = server.calls ++ [stage])
    (layer : Layer) (code : Nat) :
    next.refusals layer code =
      server.refusals layer code + if stage.answeredBy layer code then 1 else 0 := by
  unfold refusals
  rw [same, List.countP_append, List.countP_singleton]

/-- A forwarded call is no refusal. -/
theorem refusals_of_forwarded {headers : HeaderMap}
    (same : next.calls = server.calls ++ [.forwarded headers]) (layer : Layer) (code : Nat) :
    next.refusals layer code = server.refusals layer code := by
  rw [refusals_of_append same]
  rfl

/-- A forwarded call that is polled or dropped is no refusal. -/
theorem refusals_of_set {index : Nat} {headers : HeaderMap} {stage : CallStage}
    (present : server.calls[index]? = some (.forwarded headers))
    (silent : ∀ layer code, stage.answeredBy layer code = false)
    (same : next.calls = server.calls.set index stage) (layer : Layer) (code : Nat) :
    next.refusals layer code = server.refusals layer code := by
  have moved := countP_set_add (·.answeredBy layer code) present stage
  rw [silent] at moved
  unfold refusals
  rw [same]
  exact moved

/-- A step that changes neither the inner service nor the refusals keeps exact counters exact. -/
theorem Accounted.kept (holds : server.Accounted) (service : next.service = server.service)
    (refusals : ∀ layer code, next.refusals layer code = server.refusals layer code) :
    next.Accounted := by
  unfold Accounted
  rw [service, refusals, refusals]
  exact holds

/-- A step that refuses no call is exact when the inner service stays exact. -/
theorem Accounted.service_iff (holds : server.Accounted) {event : InnerService.Event}
    (effect : server.service.Effect config event next.service)
    (refusals : ∀ layer code, next.refusals layer code = server.refusals layer code) :
    server.service.AnswersCounted config event ↔ next.Accounted := by
  obtain ⟨classes, rateLimited, concurrencyLimited⟩ := holds
  obtain ⟨sameRate, sameConcurrency⟩ := effect.limits
  unfold Accounted
  rw [InnerService.answersCounted_iff classes effect, sameRate, sameConcurrency, refusals, refusals]
  constructor
  · intro counted
    exact ⟨counted, rateLimited, concurrencyLimited⟩
  · exact And.left

/-- A refusal is missing from the counters. -/
theorem Accounted.refused (holds : server.Accounted) (service : next.service = server.service)
    (refused : next.calls = server.calls ++ [.refused .rateLimiter tooManyRequests] ∨
      next.calls = server.calls ++ [.refused .concurrencyLimiter serviceUnavailable]) :
    ¬ next.Accounted := by
  rintro ⟨_, rateLimited, concurrencyLimited⟩
  obtain ⟨_, rateBefore, concurrencyBefore⟩ := holds
  rcases refused with same | same
  · have one : CallStage.answeredBy .rateLimiter 429 (.refused .rateLimiter tooManyRequests) = true :=
      by decide
    rw [service, refusals_of_append same, one, if_pos rfl, rateBefore] at rateLimited
    omega
  · have one : CallStage.answeredBy .concurrencyLimiter 503
        (.refused .concurrencyLimiter serviceUnavailable) = true := by decide
    rw [service, refusals_of_append same, one, if_pos rfl, concurrencyBefore] at concurrencyLimited
    omega

/-- The condition decides at every step whether the counters stay exact. -/
theorem accountable_iff {event : Event} (holds : server.Accounted)
    (effect : server.Effect origin config event next) :
    server.Accountable origin config event ↔ next.Accounted := by
  cases effect with
  | connection | sweep => exact iff_of_true trivial holds
  | @rateLimited connection task headers now present denied =>
      apply iff_of_false
      · intro admitted
        exact denied (admitted task present).1
      · exact holds.refused rfl (.inl rfl)
  | @concurrencyLimited connection task headers now present allowed empty =>
      apply iff_of_false
      · intro admitted
        have available := (admitted task present).2
        omega
      · exact holds.refused rfl (.inr rfl)
  | @forwarded connection task headers now present allowed available =>
      apply iff_of_true
      · intro other same
        obtain rfl := Option.some.inj (present.symm.trans same)
        exact ⟨allowed, available⟩
      · exact holds.kept rfl (refusals_of_forwarded rfl)
  | @poll index headers present =>
      have entered : server.Accountable origin config (.poll index) ↔
          server.service.AnswersCounted config (.enter headers) := by
        simp [Accountable, present]
      rw [entered]
      exact holds.service_iff (.enter headers) (refusals_of_set present (fun _ _ => rfl) rfl)
  | drop present =>
      exact iff_of_true trivial (holds.kept rfl (refusals_of_set present (fun _ _ => rfl) rfl))
  | request moves moved =>
      exact holds.service_iff (InnerService.effect_of_step moved) (fun _ _ => rfl)

end Steps

/-- The counters are exact along a run exactly when every call and every response is counted. -/
theorem accounted_iff_accountable (origin : ℚ) (config : ServerConfig) (events : List Event) :
    (machine origin config).Always Accounted (machine origin config).initial events ↔
      (machine origin config).Meets (Accountable origin config) (machine origin config).initial
        events := by
  have kept (server : Server) (event : Event) (next : Server) (_ : True)
      (_ : server.step origin config event = some next) : True := trivial
  have start : (machine origin config).initial.Accounted := ⟨⟨rfl, rfl, rfl⟩, rfl, rfl⟩
  exact (machine origin config).always_iff_meets kept
    (fun _ _ _ _ holds enabled => accountable_iff holds (effect_of_step enabled)) trivial start events

/-- The start page redirects one client, whose third call within the second is refused. -/
def redirectedRun : List Event :=
  [.connection (.accept (.v4 1)), .call 0 [] 0, .poll 0, .request (.bodyEnd 0),
    .request (.respond 0 (Routes.redirect "/ui/index")), .call 0 [] 0, .call 0 [] 0]

/-- The redirection is counted in the 400s and the 429 in no counter. -/
theorem counters_miss_redirect_and_refusal :
    ((machine 0 smallServer).run (machine 0 smallServer).initial redirectedRun).map (fun server =>
        (server.service.metrics.responses4xx, server.service.produced 400 499,
          server.service.produced 302 302, server.service.metrics.rateLimited,
          server.refusals .rateLimiter 429)) = some (1, 0, 1, 0, 1) := by
  decide +kernel

end Server

end HighperfServer
