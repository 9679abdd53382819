import HighperfServer.Construction.Server.Stack
import HighperfServer.Proof.Middleware.RateLimiter
import HighperfServer.Proof.Server.Connections
import HighperfServer.Proof.Server.InnerService

namespace HighperfServer
open Library Middleware

/-- The call holds a permit and an inner future that was not polled yet. -/
def CallStage.isForwarded : CallStage → Bool
  | .forwarded _ => true
  | .refused _ _ | .entered _ | .dropped => false

namespace Server

/-- The number of requests that the inner service was called with and that have not ended. -/
def inside (server : Server) : Nat :=
  server.calls.countP CallStage.isForwarded + server.service.inside

/-- What one step does to the limits, the calls and the inner service. -/
inductive Effect (origin : ℚ) (config : ServerConfig) (server : Server) : Event → Server → Prop where
  | connection {event : AcceptLoop.Event} {acceptLoop : AcceptLoop}
      (moved : server.acceptLoop.step config event = some acceptLoop) :
      Effect origin config server (.connection event) { server with acceptLoop }
  | sweep (now : ℚ) :
      Effect origin config server (.sweep now)
        { server with rateLimiter := server.rateLimiter.evictStale origin now }
  | rateLimited {connection : Nat} {task : ConnectionTask} (headers : HeaderMap) {now : ℚ}
      (present : server.acceptLoop.tasks[connection]? = some task)
      (denied : ¬ server.rateLimiter.HasToken origin task.peer now) :
      Effect origin config server (.call connection headers now)
        { server with
          rateLimiter := (server.rateLimiter.check origin task.peer now).2
          calls := server.calls ++ [.refused .rateLimiter tooManyRequests] }
  | concurrencyLimited {connection : Nat} {task : ConnectionTask} (headers : HeaderMap) {now : ℚ}
      (present : server.acceptLoop.tasks[connection]? = some task)
      (allowed : server.rateLimiter.HasToken origin task.peer now)
      (empty : server.concurrencyLimiter.permits = 0) :
      Effect origin config server (.call connection headers now)
        { server with
          rateLimiter := (server.rateLimiter.check origin task.peer now).2
          calls := server.calls ++ [.refused .concurrencyLimiter serviceUnavailable] }
  | forwarded {connection : Nat} {task : ConnectionTask} (headers : HeaderMap) {now : ℚ}
      (present : server.acceptLoop.tasks[connection]? = some task)
      (allowed : server.rateLimiter.HasToken origin task.peer now)
      (available : 0 < server.concurrencyLimiter.permits) :
      Effect origin config server (.call connection headers now)
        { server with
          rateLimiter := (server.rateLimiter.check origin task.peer now).2
          concurrencyLimiter := ⟨server.concurrencyLimiter.permits - 1⟩
          calls := server.calls ++ [.forwarded headers] }
  | poll {index : Nat} {headers : HeaderMap}
      (present : server.calls[index]? = some (.forwarded headers)) :
      Effect origin config server (.poll index)
        { server.settle server.service.requests.length (server.service.enter config headers) with
          calls := server.calls.set index (.entered server.service.requests.length) }
  | drop {index : Nat} {headers : HeaderMap}
      (present : server.calls[index]? = some (.forwarded headers)) :
      Effect origin config server (.drop index)
        { server with
          concurrencyLimiter := server.concurrencyLimiter.release
          calls := server.calls.set index .dropped }
  | request {event : InnerService.Event} {index : Nat} {service : InnerService}
      (moves : event.request = some index)
      (moved : server.service.step config event = some service) :
      Effect origin config server (.request event) (server.settle index service)

section Steps
variable {origin : ℚ} {config : ServerConfig} {server next : Server}

/-- A call is refused by the rate limiter, refused by the concurrency limiter, or forwarded. -/
theorem effect_of_call {connection : Nat} {headers : HeaderMap} {now : ℚ} {task : ConnectionTask}
    (present : server.acceptLoop.tasks[connection]? = some task)
    (called : server.call origin headers now task = some next) :
    server.Effect origin config (.call connection headers now) next := by
  unfold call at called
  split at called
  · obtain rfl := Option.some.inj called
    have token := check_eq_true_iff origin server.rateLimiter task.peer now
    simp only [RateLimiterService.call, ConcurrencyLimiterService.call]
    cases answer : (server.rateLimiter.check origin task.peer now).1 with
    | false =>
        have denied : ¬ server.rateLimiter.HasToken origin task.peer now := by
          rw [← token, answer]
          exact Bool.false_ne_true
        exact .rateLimited headers present denied
    | true =>
        have allowed := token.mp answer
        cases acquired : server.concurrencyLimiter.tryAcquire with
        | none =>
            have empty : server.concurrencyLimiter.permits = 0 := by
              simpa [Semaphore.tryAcquire] using acquired
            exact .concurrencyLimited headers present allowed empty
        | some permit =>
            obtain ⟨available, rfl⟩ := Semaphore.tryAcquire_eq_some_iff.mp acquired
            exact .forwarded headers present allowed available
  · exact absurd called (by simp)

/-- Every step has the effect of its event. -/
theorem effect_of_step {event : Event} (enabled : server.step origin config event = some next) :
    server.Effect origin config event next := by
  cases event with
  | connection event =>
      obtain ⟨acceptLoop, moved, rfl⟩ := Option.map_eq_some_iff.mp enabled
      exact .connection moved
  | sweep now =>
      obtain rfl := Option.some.inj enabled
      exact .sweep now
  | call connection headers now =>
      obtain ⟨task, present, called⟩ := Option.bind_eq_some_iff.mp enabled
      exact effect_of_call present called
  | poll index =>
      obtain ⟨stage, present, polled⟩ := Option.bind_eq_some_iff.mp enabled
      cases stage with
      | forwarded headers =>
          obtain rfl := Option.some.inj polled
          exact .poll present
      | refused _ _ | entered _ | dropped => exact absurd polled (by simp [poll])
  | drop index =>
      obtain ⟨stage, present, dropped⟩ := Option.bind_eq_some_iff.mp enabled
      cases stage with
      | forwarded headers =>
          obtain rfl := Option.some.inj dropped
          exact .drop present
      | refused _ _ | entered _ | dropped => exact absurd dropped (by simp [drop])
  | request event =>
      obtain ⟨index, moves, moved⟩ := Option.bind_eq_some_iff.mp enabled
      obtain ⟨service, stepped, rfl⟩ := Option.map_eq_some_iff.mp moved
      exact .request moves stepped

@[simp] theorem settle_service (server : Server) (request : Nat) (service : InnerService) :
    (server.settle request service).service = service := rfl

/-- The permit comes back exactly when the request is no longer inside. -/
theorem settle_permits {service : InnerService} {request : Nat} {stage : RequestStage}
    (present : service.requests[request]? = some stage) :
    (server.settle request service).concurrencyLimiter.permits =
      server.concurrencyLimiter.permits + if stage.isInside then 0 else 1 := by
  cases stage <;> simp [settle, present, RequestStage.isInside, Semaphore.release]

/-- The first poll puts a request inside or gives its permit back. -/
theorem enter_permits (config : ServerConfig) (server : Server) (headers : HeaderMap) :
    (server.service.enter config headers).inside +
        (server.settle server.service.requests.length
          (server.service.enter config headers)).concurrencyLimiter.permits =
      server.service.inside + server.concurrencyLimiter.permits + 1 := by
  have entered : (server.service.enter config headers).requests[server.service.requests.length]? =
      some (if InnerService.declaresTooLarge config headers
        then .answered InnerService.payloadTooLarge else .collecting []) :=
    List.getElem?_concat_length
  rw [settle_permits entered]
  simp only [InnerService.inside, InnerService.enter, List.countP_append, List.countP_singleton]
  cases (if InnerService.declaresTooLarge config headers
    then RequestStage.answered InnerService.payloadTooLarge else .collecting []).isInside
  · simp only [Bool.false_eq_true, if_false]
    omega
  · simp only [if_true]
    omega

/-- A step of an entered request keeps it inside or gives its permit back. -/
theorem request_permits {event : InnerService.Event} {index : Nat} {service : InnerService}
    (moves : event.request = some index) (effect : server.service.Effect config event service) :
    service.inside + (server.settle index service).concurrencyLimiter.permits =
      server.service.inside + server.concurrencyLimiter.permits := by
  obtain ⟨old, stage, present, inner, same⟩ := effect.setStage moves
  have bound := (List.getElem?_eq_some_iff.mp present).1
  have reached : service.requests[index]? = some stage := by
    rw [same, List.getElem?_set_self bound]
  have moved := countP_set_add RequestStage.isInside present stage
  rw [if_pos inner] at moved
  rw [settle_permits reached, InnerService.inside, same, InnerService.inside]
  cases stays : stage.isInside
  · rw [stays] at moved
    simp only [Bool.false_eq_true, if_false] at moved ⊢
    omega
  · rw [stays] at moved
    simp only [if_true] at moved ⊢
    omega

/-- Held and available request permits keep their sum. -/
theorem Effect.permits {event : Event} (effect : server.Effect origin config event next) :
    next.inside + next.concurrencyLimiter.permits =
      server.inside + server.concurrencyLimiter.permits := by
  unfold inside
  cases effect with
  | connection | sweep => rfl
  | rateLimited | concurrencyLimited => simp [CallStage.isForwarded]
  | forwarded headers present allowed available =>
      simp only [List.countP_append, List.countP_singleton, CallStage.isForwarded, if_true]
      omega
  | @poll index headers present =>
      have left := countP_set_add CallStage.isForwarded present
        (.entered server.service.requests.length)
      have entered := enter_permits config server headers
      simp only [CallStage.isForwarded, if_true, Bool.false_eq_true, if_false] at left
      dsimp only
      rw [settle_service]
      omega
  | drop present =>
      have left := countP_set_add CallStage.isForwarded present .dropped
      simp only [CallStage.isForwarded, if_true, Bool.false_eq_true, if_false] at left
      simp only [Semaphore.release]
      omega
  | request moves moved =>
      have kept := request_permits moves (InnerService.effect_of_step moved)
      rw [settle_service]
      change server.calls.countP CallStage.isForwarded + _ + _ = _
      omega

/-- The accept loop stays or takes one of its own steps. -/
theorem Effect.acceptLoop {event : Event} (effect : server.Effect origin config event next) :
    next.acceptLoop = server.acceptLoop ∨
      ∃ inner, server.acceptLoop.step config inner = some next.acceptLoop := by
  cases effect with
  | connection moved => exact .inr ⟨_, moved⟩
  | sweep | rateLimited | concurrencyLimited | forwarded | poll | drop | request => exact .inl rfl

/-- The inner service stays or takes one of its own steps. -/
theorem Effect.service {event : Event} (effect : server.Effect origin config event next) :
    next.service = server.service ∨
      ∃ inner, server.service.step config inner = some next.service := by
  cases effect with
  | connection | sweep | rateLimited | concurrencyLimited | forwarded | drop => exact .inl rfl
  | @poll index headers present => exact .inr ⟨.enter headers, rfl⟩
  | request moves moved => exact .inr ⟨_, moved⟩

/-- A stage that is not forwarded is final. -/
theorem Effect.call_final {event : Event} (effect : server.Effect origin config event next)
    {index : Nat} {stage : CallStage} (present : server.calls[index]? = some stage)
    (final : stage.isForwarded = false) : next.calls[index]? = some stage := by
  have bound := (List.getElem?_eq_some_iff.mp present).1
  have kept (changed : Nat) (headers : HeaderMap) (new : CallStage)
      (forwarded : server.calls[changed]? = some (.forwarded headers)) :
      (server.calls.set changed new)[index]? = some stage := by
    have different : changed ≠ index := by
      rintro rfl
      obtain rfl := Option.some.inj (present.symm.trans forwarded)
      exact absurd final (by simp [CallStage.isForwarded])
    rw [List.getElem?_set_ne different]
    exact present
  cases effect with
  | connection | sweep | request => exact present
  | rateLimited | concurrencyLimited | forwarded =>
      exact (List.getElem?_append_left bound).trans present
  | poll forwarded => exact kept _ _ _ forwarded
  | drop forwarded => exact kept _ _ _ forwarded

/-- Every request of the inner service belongs to a call that entered it. -/
def Linked (server : Server) : Prop :=
  ∀ request < server.service.requests.length,
    ∃ index : Nat, server.calls[index]? = some (.entered request)

/-- A step adds a request only with the call that enters it. -/
theorem Effect.linked {event : Event} (effect : server.Effect origin config event next)
    (linked : server.Linked) : next.Linked := by
  intro request inService
  by_cases before : request < server.service.requests.length
  · obtain ⟨index, present⟩ := linked request before
    exact ⟨index, effect.call_final present rfl⟩
  · cases effect with
    | connection | sweep | rateLimited | concurrencyLimited | forwarded | drop =>
        exact absurd inService before
    | @poll index headers present =>
        have last : request = server.service.requests.length := by
          simp only [settle, InnerService.enter, List.length_append, List.length_singleton]
            at inService
          omega
        subst last
        have bound := (List.getElem?_eq_some_iff.mp present).1
        exact ⟨index, List.getElem?_set_self bound⟩
    | request moves moved =>
        obtain ⟨_, _, _, _, same⟩ := (InnerService.effect_of_step moved).setStage moves
        simp only [settle, same, List.length_set] at inService
        exact absurd inService before

end Steps

section Reachable
variable {origin : ℚ} {config : ServerConfig} {server : Server}
  (reachable : (machine origin config).Reachable server)
include reachable

/-- The server runs the accept loop as its own machine describes it. -/
theorem acceptLoop_reachable : (AcceptLoop.machine config).Reachable server.acceptLoop :=
  reachable.project (·.acceptLoop) rfl fun _ _ _ enabled => (effect_of_step enabled).acceptLoop

/-- The server runs the inner service as its own machine describes it. -/
theorem service_reachable : (InnerService.machine config).Reachable server.service :=
  reachable.project (·.service) rfl fun _ _ _ enabled => (effect_of_step enabled).service

/-- Held and available request permits make up the limit. -/
theorem permits_of_reachable :
    server.inside + server.concurrencyLimiter.permits = config.maxConcurrentRequests := by
  have start : (start config).inside + (start config).concurrencyLimiter.permits =
      config.maxConcurrentRequests := Nat.zero_add _
  apply (machine origin config).reachable_invariant start _ reachable
  intro before event next permits enabled
  exact (effect_of_step enabled).permits.trans permits

/-- Every reachable server is linked. -/
theorem linked_of_reachable : server.Linked := by
  have start : (start config).Linked := by
    intro request inService
    exact absurd inService (Nat.not_lt_zero _)
  apply (machine origin config).reachable_invariant start _ reachable
  intro before event next linked enabled
  exact (effect_of_step enabled).linked linked

end Reachable

/-- A refused call stays refused in every later state. -/
theorem refused_forever {origin : ℚ} {config : ServerConfig} {server later : Server}
    {events : List Event} {index : Nat} {layer : Layer} {response : HttpResponse}
    (present : server.calls[index]? = some (.refused layer response))
    (ran : (machine origin config).run server events = some later) :
    later.calls[index]? = some (.refused layer response) := by
  have preserved (state : Server) (event : Event) (next : Server)
      (refused : state.calls[index]? = some (.refused layer response))
      (enabled : (machine origin config).step state event = some next) :
      next.calls[index]? = some (.refused layer response) :=
    (effect_of_step enabled).call_final refused rfl
  exact (machine origin config).run_invariant preserved present ran

/-- What the call of a served connection gets, and what it takes. -/
structure Outcome (origin : ℚ) (config : ServerConfig) (server next : Server) (ip : IpAddr)
    (now : ℚ) (stage : CallStage) : Prop where
  answered : next.calls = server.calls ++ [stage]
  overLimit : stage = .refused .concurrencyLimiter serviceUnavailable ↔
    server.rateLimiter.HasToken origin ip now ∧ server.concurrencyLimiter.permits = 0
  rateLimited : stage = .refused .rateLimiter tooManyRequests ↔
    ¬ server.rateLimiter.HasToken origin ip now
  untouched : stage = .refused .rateLimiter tooManyRequests →
    next.concurrencyLimiter = server.concurrencyLimiter ∧ next.service = server.service ∧
      next.inside = server.inside ∧
      ∀ events later, (machine origin config).run next events = some later →
        later.calls[server.calls.length]? = some stage

/-- Every call has one of the three outcomes. -/
theorem outcome_of_call {origin : ℚ} {config : ServerConfig} {server next : Server}
    {connection : Nat} {headers : HeaderMap} {now : ℚ}
    (effect : server.Effect origin config (.call connection headers now) next) :
    ∃ task stage, server.acceptLoop.tasks[connection]? = some task ∧
      server.Outcome origin config next task.peer now stage := by
  cases effect with
  | @rateLimited _ task _ _ present denied =>
      refine ⟨task, .refused .rateLimiter tooManyRequests, present, rfl, ?_, ?_, ?_⟩
      · simp [denied]
      · simp [denied]
      · intro _
        refine ⟨rfl, rfl, by simp [inside, CallStage.isForwarded], ?_⟩
        intro events later ran
        exact refused_forever List.getElem?_concat_length ran
  | @concurrencyLimited _ task _ _ present allowed empty =>
      refine ⟨task, .refused .concurrencyLimiter serviceUnavailable, present, rfl, ?_, ?_, ?_⟩
      · simp [allowed, empty]
      · simp [allowed]
      · intro same
        exact absurd same (by simp)
  | @forwarded _ task _ _ present allowed available =>
      refine ⟨task, .forwarded headers, present, rfl, ?_, ?_, ?_⟩
      · simp [available.ne']
      · simp [allowed]
      · intro same
        exact absurd same (by simp)

/-- The connection and request caps hold in every state, and every call is answered by them. -/
theorem resource_caps (origin : ℚ) (config : ServerConfig) (server : Server)
    (reachable : (machine origin config).Reachable server) :
    server.acceptLoop.runningTasks + server.acceptLoop.connectionLimit.permits =
        config.maxConnections ∧
      server.acceptLoop.inFlight = server.acceptLoop.openTasks ∧
      server.inside + server.concurrencyLimiter.permits = config.maxConcurrentRequests ∧
      server.Linked ∧
      ∀ connection headers now next,
        (machine origin config).step server (.call connection headers now) = some next →
          ∃ task stage, server.acceptLoop.tasks[connection]? = some task ∧
            server.Outcome origin config next task.peer now stage := by
  obtain ⟨connections, counted⟩ := AcceptLoop.balanced_of_reachable (acceptLoop_reachable reachable)
  have outcome (connection : Nat) (headers : HeaderMap) (now : ℚ) (next : Server)
      (enabled : server.step origin config (.call connection headers now) = some next) :=
    outcome_of_call (effect_of_step enabled)
  exact ⟨connections, counted, permits_of_reachable reachable, linked_of_reachable reachable,
    outcome⟩

/-- One connection, one request and two requests per second. -/
def smallServer : ServerConfig :=
  { ServerConfig.defaults with maxConnections := 1, maxConcurrentRequests := 1, rateLimitRps := 2 }

/-- Of two sockets one is served, and of its two calls one is forwarded. -/
def fullRun : List Event :=
  [.connection (.accept (.v4 1)), .connection (.accept (.v4 2)), .call 0 [] 0, .call 0 [] 0, .poll 0]

/-- Both caps are reached, and the third call within the second gets the 429. -/
theorem resource_caps_full :
    ∃ server next, (machine 0 smallServer).run (machine 0 smallServer).initial fullRun = some server ∧
      (machine 0 smallServer).step server (.call 0 [] 0) = some next ∧
      next.calls = [.entered 0, .refused .concurrencyLimiter serviceUnavailable,
        .refused .rateLimiter tooManyRequests] ∧
      server.acceptLoop.runningTasks + server.acceptLoop.connectionLimit.permits = 1 ∧
      server.inside + server.concurrencyLimiter.permits = 1 ∧
      ∃ task stage, server.acceptLoop.tasks[0]? = some task ∧
        server.Outcome 0 smallServer next task.peer 0 stage := by
  have ran : (((machine 0 smallServer).run (machine 0 smallServer).initial fullRun).bind fun server =>
      ((machine 0 smallServer).step server (.call 0 [] 0)).map fun next => next.calls) =
        some [.entered 0, .refused .concurrencyLimiter serviceUnavailable,
          .refused .rateLimiter tooManyRequests] := by
    decide +kernel
  obtain ⟨server, reached, called⟩ := Option.bind_eq_some_iff.mp ran
  obtain ⟨next, enabled, calls⟩ := Option.map_eq_some_iff.mp called
  obtain ⟨connections, _, requests, _, outcome⟩ :=
    resource_caps 0 smallServer server ⟨fullRun, reached⟩
  exact ⟨server, next, reached, enabled, calls, connections, requests, outcome 0 [] 0 next enabled⟩

end Server

end HighperfServer
