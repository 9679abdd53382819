import HighperfServer.Construction.Server.InnerService
import HighperfServer.Library.Sync

namespace HighperfServer
open Library

/-- The request is inside the inner service. -/
def RequestStage.isInside : RequestStage → Bool
  | .collecting _ | .dispatching _ => true
  | .answered _ | .cancelled => false

namespace InnerService

/-- The number of requests inside the inner service. -/
def inside (service : InnerService) : Nat := service.requests.countP RequestStage.isInside

/-- The gauge shows the number of requests inside. -/
def GaugeExact (service : InnerService) : Prop := service.metrics.requestsActive = service.inside

/-- No request is answered before its dispatch and none is dropped. -/
def RunsToEnd (config : ServerConfig) (service : InnerService) : Event → Prop
  | .enter headers => declaresTooLarge config headers = false
  | .bodyEnd index => ∀ received, service.requests[index]? = some (.collecting received) →
      received.length ≤ config.maxBodyBytes
  | .bodyError _ => False
  | .cancel _ => False
  | .frame _ _ | .respond _ _ | .timeout _ => True

/-- A stage change moves the number of requests inside by the two stages. -/
theorem inside_setStage {service : InnerService} {index : Nat} {old : RequestStage}
    (present : service.requests[index]? = some old) (stage : RequestStage) :
    (service.setStage index stage).inside + (if old.isInside then 1 else 0) =
      service.inside + (if stage.isInside then 1 else 0) :=
  countP_set_add RequestStage.isInside present stage

/-- A request that is present and inside is counted. -/
theorem inside_pos {service : InnerService} {index : Nat} {stage : RequestStage}
    (present : service.requests[index]? = some stage) (inner : stage.isInside = true) :
    0 < service.inside :=
  List.countP_pos_iff.mpr ⟨stage, List.mem_of_getElem? present, inner⟩

/-- What one step does to the request it moves. -/
inductive Effect (config : ServerConfig) (service : InnerService) : Event → InnerService → Prop where
  | enter (headers : HeaderMap) : Effect config service (.enter headers) (service.enter config headers)
  | frame {index : Nat} {received : Bytes} (data : Bytes)
      (present : service.requests[index]? = some (.collecting received)) :
      Effect config service (.frame index data)
        (service.setStage index (.collecting (received ++ data)))
  | bodyEnd {index : Nat} {received : Bytes}
      (present : service.requests[index]? = some (.collecting received)) :
      Effect config service (.bodyEnd index)
        (service.setStage index (if received.length > config.maxBodyBytes
          then .answered payloadTooLarge else .dispatching received))
  | bodyError {index : Nat} {received : Bytes}
      (present : service.requests[index]? = some (.collecting received)) :
      Effect config service (.bodyError index)
        (service.setStage index (.answered ResponseBuilder.badRequest.empty))
  | respond {index : Nat} {body : Bytes} (response : HttpResponse)
      (present : service.requests[index]? = some (.dispatching body)) :
      Effect config service (.respond index response)
        { service.setStage index (.answered response) with
          metrics := countResponse service.metrics response }
  | timeout {index : Nat} {body : Bytes}
      (present : service.requests[index]? = some (.dispatching body)) :
      Effect config service (.timeout index)
        { service.setStage index (.answered processingTimeout) with
          metrics := countResponse
            { service.metrics with timedOut := service.metrics.timedOut + 1 } processingTimeout }
  | cancel {index : Nat} {stage : RequestStage} (present : service.requests[index]? = some stage)
      (inner : stage.isInside = true) :
      Effect config service (.cancel index) (service.setStage index .cancelled)

/-- Every step has the effect of its event. -/
theorem effect_of_step {config : ServerConfig} {service next : InnerService} {event : Event}
    (enabled : service.step config event = some next) : service.Effect config event next := by
  cases event with
  | enter headers =>
      obtain rfl := Option.some.inj enabled
      exact .enter headers
  | frame index data =>
      obtain ⟨stage, present, moved⟩ := Option.bind_eq_some_iff.mp enabled
      cases stage with
      | collecting received =>
          obtain rfl := Option.some.inj moved
          exact .frame data present
      | dispatching _ | answered _ | cancelled => exact absurd moved (by simp [frame])
  | bodyEnd index =>
      obtain ⟨stage, present, moved⟩ := Option.bind_eq_some_iff.mp enabled
      cases stage with
      | collecting received =>
          obtain rfl := Option.some.inj moved
          exact .bodyEnd present
      | dispatching _ | answered _ | cancelled => exact absurd moved (by simp [bodyEnd])
  | bodyError index =>
      obtain ⟨stage, present, moved⟩ := Option.bind_eq_some_iff.mp enabled
      cases stage with
      | collecting received =>
          obtain rfl := Option.some.inj moved
          exact .bodyError present
      | dispatching _ | answered _ | cancelled => exact absurd moved (by simp [bodyError])
  | respond index response =>
      obtain ⟨stage, present, moved⟩ := Option.bind_eq_some_iff.mp enabled
      cases stage with
      | dispatching body =>
          obtain rfl := Option.some.inj moved
          exact .respond response present
      | collecting _ | answered _ | cancelled => exact absurd moved (by simp [respond])
  | timeout index =>
      obtain ⟨stage, present, moved⟩ := Option.bind_eq_some_iff.mp enabled
      cases stage with
      | dispatching body =>
          obtain rfl := Option.some.inj moved
          exact .timeout present
      | collecting _ | answered _ | cancelled => exact absurd moved (by simp [timeout])
  | cancel index =>
      obtain ⟨stage, present, moved⟩ := Option.bind_eq_some_iff.mp enabled
      cases stage with
      | collecting _ | dispatching _ =>
          obtain rfl := Option.some.inj moved
          exact .cancel present rfl
      | answered _ | cancelled => exact absurd moved (by simp [cancel])

/-- A step of an entered request replaces the stage of a request inside. -/
theorem Effect.setStage {config : ServerConfig} {service next : InnerService} {event : Event}
    (effect : service.Effect config event next) {index : Nat} (moves : event.request = some index) :
    ∃ old stage, service.requests[index]? = some old ∧ old.isInside = true ∧
      next.requests = service.requests.set index stage := by
  cases effect with
  | enter headers => exact absurd moves (by simp [Event.request])
  | frame _ present | bodyEnd present | bodyError present | respond _ present | timeout present =>
      obtain rfl := Option.some.inj moves
      exact ⟨_, _, present, rfl, rfl⟩
  | cancel present inner =>
      obtain rfl := Option.some.inj moves
      exact ⟨_, _, present, inner, rfl⟩

/-- A counted response lowers the gauge by one. -/
theorem countResponse_requestsActive (metrics : Metrics) (response : HttpResponse) :
    (countResponse metrics response).requestsActive = metrics.requestsActive - 1 := by
  simp only [countResponse]
  split
  · rfl
  · split <;> rfl

section Steps
variable {config : ServerConfig} {service next : InnerService} {index : Nat} {stage : RequestStage}
  (holds : service.GaugeExact)
include holds

/-- An entering request stays inside exactly when its declared length passes. -/
theorem gaugeExact_enter_iff (headers : HeaderMap) :
    declaresTooLarge config headers = false ↔ (service.enter config headers).GaugeExact := by
  unfold GaugeExact inside at holds ⊢
  simp only [enter, List.countP_append, List.countP_singleton]
  cases tooLarge : declaresTooLarge config headers <;> simp [RequestStage.isInside, holds]

/-- A stage change that leaves the counters alone is exact when the request stays inside. -/
theorem gaugeExact_setStage_iff {old : RequestStage} (present : service.requests[index]? = some old)
    (inner : old.isInside = true) :
    stage.isInside = true ↔ (service.setStage index stage).GaugeExact := by
  have moved := inside_setStage present stage
  have positive := inside_pos present inner
  unfold GaugeExact at holds ⊢
  change stage.isInside = true ↔ service.metrics.requestsActive = (service.setStage index stage).inside
  rw [inner] at moved
  cases stays : stage.isInside
  · rw [stays] at moved
    simp only [if_true, Bool.false_eq_true, if_false] at moved
    exact iff_of_false (by simp) (by omega)
  · rw [stays] at moved
    simp only [if_true] at moved
    exact iff_of_true rfl (by omega)

/-- A collected body stays inside exactly when it fits the limit. -/
theorem gaugeExact_bodyEnd_iff {received : Bytes}
    (present : service.requests[index]? = some (.collecting received)) :
    service.RunsToEnd config (.bodyEnd index) ↔
      (service.setStage index (if received.length > config.maxBodyBytes
        then .answered payloadTooLarge else .dispatching received)).GaugeExact := by
  rw [← gaugeExact_setStage_iff holds present rfl]
  simp only [RunsToEnd, present, Option.some.injEq, RequestStage.collecting.injEq]
  by_cases tooLarge : received.length > config.maxBodyBytes
  · rw [if_pos tooLarge]
    refine iff_of_false ?_ (by simp [RequestStage.isInside])
    intro fits
    have bound := fits received rfl
    omega
  · rw [if_neg tooLarge]
    refine iff_of_true ?_ rfl
    intro other same
    subst same
    omega

/-- A request that leaves without a response keeps the gauge up. -/
theorem not_gaugeExact_setStage {old : RequestStage} (present : service.requests[index]? = some old)
    (inner : old.isInside = true) (left : stage.isInside = false) :
    ¬ (service.setStage index stage).GaugeExact := by
  rw [← gaugeExact_setStage_iff holds present inner, left]
  simp

/-- A counted response takes its request out and the gauge down. -/
theorem gaugeExact_complete {metrics : Metrics} {body : Bytes} (response : HttpResponse)
    (present : service.requests[index]? = some (.dispatching body))
    (active : metrics.requestsActive = service.metrics.requestsActive) :
    GaugeExact { service.setStage index (.answered response) with
      metrics := countResponse metrics response } := by
  have moved := inside_setStage present (.answered response)
  have positive := inside_pos present rfl
  unfold GaugeExact at holds ⊢
  simp only [RequestStage.isInside, if_true, Bool.false_eq_true, if_false] at moved
  change (countResponse metrics response).requestsActive =
    (service.setStage index (.answered response)).inside
  rw [countResponse_requestsActive]
  omega

end Steps

/-- The condition decides at every step whether the gauge stays exact. -/
theorem runsToEnd_iff {config : ServerConfig} {service next : InnerService} {event : Event}
    (holds : service.GaugeExact) (enabled : service.step config event = some next) :
    service.RunsToEnd config event ↔ next.GaugeExact := by
  cases effect_of_step enabled with
  | enter headers => exact gaugeExact_enter_iff holds headers
  | frame data present =>
      exact iff_of_true trivial ((gaugeExact_setStage_iff holds present rfl).mp rfl)
  | bodyEnd present => exact gaugeExact_bodyEnd_iff holds present
  | bodyError present => exact iff_of_false id (not_gaugeExact_setStage holds present rfl rfl)
  | respond response present =>
      exact iff_of_true trivial (gaugeExact_complete holds response present rfl)
  | timeout present =>
      exact iff_of_true trivial (gaugeExact_complete holds processingTimeout present rfl)
  | cancel present inner => exact iff_of_false id (not_gaugeExact_setStage holds present inner rfl)

/-- The gauge is exact along a run exactly when every request runs to its end. -/
theorem gauge_exact_iff_runsToEnd (config : ServerConfig) (events : List Event) :
    (machine config).Always GaugeExact (machine config).initial events ↔
      (machine config).Meets (RunsToEnd config) (machine config).initial events := by
  have kept (service : InnerService) (event : Event) (next : InnerService) (_ : True)
      (_ : service.step config event = some next) : True := trivial
  have start : (machine config).initial.GaugeExact := rfl
  exact (machine config).always_iff_meets kept
    (fun _ _ _ _ holds enabled => runsToEnd_iff holds enabled) trivial start events

/-- One request declares a body of five mebibytes. -/
def oversizedRequest : List Event :=
  [.enter [("content-length".toList, Utf8.encode "5242880".toList)]]

/-- A rejected request leaves the gauge at one although nothing is inside. -/
theorem gauge_leaks_on_rejection :
    ((machine ServerConfig.defaults).run (machine ServerConfig.defaults).initial
        oversizedRequest).map
      (fun service => (service.metrics.requestsActive, service.inside,
        service.requests)) = some (1, 0, [.answered payloadTooLarge]) := by
  decide

section Bounds
variable {config : ServerConfig} {service next : InnerService} {bound : Nat}

/-- No counter is above the bound. -/
def Within (bound : Nat) (metrics : Metrics) : Prop :=
  metrics.requestsTotal ≤ bound ∧ metrics.requestsActive ≤ bound ∧ metrics.responses2xx ≤ bound ∧
    metrics.responses4xx ≤ bound ∧ metrics.responses5xx ≤ bound ∧ metrics.rateLimited ≤ bound ∧
    metrics.concurrencyLimited ≤ bound ∧ metrics.timedOut ≤ bound ∧
    metrics.connectionsAccepted ≤ bound ∧ metrics.connectionsRejectedIp ≤ bound

/-- A bound holds with any higher one. -/
theorem Within.succ {metrics : Metrics} (within : Within bound metrics) :
    Within (bound + 1) metrics := by
  unfold Within at within ⊢
  omega

/-- A response adds at most one to a counter that a timeout has left alone. -/
theorem Within.countResponse {metrics : Metrics} (within : Within bound metrics)
    (response : HttpResponse) {timedOut : Nat} (counted : timedOut ≤ bound + 1) :
    Within (bound + 1) (countResponse { metrics with timedOut } response) := by
  unfold Within at within ⊢
  unfold InnerService.countResponse
  dsimp only
  split
  · dsimp only
    omega
  · split <;> (dsimp only; omega)

/-- The counters do not fall behind the requests inside, so the gauge never goes below zero. -/
def Bounded (bound : Nat) (service : InnerService) : Prop :=
  Within bound service.metrics ∧ service.inside ≤ service.metrics.requestsActive

/-- A step raises no counter by more than one. -/
theorem Bounded.step (holds : service.Bounded bound) {event : Event}
    (enabled : service.step config event = some next) : next.Bounded (bound + 1) := by
  obtain ⟨within, covered⟩ := holds
  have stays {index : Nat} {old : RequestStage} (present : service.requests[index]? = some old)
      (inner : old.isInside = true) (stage : RequestStage) :
      (service.setStage index stage).Bounded (bound + 1) := by
    refine ⟨within.succ, ?_⟩
    have moved := inside_setStage present stage
    rw [inner, if_pos rfl] at moved
    change (service.setStage index stage).inside ≤ service.metrics.requestsActive
    split at moved <;> omega
  have leaves {index : Nat} {body : Bytes} (response : HttpResponse)
      (present : service.requests[index]? = some (.dispatching body)) (metrics : Metrics)
      (active : metrics.requestsActive = service.metrics.requestsActive) :
      (service.setStage index (.answered response)).inside ≤
        (InnerService.countResponse metrics response).requestsActive := by
    have moved := inside_setStage present (.answered response)
    simp only [RequestStage.isInside, if_true, Bool.false_eq_true, if_false] at moved
    rw [countResponse_requestsActive, active]
    omega
  cases effect_of_step enabled with
  | enter headers =>
      constructor
      · unfold Within at within ⊢
        simp only [enter]
        omega
      · unfold inside at covered ⊢
        simp only [enter, List.countP_append, List.countP_singleton]
        split <;> simp only [RequestStage.isInside, if_true, Bool.false_eq_true, if_false] <;> omega
  | frame data present | bodyEnd present | bodyError present => exact stays present rfl _
  | cancel present inner => exact stays present inner _
  | respond response present =>
      have counted : service.metrics.timedOut ≤ bound := within.2.2.2.2.2.2.2.1
      exact ⟨within.countResponse response (Nat.le_succ_of_le counted), leaves response present _ rfl⟩
  | timeout present =>
      have counted : service.metrics.timedOut ≤ bound := within.2.2.2.2.2.2.2.1
      exact ⟨within.countResponse processingTimeout (Nat.succ_le_succ counted),
        leaves processingTimeout present _ rfl⟩

/-- No counter passes the number of steps, and the gauge never goes below zero: a run of fewer than
2^64 steps wraps no counter. -/
theorem counters_bounded (config : ServerConfig) {events : List Event} {service : InnerService}
    (ran : (machine config).run (machine config).initial events = some service) :
    service.Bounded events.length := by
  have start : (machine config).initial.Bounded ([] : List Event).length := by
    refine ⟨?_, Nat.le_refl 0⟩
    simp [Within, machine, Metrics.new]
  have preserved (past : List Event) (before : InnerService) (event : Event) (after : InnerService)
      (holds : before.Bounded past.length) (enabled : before.step config event = some after) :
      after.Bounded (past ++ [event]).length := by
    rw [List.length_append]
    exact holds.step enabled
  exact @Machine.run_history _ _ (machine config) (fun past service => service.Bounded past.length)
    preserved [] events _ _ start ran

end Bounds

end InnerService

end HighperfServer
