import HighperfServer.Proof.Server.InnerService

namespace HighperfServer
open Library

namespace InnerService

/-- The frame that an event brings to the request. -/
def Event.frameFor (index : Nat) : Event → Option Bytes
  | .frame target data => if target = index then some data else none
  | _ => none

/-- The body frames of the request in the order of their arrival. -/
def framesOf (index : Nat) (events : List Event) : List Bytes := events.filterMap (Event.frameFor index)

/-- The size of the largest frame. -/
def largest (frames : List Bytes) : Nat := (frames.map List.length).foldr max 0

/-- A request in collection holds all its frames, and a dispatched body is all of them and fits. -/
def StageHolds (config : ServerConfig) (frames : List Bytes) : RequestStage → Prop
  | .collecting received => received = frames.flatten
  | .dispatching body => body = frames.flatten ∧ body.length ≤ config.maxBodyBytes
  | .answered _ | .cancelled => True

/-- Every request holds the frames that the past has brought it. -/
structure Collected (config : ServerConfig) (past : List Event) (service : InnerService) : Prop where
  absent : ∀ index, service.requests.length ≤ index → framesOf index past = []
  holds : ∀ index stage, service.requests[index]? = some stage →
    StageHolds config (framesOf index past) stage

section Collected
variable {config : ServerConfig} {past : List Event} {service next : InnerService}

/-- The frames of a longer run end with those of its last event. -/
theorem framesOf_snoc (index : Nat) (past : List Event) (event : Event) :
    framesOf index (past ++ [event]) = framesOf index past ++ (event.frameFor index).toList := by
  rw [framesOf, List.filterMap_append]
  cases brought : event.frameFor index <;> simp [framesOf, brought]

/-- A step of one request touches the frames of no other. -/
theorem frameFor_of_ne {event : Event} {index other : Nat} (moves : event.request = some index)
    (different : other ≠ index) : event.frameFor other = none := by
  cases event with
  | frame target data =>
      obtain rfl := Option.some.inj moves
      simp [Event.frameFor, different.symm]
  | enter | bodyEnd | bodyError | respond | timeout | cancel => rfl

/-- A new request has no frame yet. -/
theorem Collected.enter (collected : Collected config past service) (headers : HeaderMap) :
    Collected config (past ++ [.enter headers]) (service.enter config headers) := by
  have same (index : Nat) : framesOf index (past ++ [.enter headers]) = framesOf index past := by
    simp [framesOf_snoc, Event.frameFor]
  constructor
  · intro index beyond
    rw [same]
    apply collected.absent
    simp [InnerService.enter] at beyond
    omega
  · intro index stage present
    rw [same]
    simp only [InnerService.enter, List.getElem?_append] at present
    split at present
    · exact collected.holds index stage present
    · rename_i beyond
      rw [collected.absent index (not_lt.mp beyond)]
      have found := List.mem_of_getElem? present
      rw [List.mem_singleton] at found
      subst found
      split
      · trivial
      · rfl

/-- A step of an entered request changes its stage and leaves the others alone. -/
theorem Collected.setStage (collected : Collected config past service) {event : Event} {index : Nat}
    {old stage : RequestStage} (moves : event.request = some index)
    (present : service.requests[index]? = some old)
    (requests : next.requests = service.requests.set index stage)
    (own : StageHolds config (framesOf index past) old →
      StageHolds config (framesOf index (past ++ [event])) stage) :
    Collected config (past ++ [event]) next := by
  have bound := (List.getElem?_eq_some_iff.mp present).1
  have same {other : Nat} (different : other ≠ index) :
      framesOf other (past ++ [event]) = framesOf other past := by
    rw [framesOf_snoc, frameFor_of_ne moves different]
    simp
  constructor
  · intro other beyond
    rw [requests, List.length_set] at beyond
    rw [same (by omega)]
    exact collected.absent other beyond
  · intro other changed found
    rw [requests, List.getElem?_set] at found
    by_cases here : index = other
    · subst here
      simp only [if_true, bound, Option.some.injEq] at found
      subst found
      exact own (collected.holds index old present)
    · rw [if_neg here] at found
      rw [same (Ne.symm here)]
      exact collected.holds other changed found

/-- Every step keeps what each request holds. -/
theorem Collected.step (collected : Collected config past service) {event : Event}
    (enabled : service.step config event = some next) : Collected config (past ++ [event]) next := by
  cases effect_of_step enabled with
  | enter headers => exact collected.enter headers
  | frame data present =>
      apply collected.setStage rfl present rfl
      intro held
      simpa [StageHolds, framesOf_snoc, Event.frameFor] using held
  | bodyEnd present =>
      apply collected.setStage rfl present rfl
      intro held
      split
      · trivial
      · rename_i fits
        exact ⟨by simpa [StageHolds, framesOf_snoc, Event.frameFor] using held, not_lt.mp fits⟩
  | bodyError present => exact collected.setStage rfl present rfl fun _ => trivial
  | respond response present => exact collected.setStage rfl present rfl fun _ => trivial
  | timeout present => exact collected.setStage rfl present rfl fun _ => trivial
  | cancel present inner => exact collected.setStage rfl present rfl fun _ => trivial

/-- Every run collects the frames that it has received. -/
theorem collected_of_run {events : List Event}
    (ran : (machine config).run (machine config).initial events = some service) :
    Collected config events service := by
  have start : Collected config [] (machine config).initial := by
    constructor <;> simp [machine, framesOf]
  exact (machine config).run_history (fun _ _ _ _ collected enabled => collected.step enabled) start ran

/-- A request that takes a frame stays in collection. -/
theorem collecting_of_frame {index : Nat} {event : Event} {data : Bytes}
    (brought : event.frameFor index = some data) (enabled : service.step config event = some next) :
    ∃ received, next.requests[index]? = some (.collecting received) := by
  cases effect_of_step enabled with
  | frame sent present =>
      obtain ⟨rfl, _⟩ := Option.ite_none_right_eq_some.mp brought
      have bound := (List.getElem?_eq_some_iff.mp present).1
      exact ⟨_, List.getElem?_set_self bound⟩
  | enter | bodyEnd | bodyError | respond | timeout | cancel => simp [Event.frameFor] at brought

end Collected

/-- At every point of the run, a request in collection holds at most the limit and one frame, and
the router gets at most the limit. -/
def BodyBounded (config : ServerConfig) (events : List Event) : Prop :=
  ∀ before after, events = before ++ after → ∀ service : InnerService,
    (machine config).run (machine config).initial before = some service →
      (∀ index received, service.requests[index]? = some (.collecting received) →
        received.length ≤ config.maxBodyBytes + largest (framesOf index before)) ∧
      ∀ (index : Nat) (body : Bytes), service.requests[index]? = some (.dispatching body) →
        body.length ≤ config.maxBodyBytes

/-- The frames of each request, but for the largest, add up to at most the limit. -/
def FramesFit (config : ServerConfig) (events : List Event) : Prop :=
  ∀ before after, events = before ++ after →
    (machine config).run (machine config).initial before ≠ none →
      ∀ index, (framesOf index before).flatten.length ≤
        config.maxBodyBytes + largest (framesOf index before)

/-- Bodies are bounded while they are collected exactly when their senders keep to the bound. -/
theorem bodyBounded_iff_framesFit (config : ServerConfig) (events : List Event) :
    BodyBounded config events ↔ FramesFit config events := by
  constructor
  · intro bounded before
    induction before using List.reverseRecOn with
    | nil => simp [framesOf]
    | append_singleton past event ih =>
        intro after split enabled index
        obtain ⟨service, ran⟩ := Option.ne_none_iff_exists'.mp enabled
        have whole := ran
        rw [Machine.run_append] at ran
        obtain ⟨middle, reached, stepped⟩ := Option.bind_eq_some_iff.mp ran
        obtain ⟨next, moved, ended⟩ := Option.bind_eq_some_iff.mp stepped
        obtain rfl := Option.some.inj ended
        cases brought : event.frameFor index with
        | none =>
            rw [framesOf_snoc, brought, Option.toList_none, List.append_nil]
            exact ih (event :: after) (by simpa using split) (by simp [reached]) index
        | some data =>
            obtain ⟨received, present⟩ := collecting_of_frame brought moved
            have all := (collected_of_run whole).holds index _ present
            have bound := (bounded _ after split _ whole).1 index received present
            rwa [all] at bound
  · intro fits before after split service ran
    have collected := collected_of_run ran
    constructor
    · intro index received present
      have all : received = _ := collected.holds index _ present
      rw [all]
      exact fits before after split (by simp [ran]) index
    · intro index body present
      exact (collected.holds index _ present).2

/-- A client that sends single bytes without a length has more than the limit and a frame stored. -/
theorem buffered_past_limit :
    let config := { ServerConfig.defaults with maxBodyBytes := 2 }
    let events := [Event.enter [], .frame 0 [1], .frame 0 [2], .frame 0 [3], .frame 0 [4]]
    ((machine config).run (machine config).initial events).map InnerService.requests =
        some [.collecting [1, 2, 3, 4]] ∧
      largest (framesOf 0 events) = 1 ∧ ¬ BodyBounded config events := by
  intro config events
  have ran : ((machine config).run (machine config).initial events).map InnerService.requests =
      some [.collecting [1, 2, 3, 4]] := by decide
  refine ⟨ran, by decide, fun bounded => ?_⟩
  obtain ⟨service, reached, requests⟩ := Option.map_eq_some_iff.mp ran
  have bound := (bounded events [] (by simp) service reached).1 0 [1, 2, 3, 4] (by simp [requests])
  exact absurd bound (by decide)

end InnerService

end HighperfServer
