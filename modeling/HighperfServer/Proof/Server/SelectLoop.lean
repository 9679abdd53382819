import HighperfServer.Construction.Server.SelectLoop

namespace HighperfServer
open Library

/-- A request is in flight from its start to its finish. -/
def RequestSpan.InFlightAt (request : RequestSpan) (time : Nat) : Prop :=
  request.start ≤ time ∧ ∀ finish, request.finish = some finish → time ≤ finish

namespace SelectLoop

/-- A keep-alive exit finds no request in flight now or during the preceding timeout. -/
def IdleExit (config : ServerConfig) (loop : SelectLoop) : Prop :=
  loop.exited = some .keepAlive → ∀ request ∈ loop.requests, request.finish ≠ none ∧
    ∀ time, time ≤ loop.clock → loop.clock < time + fromSecs config.keepAliveTimeoutSecs →
      ¬ request.InFlightAt time

/-- The select reaches its timer branch and finds the timer elapsed. -/
def TimerFires (loop : SelectLoop) : Prop :=
  loop.connReady = false ∧ loop.graceful = false ∧ loop.shutdownChanged = false ∧
    loop.kaTimeout ≤ loop.clock

/-- When the timer fires, every request of the connection has finished by the time of its
establishment, give or take the lateness of the poll. -/
def UnusedAtTimer (loop : SelectLoop) (event : Event) : Prop :=
  event = .poll → loop.TimerFires → ∀ request ∈ loop.requests,
    ∃ finish, request.finish = some finish ∧
      finish ≤ loop.established + (loop.clock - loop.kaTimeout)

/-- The timer stays where it was armed, and the spans lie in the past. -/
structure TimerInvariant (config : ServerConfig) (loop : SelectLoop) : Prop where
  armed : loop.kaTimeout = loop.established + fromSecs config.keepAliveTimeoutSecs
  started : ∀ request ∈ loop.requests, request.start ≤ loop.clock
  finished : ∀ request ∈ loop.requests, ∀ finish, request.finish = some finish →
    request.start ≤ finish ∧ finish ≤ loop.clock

/-- A span of the past ended before the window exactly when no instant of the window is in it. -/
theorem idle_window_iff {request : RequestSpan} {clock window : Nat}
    (ordered : ∀ finish, request.finish = some finish → request.start ≤ finish ∧ finish ≤ clock) :
    (request.finish ≠ none ∧
        ∀ time, time ≤ clock → clock < time + window → ¬ request.InFlightAt time) ↔
      ∃ finish, request.finish = some finish ∧ finish + window ≤ clock := by
  constructor
  · intro idle
    obtain ⟨ended, missed⟩ := idle
    obtain ⟨finish, finished⟩ := Option.ne_none_iff_exists'.mp ended
    obtain ⟨later, past⟩ := ordered finish finished
    refine ⟨finish, finished, ?_⟩
    by_contra recent
    have last : request.InFlightAt finish := by
      refine ⟨later, ?_⟩
      intro other same
      rw [finished] at same
      exact Nat.le_of_eq (Option.some.inj same)
    exact missed finish past (by omega) last
  · intro early
    obtain ⟨finish, finished, before⟩ := early
    refine ⟨by simp [finished], ?_⟩
    intro time _ recent inFlight
    have bound := inFlight.2 finish finished
    omega

/-- A poll exits on the timer exactly when the timer fires. -/
theorem poll_exited_keepAlive_iff {loop : SelectLoop} (running : loop.exited = none) :
    loop.poll.exited = some .keepAlive ↔ loop.TimerFires := by
  unfold poll TimerFires
  cases ready : loop.connReady <;> cases graceful : loop.graceful <;>
    cases changed : loop.shutdownChanged <;> by_cases elapsed : loop.kaTimeout ≤ loop.clock <;>
    simp [running, elapsed]

theorem poll_clock (loop : SelectLoop) : loop.poll.clock = loop.clock := by
  unfold poll
  repeat' split
  all_goals rfl

theorem poll_requests (loop : SelectLoop) : loop.poll.requests = loop.requests := by
  unfold poll
  repeat' split
  all_goals rfl

/-- A poll does not arm the timer again. -/
theorem poll_armed (loop : SelectLoop) :
    loop.poll.kaTimeout = loop.kaTimeout ∧ loop.poll.established = loop.established := by
  unfold poll
  repeat' split
  all_goals exact ⟨rfl, rfl⟩

/-- A poll keeps the clock, the timer and the spans. -/
theorem TimerInvariant.poll {config : ServerConfig} {loop : SelectLoop}
    (holds : loop.TimerInvariant config) : loop.poll.TimerInvariant config where
  armed := by
    rw [(poll_armed loop).1, (poll_armed loop).2]
    exact holds.armed
  started := by
    rw [poll_requests, poll_clock]
    exact holds.started
  finished := by
    rw [poll_requests, poll_clock]
    exact holds.finished

/-- The end of a request keeps the timer invariant. -/
theorem TimerInvariant.finish {config : ServerConfig} {loop next : SelectLoop} {index : Nat}
    {request : RequestSpan} (holds : loop.TimerInvariant config)
    (present : loop.requests[index]? = some request)
    (moved : loop.finish index request = some next) : next.TimerInvariant config := by
  have member : request ∈ loop.requests := List.mem_of_getElem? present
  unfold SelectLoop.finish at moved
  split at moved
  · obtain rfl := Option.some.inj moved
    refine ⟨holds.armed, ?_, ?_⟩
    · intro other changed
      rcases List.mem_or_eq_of_mem_set changed with earlier | new
      · exact holds.started other earlier
      · rw [new]
        exact holds.started request member
    · intro other changed finish finished
      rcases List.mem_or_eq_of_mem_set changed with earlier | new
      · exact holds.finished other earlier finish finished
      · rw [new] at finished ⊢
        have same : loop.clock = finish := Option.some.inj finished
        exact ⟨same ▸ holds.started request member, Nat.le_of_eq same.symm⟩
  · exact absurd moved (by simp)

/-- The start of a request keeps the timer invariant. -/
theorem TimerInvariant.requestStart {config : ServerConfig} {loop : SelectLoop}
    (holds : loop.TimerInvariant config) :
    TimerInvariant config { loop with requests := loop.requests ++ [⟨loop.clock, none⟩] } where
  armed := holds.armed
  started := by
    intro request member
    rcases List.mem_append.mp member with earlier | last
    · exact holds.started request earlier
    · obtain rfl := List.mem_singleton.mp last
      exact Nat.le_refl _
  finished := by
    intro request member finish finished
    rcases List.mem_append.mp member with earlier | last
    · exact holds.finished request earlier finish finished
    · rw [List.mem_singleton.mp last] at finished
      exact absurd finished (by simp)

/-- The passing of time keeps the timer invariant. -/
theorem TimerInvariant.elapse {config : ServerConfig} {loop : SelectLoop}
    (holds : loop.TimerInvariant config) (nanos : Nat) :
    TimerInvariant config { loop with clock := loop.clock + nanos } where
  armed := holds.armed
  started := by
    intro request member
    have past := holds.started request member
    simp only
    omega
  finished := by
    intro request member finish finished
    have past := holds.finished request member finish finished
    simp only
    omega

/-- Every event keeps the timer invariant. -/
theorem TimerInvariant.advance {config : ServerConfig} {loop next : SelectLoop} {event : Event}
    (holds : loop.TimerInvariant config) (enabled : loop.advance event = some next) :
    next.TimerInvariant config := by
  cases event with
  | elapse nanos =>
      obtain rfl := Option.some.inj enabled
      exact holds.elapse nanos
  | requestStart =>
      obtain ⟨_, same⟩ := Option.ite_none_left_eq_some.mp enabled
      obtain rfl := Option.some.inj same
      exact holds.requestStart
  | requestFinish index =>
      obtain ⟨_, finishes⟩ := Option.ite_none_left_eq_some.mp enabled
      obtain ⟨request, present, moved⟩ := Option.bind_eq_some_iff.mp finishes
      exact holds.finish present moved
  | connectionEnd =>
      obtain rfl := Option.some.inj enabled
      exact ⟨holds.armed, holds.started, holds.finished⟩
  | shutdownSend value =>
      obtain rfl := Option.some.inj enabled
      exact ⟨holds.armed, holds.started, holds.finished⟩
  | poll =>
      obtain rfl := Option.some.inj enabled
      exact holds.poll

/-- The timer is armed at the start. -/
theorem timerInvariant_start (config : ServerConfig) (established : Nat) :
    (start config established).TimerInvariant config where
  armed := rfl
  started := fun _ member => absurd member List.not_mem_nil
  finished := fun _ member => absurd member List.not_mem_nil

/-- A poll that fires the timer exits idle exactly when the connection was unused. -/
theorem unusedAtTimer_iff {config : ServerConfig} {loop : SelectLoop} (running : loop.exited = none)
    (holds : loop.TimerInvariant config) :
    loop.UnusedAtTimer .poll ↔ loop.poll.IdleExit config := by
  have spans (request : RequestSpan) (member : request ∈ loop.requests) (fires : loop.TimerFires) :
      (∃ finish, request.finish = some finish ∧
          finish ≤ loop.established + (loop.clock - loop.kaTimeout)) ↔
        (request.finish ≠ none ∧ ∀ time, time ≤ loop.clock →
          loop.clock < time + fromSecs config.keepAliveTimeoutSecs →
            ¬ request.InFlightAt time) := by
    rw [idle_window_iff (holds.finished request member)]
    have armed := holds.armed
    have elapsed := fires.2.2.2
    have same (finish : Nat) : finish ≤ loop.established + (loop.clock - loop.kaTimeout) ↔
        finish + fromSecs config.keepAliveTimeoutSecs ≤ loop.clock := by omega
    simp only [same]
  unfold IdleExit
  rw [poll_exited_keepAlive_iff running, poll_requests, poll_clock]
  constructor
  · intro unused fires request member
    exact (spans request member fires).mp (unused rfl fires request member)
  · intro idle _ fires request member
    exact (spans request member fires).mpr (idle fires request member)

/-- Only a poll exits the loop. -/
theorem advance_exited {loop next : SelectLoop} {event : Event} (different : event ≠ .poll)
    (enabled : loop.advance event = some next) : next.exited = loop.exited := by
  cases event with
  | requestStart =>
      obtain ⟨_, same⟩ := Option.ite_none_left_eq_some.mp enabled
      obtain rfl := Option.some.inj same
      rfl
  | requestFinish index =>
      obtain ⟨_, finishes⟩ := Option.ite_none_left_eq_some.mp enabled
      obtain ⟨request, _, moved⟩ := Option.bind_eq_some_iff.mp finishes
      unfold SelectLoop.finish at moved
      split at moved
      · obtain rfl := Option.some.inj moved
        rfl
      · exact absurd moved (by simp)
  | poll => exact absurd rfl different
  | elapse _ | connectionEnd | shutdownSend _ =>
      obtain rfl := Option.some.inj enabled
      rfl

/-- The keep-alive branch closes only idle connections in exactly the runs whose timer finds the
connection unused. -/
theorem keepAlive_idle_iff_unused (config : ServerConfig) (established : Nat)
    (events : List Event) :
    let machine := SelectLoop.machine config established
    machine.Always (IdleExit config) machine.initial events ↔
      machine.Meets UnusedAtTimer machine.initial events := by
  intro machine
  have kept (loop : SelectLoop) (event : Event) (next : SelectLoop)
      (holds : loop.TimerInvariant config) (enabled : loop.step event = some next) :
      next.TimerInvariant config :=
    holds.advance (Option.ite_none_right_eq_some.mp enabled).2
  have decides (loop : SelectLoop) (event : Event) (next : SelectLoop)
      (holds : loop.TimerInvariant config) (enabled : loop.step event = some next) :
      loop.UnusedAtTimer event ↔ next.IdleExit config := by
    obtain ⟨running, advanced⟩ := Option.ite_none_right_eq_some.mp enabled
    by_cases polls : event = .poll
    · subst polls
      obtain rfl := Option.some.inj advanced
      exact unusedAtTimer_iff running holds
    · refine iff_of_true (fun same => absurd same polls) ?_
      intro keepAlive
      rw [advance_exited polls advanced, running] at keepAlive
      exact absurd keepAlive (by simp)
  have idle : machine.initial.IdleExit config := fun keepAlive =>
    absurd keepAlive (by simp [machine, SelectLoop.machine, start])
  exact machine.always_iff_meets kept (fun loop event next holds _ enabled =>
    decides loop event next holds enabled) (timerInvariant_start config established) idle events

/-- A request starts five seconds before the deadline and is still running at it. -/
def busyAtDeadline : List Event :=
  [.elapse (fromSecs 70), .requestStart, .elapse (fromSecs 5), .poll]

/-- The keep-alive timeout closes a connection that is serving a request. -/
theorem keepAlive_closes_busy :
    let machine := SelectLoop.machine ServerConfig.defaults 0
    (machine.run machine.initial busyAtDeadline).map (fun loop => (loop.exited, loop.requests)) =
      some (some .keepAlive, [⟨fromSecs 70, none⟩]) := by
  decide

end SelectLoop

end HighperfServer
