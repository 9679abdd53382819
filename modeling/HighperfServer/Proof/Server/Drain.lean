import HighperfServer.Proof.Server.Lifecycle

namespace HighperfServer
open Library

/-- The steps of the drain until it waits or returns. -/
def LoopPhase.remaining : LoopPhase → Nat
  | .stopped => 5
  | .settling => 4
  | .signalling => 3
  | .loading => 2
  | .rechecking => 1
  | _ => 0

namespace AcceptLoop

/-- The drain goes through its phases in order. -/
inductive DrainStep (loop next : AcceptLoop) : Prop where
  | stopped (before : loop.phase = .stopped) (after : next.phase = .settling ∨ next.phase = .signalling)
  | settling (before : loop.phase = .settling) (after : next.phase = .signalling)
  | signalling (before : loop.phase = .signalling) (after : next.phase = .loading)
  | loading (before : loop.phase = .loading)
      (after : next.phase = .rechecking ∨ next.phase = .returned .noneInFlight)
  | rechecking (before : loop.phase = .rechecking)
      (after : next.phase = .waiting ∨ next.phase = .returned .noneInFlight)
  | waiting (before : loop.phase = .waiting)
      (after : next.phase = .waiting ∨ next.phase = .returned .drained)

/-- Every advance of the drain is one of its steps. -/
theorem drainStep_of_drain {loop next : AcceptLoop} (moved : loop.drain = some next) :
    loop.DrainStep next := by
  unfold drain at moved
  cases phase : loop.phase with
  | accepting | backingOff | returned outcome =>
      rw [phase] at moved
      exact absurd moved (by simp)
  | settling =>
      rw [phase] at moved
      obtain rfl := Option.some.inj moved
      exact .settling phase rfl
  | signalling =>
      rw [phase] at moved
      obtain rfl := Option.some.inj moved
      exact .signalling phase rfl
  | stopped =>
      rw [phase] at moved
      obtain rfl := Option.some.inj moved
      exact .stopped phase (ite_eq_or_eq _ _ _)
  | loading =>
      rw [phase] at moved
      obtain rfl := Option.some.inj moved
      exact .loading phase (ite_eq_or_eq _ _ _)
  | rechecking =>
      rw [phase] at moved
      obtain rfl := Option.some.inj moved
      exact .rechecking phase (ite_eq_or_eq _ _ _)
  | waiting =>
      rw [phase] at moved
      obtain rfl := Option.some.inj moved
      exact .waiting phase (ite_eq_or_eq _ _ _).symm

/-- The drain reaches its wait or its end. -/
theorem DrainStep.remaining_lt {loop next : AcceptLoop} (order : loop.DrainStep next)
    (before : loop.phase.remaining ≠ 0) : next.phase.remaining < loop.phase.remaining := by
  cases order with
  | stopped before after | loading before after | rechecking before after =>
      rcases after with after | after <;> simp [before, after, LoopPhase.remaining]
  | settling before after | signalling before after => simp [before, after, LoopPhase.remaining]
  | waiting phase after => exact absurd rfl (phase ▸ before)

/-- Before its wait the drain can go on. -/
theorem drain_enabled {loop : AcceptLoop} (before : loop.phase.remaining ≠ 0) :
    ∃ next, loop.drain = some next := by
  unfold drain
  cases phase : loop.phase with
  | accepting | backingOff | returned outcome | waiting =>
      exact absurd rfl (phase ▸ before)
  | stopped | settling | signalling | loading | rechecking => exact ⟨_, rfl⟩

/-- A drain that goes on does not accept again. -/
theorem DrainStep.stops {loop next : AcceptLoop} (order : loop.DrainStep next) :
    next.phase.accepts = false := by
  cases order with
  | stopped before after | loading before after | rechecking before after | waiting before after =>
      rcases after with after | after <;> simp [after, LoopPhase.accepts]
  | settling before after | signalling before after => simp [after, LoopPhase.accepts]

/-- A step that neither drains nor belongs to the select of the accept loop keeps the phase. -/
theorem phase_of_task {config : ServerConfig} {loop next : AcceptLoop} {event : Event} {index : Nat}
    (own : event.task = some index) (enabled : loop.step config event = some next) :
    next.phase = loop.phase := by
  obtain ⟨_, _, _, _, _, _, rfl⟩ := task_frame own enabled
  rfl

end AcceptLoop

namespace Lifecycle
variable {settings : Settings} {server next : Lifecycle}

/-- The clock, the timer and the recorded instants stay. -/
structure Still (server next : Lifecycle) : Prop where
  clock : next.clock = server.clock
  timer : next.timer = server.timer
  signalledAt : next.signalledAt = server.signalledAt
  sentAt : next.sentAt = server.sentAt

/-- What one step does to the clock, the timer, the recorded instants and the phase. -/
inductive Timing (settings : Settings) (server : Lifecycle) (event : Event) (next : Lifecycle) : Prop where
  | other (still : server.Still next) (phase : next.loop.phase = server.loop.phase)
      (polling : next.polling = true → server.polling = true)
  | elapse (nanos : Nat) (same : event = .elapse nanos)
      (after : next = { server with clock := server.clock + nanos })
  | signal (unsignalled : server.signalledAt = none)
      (after : next = { server with signalledAt := some server.clock })
  | look (accepting : server.loop.phase = .accepting) (unsignalled : server.signalledAt = none)
      (after : next = { server with polling := true })
  | acceptError (before : server.loop.phase = .accepting) (polling : server.polling = true)
      (after : next.loop.phase = .backingOff) (unpolled : next.polling = false)
      (clock : next.clock = server.clock) (timer : next.timer = server.clock + fromMillis 10)
      (signalledAt : next.signalledAt = server.signalledAt)
  | wake (still : server.Still next) (before : server.loop.phase = .backingOff)
      (after : next.loop.phase = .accepting) (polling : next.polling = server.polling)
  | shutdown (still : server.Still next) (before : server.loop.phase = .accepting)
      (after : next.loop.phase = .stopped) (signalled : server.signalledAt ≠ none)
  | drain (ready : server.loop.phase = .settling → server.timer ≤ server.clock)
      (moved : server.loop.drain = some next.loop)
      (after : next = { server.drain settings with loop := next.loop })
  | timedOut (still : server.Still next) (before : server.loop.phase = .waiting)
      (after : next.loop.phase = .returned .timedOut) (elapsed : server.timer ≤ server.clock)

theorem still_close (server : Lifecycle) (index : Nat) (loop : AcceptLoop) :
    server.Still { server.close index with loop } ∧ (server.close index).polling = server.polling := by
  unfold close
  split <;> exact ⟨⟨rfl, rfl, rfl, rfl⟩, rfl⟩

theorem still_abandon (server : Lifecycle) (index : Nat) (loop : AcceptLoop) :
    server.Still { server.abandon index with loop } ∧
      (server.abandon index).polling = server.polling := by
  unfold abandon
  split <;> exact ⟨⟨rfl, rfl, rfl, rfl⟩, rfl⟩

/-- An accepted socket leaves the clock, the timer and the phase alone. -/
theorem timing_accept {peer : IpAddr} {loop : AcceptLoop}
    (enabled : server.loop.step settings.toServerConfig (.accept peer) = some loop) :
    Timing settings server (.loop (.accept peer))
      { server.beside settings loop (.accept peer) with loop } := by
  obtain ⟨_, same⟩ := Option.ite_none_right_eq_some.mp enabled
  obtain rfl := Option.some.inj same
  obtain ⟨phase, _⟩ := AcceptLoop.acceptSocket_frame settings.toServerConfig server.loop peer
  unfold beside
  dsimp only
  split
  · exact .other ⟨rfl, rfl, rfl, rfl⟩ phase (fun polling => absurd polling (by simp [subscribe]))
  · exact .other ⟨rfl, rfl, rfl, rfl⟩ phase (fun polling => absurd polling (by simp))

/-- A step of the accept loop sets its timer as the phase wants it. -/
theorem timing_loopStep {event : AcceptLoop.Event} (moved : server.loopStep settings event = some next) :
    Timing settings server (.loop event) next := by
  obtain ⟨ready, stepped⟩ := Option.ite_none_right_eq_some.mp moved
  obtain ⟨loop, enabled, rfl⟩ := Option.map_eq_some_iff.mp stepped
  have own {index : Nat} (task : event.task = some index) : loop.phase = server.loop.phase :=
    AcceptLoop.phase_of_task task enabled
  cases event with
  | accept peer => exact timing_accept enabled
  | acceptError =>
      obtain ⟨accepting, same⟩ := Option.ite_none_right_eq_some.mp enabled
      obtain rfl := Option.some.inj same
      exact .acceptError accepting ready rfl rfl rfl rfl rfl
  | wake =>
      obtain ⟨sleeping, same⟩ := Option.ite_none_right_eq_some.mp enabled
      obtain rfl := Option.some.inj same
      exact .wake ⟨rfl, rfl, rfl, rfl⟩ sleeping rfl rfl
  | shutdown =>
      obtain ⟨accepting, same⟩ := Option.ite_none_right_eq_some.mp enabled
      obtain rfl := Option.some.inj same
      have signalled : server.signalledAt ≠ none := by
        intro unsignalled
        exact absurd ready (by simp [Lifecycle.ready, unsignalled])
      exact .shutdown ⟨rfl, rfl, rfl, rfl⟩ accepting rfl signalled
  | handshake | decrement | notify => exact .other ⟨rfl, rfl, rfl, rfl⟩ (own rfl) id
  | serve index =>
      obtain ⟨still, polling⟩ := still_close server index loop
      exact .other still (own rfl) polling.symm.trans
  | release index =>
      obtain ⟨still, polling⟩ := still_abandon server index loop
      exact .other still (own rfl) polling.symm.trans
  | drain =>
      refine .drain ?_ enabled rfl
      intro settling
      simpa [Lifecycle.ready, settling] using ready
  | drainTimeout =>
      obtain ⟨waiting, _, rfl⟩ := AcceptLoop.drainTimeout_eq_some_iff.mp enabled
      exact .timedOut ⟨rfl, rfl, rfl, rfl⟩ waiting rfl (by simpa [Lifecycle.ready] using ready)

/-- Every step sets the timer as the phase wants it. -/
theorem timing_of_step {event : Event} (enabled : server.step settings event = some next) :
    Timing settings server event next := by
  cases event with
  | elapse nanos => exact .elapse nanos rfl (Option.some.inj enabled).symm
  | signal =>
      obtain ⟨unsignalled, same⟩ := Option.ite_none_right_eq_some.mp enabled
      exact .signal unsignalled (Option.some.inj same).symm
  | look =>
      obtain ⟨⟨accepting, _, unsignalled⟩, same⟩ := Option.ite_none_right_eq_some.mp enabled
      exact .look accepting unsignalled (Option.some.inj same).symm
  | park =>
      obtain ⟨_, same⟩ := Option.ite_none_right_eq_some.mp enabled
      obtain rfl := Option.some.inj same
      exact .other ⟨rfl, rfl, rfl, rfl⟩ rfl (fun polling => absurd polling (by simp))
  | loop event => exact timing_loopStep enabled
  | handle index =>
      obtain ⟨_, _, rfl⟩ := handle_eq_some enabled
      exact .other ⟨rfl, rfl, rfl, rfl⟩ rfl id
  | connection index event =>
      obtain ⟨_, _, _, _, rfl⟩ := connectionStep_eq_some_iff.mp enabled
      exact .other ⟨rfl, rfl, rfl, rfl⟩ rfl id
  | redirect event =>
      obtain ⟨_, _, _, _, rfl⟩ := redirectStep_eq_some enabled
      exact .other ⟨rfl, rfl, rfl, rfl⟩ rfl id

/-- A timed-out drain has waited for its whole time since the broadcast. -/
structure Patient (settings : Settings) (server : Lifecycle) : Prop where
  sent : server.loop.phase.signalled = true → ∃ sent, server.sentAt = some sent ∧ sent ≤ server.clock
  waiting : server.loop.phase = .waiting → ∃ sent, server.sentAt = some sent ∧
    sent + fromSecs settings.shutdownDrainSecs ≤ server.timer
  timedOut : server.loop.phase = .returned .timedOut → ∃ sent, server.sentAt = some sent ∧
    sent + fromSecs settings.shutdownDrainSecs ≤ server.clock

/-- The drain has not begun to wait. -/
theorem patient_of_phase (unsignalled : server.loop.phase.signalled = false) :
    server.Patient settings := by
  refine ⟨?_, ?_, ?_⟩
  · intro signalled
    exact absurd (unsignalled.symm.trans signalled) (by simp)
  all_goals
    intro phase
    exact absurd unsignalled (by simp [phase, LoopPhase.signalled])

/-- The drain keeps the clock and the time of the signal. -/
theorem drain_clock (settings : Settings) (server : Lifecycle) :
    (server.drain settings).clock = server.clock ∧
      (server.drain settings).signalledAt = server.signalledAt := by
  unfold drain
  split <;> exact ⟨rfl, rfl⟩

/-- Only the signalling step of the drain records a broadcast. -/
theorem drain_sentAt (settings : Settings) {server : Lifecycle}
    (different : server.loop.phase ≠ .signalling) :
    (server.drain settings).sentAt = server.sentAt := by
  unfold drain
  split
  case h_2 signalling => exact absurd signalling different
  all_goals rfl

/-- The drain keeps the server patient. -/
theorem Patient.drain (holds : server.Patient settings)
    (moved : server.loop.drain = some next.loop)
    (after : next = { server.drain settings with loop := next.loop }) : next.Patient settings := by
  have clock : next.clock = server.clock := by
    rw [after]
    exact (drain_clock settings server).1
  have sent (signalled : server.loop.phase.signalled = true) :
      ∃ sent, next.sentAt = some sent ∧ sent ≤ next.clock := by
    have different : server.loop.phase ≠ .signalling := by
      intro same
      exact absurd signalled (by simp [same, LoopPhase.signalled])
    have sentAt : next.sentAt = server.sentAt := by
      rw [after]
      exact drain_sentAt settings different
    rw [sentAt, clock]
    exact holds.sent signalled
  cases AcceptLoop.drainStep_of_drain moved with
  | stopped before reached =>
      apply patient_of_phase
      rcases reached with phase | phase <;> rw [phase] <;> rfl
  | settling before phase =>
      apply patient_of_phase
      rw [phase]
      rfl
  | signalling before phase =>
      have now : next.sentAt = some server.clock := by rw [after, Lifecycle.drain, before]
      exact ⟨fun _ => ⟨server.clock, now, by rw [clock]⟩, by simp [phase], by simp [phase]⟩
  | loading before reached =>
      refine ⟨fun _ => sent (by rw [before]; rfl), ?_, ?_⟩
      all_goals rcases reached with phase | phase <;> simp [phase]
  | rechecking before reached =>
      have told := sent (by rw [before]; rfl)
      refine ⟨fun _ => told, ?_, ?_⟩
      · intro _
        obtain ⟨time, since, earlier⟩ := told
        have timer : next.timer = server.clock + fromSecs settings.shutdownDrainSecs := by
          rw [after, Lifecycle.drain, before]
        refine ⟨time, since, ?_⟩
        rw [timer]
        omega
      · rcases reached with phase | phase <;> simp [phase]
  | waiting before reached =>
      refine ⟨fun _ => sent (by rw [before]; rfl), ?_, ?_⟩
      · intro _
        have sentAt : next.sentAt = server.sentAt := by rw [after, Lifecycle.drain, before]
        have timer : next.timer = server.timer := by rw [after, Lifecycle.drain, before]
        rw [sentAt, timer]
        exact holds.waiting before
      · rcases reached with phase | phase <;> simp [phase]

/-- Every step keeps the drain patient. -/
theorem Patient.step (holds : server.Patient settings) {event : Event}
    (enabled : server.step settings event = some next) : next.Patient settings := by
  cases timing_of_step enabled with
  | other still phase polling =>
      refine ⟨?_, ?_, ?_⟩
      · rw [phase, still.sentAt, still.clock]
        exact holds.sent
      · rw [phase, still.sentAt, still.timer]
        exact holds.waiting
      · rw [phase, still.sentAt, still.clock]
        exact holds.timedOut
  | elapse nanos same after =>
      subst after
      refine ⟨?_, holds.waiting, ?_⟩
      · intro signalled
        obtain ⟨sent, since, before⟩ := holds.sent signalled
        exact ⟨sent, since, Nat.le_add_right_of_le before⟩
      · intro returned
        obtain ⟨sent, since, before⟩ := holds.timedOut returned
        exact ⟨sent, since, Nat.le_add_right_of_le before⟩
  | signal unsignalled after | look accepting unsignalled after =>
      subst after
      exact ⟨holds.sent, holds.waiting, holds.timedOut⟩
  | acceptError before polling after | wake still before after | shutdown still before after =>
      apply patient_of_phase
      rw [after]
      rfl
  | drain ready moved after => exact holds.drain moved after
  | timedOut still before after elapsed =>
      obtain ⟨sent, since, waited⟩ := holds.waiting before
      have whole : sent + fromSecs settings.shutdownDrainSecs ≤ next.clock := by
        rw [still.clock]
        exact waited.trans elapsed
      rw [← still.sentAt] at since
      exact ⟨fun _ => ⟨sent, since, by omega⟩, by simp [after], fun _ => ⟨sent, since, whole⟩⟩

/-- The time by which the loop leaves its phase, counted from the shutdown signal. -/
def Due (settings : Settings) (server : Lifecycle) (signalled : Nat) : Prop :=
  match server.loop.phase with
  | .accepting => server.clock ≤ signalled + fromMillis 10 ∧
      (server.polling = true → server.clock = signalled)
  | .backingOff => server.polling = false ∧ server.clock ≤ signalled + fromMillis 10 ∧
      server.timer ≤ signalled + fromMillis 10
  | .stopped => server.clock ≤ signalled + fromMillis 10
  | .settling => server.clock ≤ server.timer ∧
      server.timer ≤ signalled + fromMillis 10 + fromMillis 100
  | .signalling | .loading | .rechecking =>
      server.clock ≤ signalled + fromMillis 10 + fromMillis 100
  | .waiting => server.clock ≤ server.timer ∧
      server.timer ≤ signalled + fromMillis 10 + fromMillis 100 + fromSecs settings.shutdownDrainSecs
  | .returned _ => True

/-- Until it returns, the accept loop is within its bound. -/
theorem Due.clock_le {signalled : Nat} (due : server.Due settings signalled)
    (unreturned : ∀ outcome, server.loop.phase ≠ .returned outcome) :
    server.clock ≤
      signalled + fromMillis 10 + fromMillis 100 + fromSecs settings.shutdownDrainSecs := by
  unfold Due at due
  cases phase : server.loop.phase with
  | returned outcome => exact absurd phase (unreturned outcome)
  | accepting | backingOff | stopped | settling | signalling | loading | rechecking | waiting =>
      simp only [phase] at due
      omega

/-- Before the signal the loop accepts and its back-off is short; after it every phase is on time. -/
def OnTime (settings : Settings) (server : Lifecycle) : Prop :=
  match server.signalledAt with
  | none => server.loop.phase = .accepting ∨
      server.loop.phase = .backingOff ∧ server.polling = false ∧
        server.timer ≤ server.clock + fromMillis 10
  | some signalled => server.Due settings signalled

/-- A server that is due since its signal is on time. -/
theorem onTime_of_signalled {signalled : Nat} (since : server.signalledAt = some signalled)
    (due : server.Due settings signalled) : server.OnTime settings := by
  rw [OnTime, since]
  exact due

/-- A server on time is due since its signal. -/
theorem OnTime.due (holds : server.OnTime settings) {signalled : Nat}
    (since : server.signalledAt = some signalled) : server.Due settings signalled := by
  rwa [OnTime, since] at holds

/-- A loop that drains has been signalled. -/
theorem OnTime.signalled (holds : server.OnTime settings)
    (stops : server.loop.phase.accepts = false) : ∃ signalled, server.signalledAt = some signalled := by
  cases since : server.signalledAt with
  | some signalled => exact ⟨signalled, rfl⟩
  | none =>
      rw [OnTime, since] at holds
      rcases holds with phase | ⟨phase, _⟩
      all_goals exact absurd stops (by simp [phase, LoopPhase.accepts])

/-- The accept loop sleeps until its timer. -/
def sleeps (server : Lifecycle) : Bool :=
  match server.loop.phase with
  | .backingOff | .settling | .waiting => true
  | _ => false

/-- The accept loop has returned. -/
def finished (server : Lifecycle) : Bool :=
  match server.loop.phase with
  | .returned _ => true
  | _ => false

/-- Once the signal has arrived, time passes only while the accept loop sleeps and no longer than it
sleeps: its own steps take no time, and it oversleeps no timer. -/
def Punctual (server : Lifecycle) : Event → Prop
  | .elapse nanos => server.signalledAt = none ∨ server.finished = true ∨
      nanos ≤ if server.sleeps then server.timer - server.clock else 0
  | _ => True

instance (server : Lifecycle) : (event : Event) → Decidable (server.Punctual event)
  | .elapse nanos => inferInstanceAs (Decidable (server.signalledAt = none ∨ server.finished = true ∨
      nanos ≤ if server.sleeps then server.timer - server.clock else 0))
  | .signal | .look | .park | .loop _ | .handle _ | .connection _ _ | .redirect _ => .isTrue trivial

/-- The drain keeps the server on time. -/
theorem OnTime.drain (holds : server.OnTime settings)
    (ready : server.loop.phase = .settling → server.timer ≤ server.clock)
    (moved : server.loop.drain = some next.loop)
    (after : next = { server.drain settings with loop := next.loop }) : next.OnTime settings := by
  obtain ⟨clock, signalledAt⟩ : next.clock = server.clock ∧ next.signalledAt = server.signalledAt := by
    rw [after]
    exact drain_clock settings server
  have order := AcceptLoop.drainStep_of_drain moved
  have stops : server.loop.phase.accepts = false := by
    cases order <;> simp [*, LoopPhase.accepts]
  obtain ⟨signalled, since⟩ := holds.signalled stops
  have due := holds.due since
  apply onTime_of_signalled (signalledAt.trans since)
  cases order with
  | stopped before reached =>
      have timer : next.timer = server.clock + fromMillis 100 := by rw [after, Lifecycle.drain, before]
      simp only [Due, before] at due
      rcases reached with phase | phase
      · simp only [Due, phase, clock, timer]
        omega
      · simp only [Due, phase, clock]
        omega
  | settling before phase =>
      have waited := ready before
      simp only [Due, before] at due
      simp only [Due, phase, clock]
      omega
  | signalling before phase =>
      simp only [Due, before] at due
      simp only [Due, phase, clock]
      exact due
  | loading before reached =>
      simp only [Due, before] at due
      rcases reached with phase | phase
      · simp only [Due, phase, clock]
        exact due
      · simp only [Due, phase]
  | rechecking before reached =>
      have timer : next.timer = server.clock + fromSecs settings.shutdownDrainSecs := by
        rw [after, Lifecycle.drain, before]
      simp only [Due, before] at due
      rcases reached with phase | phase
      · simp only [Due, phase, clock, timer]
        omega
      · simp only [Due, phase]
  | waiting before reached =>
      have timer : next.timer = server.timer := by rw [after, Lifecycle.drain, before]
      simp only [Due, before] at due
      rcases reached with phase | phase
      · simp only [Due, phase, clock, timer]
        exact due
      · simp only [Due, phase]

/-- A step that neither waits nor moves the loop keeps it on time. -/
theorem OnTime.still (holds : server.OnTime settings) (still : server.Still next)
    (phase : next.loop.phase = server.loop.phase)
    (polling : next.polling = true → server.polling = true) : next.OnTime settings := by
  have unpolled (rests : server.polling = false) : next.polling = false := by
    rw [Bool.eq_false_iff] at rests ⊢
    exact fun polls => rests (polling polls)
  unfold OnTime Due at holds ⊢
  rw [still.signalledAt, phase, still.clock, still.timer]
  cases since : server.signalledAt with
  | none =>
      rw [since] at holds
      exact holds.imp_right fun ⟨sleeping, rests, short⟩ => ⟨sleeping, unpolled rests, short⟩
  | some signalled =>
      rw [since] at holds
      cases before : server.loop.phase with
      | accepting =>
          rw [before] at holds
          exact ⟨holds.1, fun polls => holds.2 (polling polls)⟩
      | backingOff =>
          rw [before] at holds
          exact ⟨unpolled holds.1, holds.2⟩
      | stopped | settling | signalling | loading | rechecking | waiting | returned outcome =>
          rw [before] at holds
          exact holds

/-- While the loop sleeps, time passes up to its timer. -/
theorem OnTime.elapse (holds : server.OnTime settings) {nanos : Nat}
    (punctual : server.Punctual (.elapse nanos)) :
    OnTime settings { server with clock := server.clock + nanos } := by
  unfold OnTime at holds ⊢
  dsimp only
  cases since : server.signalledAt with
  | none =>
      rw [since] at holds
      refine holds.imp_right fun ⟨sleeping, rests, short⟩ => ⟨sleeping, rests, ?_⟩
      omega
  | some signalled =>
      rw [since] at holds
      rcases punctual with unsignalled | limit
      · exact absurd (since.symm.trans unsignalled) (by simp)
      · unfold finished sleeps at limit
        unfold Due at holds ⊢
        dsimp only
        cases phase : server.loop.phase with
        | accepting =>
            simp only [phase] at holds limit ⊢
            obtain rfl : nanos = 0 := by simpa using limit
            exact holds
        | backingOff =>
            simp only [phase, Bool.false_eq_true, false_or, if_true] at holds limit ⊢
            exact ⟨holds.1, by omega, holds.2.2⟩
        | stopped | settling | signalling | loading | rechecking | waiting | returned outcome =>
            simp [phase] at holds limit ⊢ <;> omega

/-- A signal finds the loop accepting or in its short back-off. -/
theorem OnTime.signal (holds : server.OnTime settings) (unsignalled : server.signalledAt = none) :
    OnTime settings { server with signalledAt := some server.clock } := by
  rw [OnTime, unsignalled] at holds
  apply onTime_of_signalled rfl
  rcases holds with phase | ⟨phase, rests, short⟩
  · simp [Due, phase]
  · simp [Due, phase, rests, short]

/-- A punctual step keeps the loop on time. -/
theorem OnTime.step (holds : server.OnTime settings) {event : Event} (punctual : server.Punctual event)
    (enabled : server.step settings event = some next) : next.OnTime settings := by
  cases timing_of_step enabled with
  | other still phase polling => exact holds.still still phase polling
  | elapse nanos same after =>
      subst same after
      exact holds.elapse punctual
  | signal unsignalled after =>
      subst after
      exact holds.signal unsignalled
  | look accepting unsignalled after =>
      subst after
      rw [OnTime, unsignalled]
      exact .inl accepting
  | acceptError before polling after unpolled clock timer signalledAt =>
      unfold OnTime at holds ⊢
      rw [signalledAt]
      cases since : server.signalledAt with
      | none => exact .inr ⟨after, unpolled, by rw [timer, clock]⟩
      | some signalled =>
          rw [since] at holds
          simp only [Due, before] at holds
          have now := holds.2 polling
          simp only [Due, after, clock, timer]
          exact ⟨unpolled, holds.1, by rw [now]⟩
  | wake still before after polling =>
      unfold OnTime at holds ⊢
      rw [still.signalledAt]
      cases since : server.signalledAt with
      | none => exact .inl after
      | some signalled =>
          rw [since] at holds
          simp only [Due, before] at holds
          simp only [Due, after, still.clock, polling]
          exact ⟨holds.2.1, fun polls => absurd (holds.1.symm.trans polls) (by simp)⟩
  | shutdown still before after signalled =>
      obtain ⟨time, since⟩ := Option.ne_none_iff_exists'.mp signalled
      have due := holds.due since
      apply onTime_of_signalled (still.signalledAt.trans since)
      simp only [Due, before] at due
      simp only [Due, after, still.clock]
      exact due.1
  | drain ready moved after => exact holds.drain ready moved after
  | timedOut still before after elapsed =>
      obtain ⟨signalled, since⟩ := holds.signalled (by rw [before]; rfl)
      apply onTime_of_signalled (still.signalledAt.trans since)
      simp only [Due, after]

/-- A punctual continuation returns by the given time. -/
def Returns (settings : Settings) (clock time : Nat) (server : Lifecycle) : Prop :=
  ∃ events final outcome, (machine settings clock).run server events = some final ∧
    (machine settings clock).Meets Punctual server events ∧ final.loop.phase = .returned outcome ∧
    final.clock ≤ time

section Returns
variable {clock time : Nat}

/-- A punctual step before a return is part of the return. -/
theorem Returns.cons {event : Event} (enabled : server.step settings event = some next)
    (punctual : server.Punctual event) (returns : next.Returns settings clock time) :
    server.Returns settings clock time := by
  obtain ⟨events, final, outcome, ran, meets, phase, bounded⟩ := returns
  refine ⟨event :: events, final, outcome, (machine settings clock).run_step enabled ran, ?_, phase,
    bounded⟩
  intro other stepped
  obtain rfl := Option.some.inj (enabled.symm.trans stepped)
  exact ⟨punctual, meets⟩

/-- A returned accept loop has returned in time. -/
theorem returns_of_returned {outcome : DrainOutcome} (phase : server.loop.phase = .returned outcome)
    (bounded : server.clock ≤ time) : server.Returns settings clock time :=
  ⟨[], server, outcome, rfl, trivial, phase, bounded⟩

/-- A loop that sleeps wakes at its timer. -/
theorem Returns.sleep (sleeping : server.sleeps = true)
    (returns : Returns settings clock time { server with clock := max server.clock server.timer }) :
    server.Returns settings clock time := by
  have slept : server.step settings (.elapse (server.timer - server.clock)) =
      some { server with clock := max server.clock server.timer } := by
    have latest : server.clock + (server.timer - server.clock) = max server.clock server.timer := by omega
    rw [step, latest]
  refine returns.cons slept (.inr (.inr ?_))
  rw [if_pos sleeping]

/-- A step of the drain is punctual. -/
theorem Returns.drain {loop : AcceptLoop} (moved : server.loop.drain = some loop)
    (ready : server.loop.phase = .settling → server.timer ≤ server.clock)
    (returns : Returns settings clock time { server.drain settings with loop }) :
    server.Returns settings clock time := by
  have enabled : server.step settings (.loop .drain) = some { server.drain settings with loop } := by
    have open_ : server.ready .drain = true := by
      by_cases settling : server.loop.phase = .settling
      · simp [Lifecycle.ready, ready settling]
      · simp [Lifecycle.ready, settling]
    change server.loopStep settings .drain = _
    rw [loopStep, if_pos open_]
    change Option.map _ server.loop.drain = _
    rw [moved]
    rfl
  exact returns.cons enabled trivial

/-- A drain that waits ends with its notification or with its timeout. -/
theorem returns_of_waiting (waiting : server.loop.phase = .waiting)
    (early : server.clock ≤ server.timer) (bounded : server.timer ≤ time) :
    server.Returns settings clock time := by
  by_cases ready : server.loop.allDrained.poll.1 = true
  · have moved : server.loop.drain = some server.loop.pollDrained := by
      unfold AcceptLoop.drain
      rw [waiting]
    refine Returns.drain moved (by simp [waiting]) ?_
    have phase : server.loop.pollDrained.phase = .returned .drained := by
      simp [AcceptLoop.pollDrained, ready]
    refine returns_of_returned phase ?_
    exact (drain_clock settings server).1.trans_le (early.trans bounded)
  · apply Returns.sleep (by simp [sleeps, waiting])
    rw [max_eq_right early]
    obtain ⟨loop, timedOut⟩ : ∃ loop, server.loop.drainTimeout = some loop :=
      ⟨_, AcceptLoop.drainTimeout_eq_some_iff.mpr ⟨waiting, by simpa using ready, rfl⟩⟩
    have fired : Lifecycle.step settings { server with clock := server.timer } (.loop .drainTimeout) =
        some { server with clock := server.timer, loop } := by
      change loopStep settings { server with clock := server.timer } .drainTimeout = _
      rw [loopStep, if_pos (by simp [Lifecycle.ready])]
      change Option.map _ server.loop.drainTimeout = _
      rw [timedOut]
      rfl
    have phase : loop.phase = .returned .timedOut := by
      obtain ⟨_, _, rfl⟩ := AcceptLoop.drainTimeout_eq_some_iff.mp timedOut
      rfl
    exact (returns_of_returned phase bounded).cons fired trivial

/-- A drain that is on time can return on time. -/
theorem returns_of_drain {signalled : Nat} (holds : server.OnTime settings)
    (stops : server.loop.phase.accepts = false) (since : server.signalledAt = some signalled)
    (bounded : server.clock ≤
      signalled + fromMillis 10 + fromMillis 100 + fromSecs settings.shutdownDrainSecs) :
    server.Returns settings clock
      (signalled + fromMillis 10 + fromMillis 100 + fromSecs settings.shutdownDrainSecs) := by
  induction remaining : server.loop.phase.remaining using Nat.strong_induction_on generalizing server with
  | _ rank ih =>
      have due := holds.due since
      -- every phase before the wait takes its next step, at once or after its sleep
      have drained (now : Lifecycle) (onTime : now.OnTime settings) (loop : now.loop = server.loop)
          (at_ : now.signalledAt = server.signalledAt) (before : server.loop.phase.remaining ≠ 0)
          (ready : now.loop.phase = .settling → now.timer ≤ now.clock)
          (inTime : now.clock ≤
            signalled + fromMillis 10 + fromMillis 100 + fromSecs settings.shutdownDrainSecs) :
          now.Returns settings clock
            (signalled + fromMillis 10 + fromMillis 100 + fromSecs settings.shutdownDrainSecs) := by
        rw [← loop] at before remaining
        obtain ⟨next, moved⟩ := AcceptLoop.drain_enabled before
        obtain ⟨time, recorded⟩ := drain_clock settings now
        have order := AcceptLoop.drainStep_of_drain moved
        refine Returns.drain moved ready ?_
        refine ih _ ?_ (onTime.drain ready moved rfl) order.stops ?_ (time.trans_le inTime) rfl
        · rw [← remaining]
          exact order.remaining_lt before
        · exact recorded.trans (at_.trans since)
      cases phase : server.loop.phase with
      | accepting | backingOff =>
          rw [phase] at stops
          exact absurd stops (by simp [LoopPhase.accepts])
      | returned outcome => exact returns_of_returned phase bounded
      | waiting =>
          simp only [Due, phase] at due
          exact returns_of_waiting phase due.1 due.2
      | stopped | signalling | loading | rechecking =>
          exact drained server holds rfl rfl (by simp [phase, LoopPhase.remaining]) (by simp [phase]) bounded
      | settling =>
          simp only [Due, phase] at due
          apply Returns.sleep (by simp [sleeps, phase])
          rw [max_eq_right due.1]
          let slept : Lifecycle := { server with clock := server.timer }
          have onTime : slept.OnTime settings := by
            have later : slept.signalledAt = some signalled := since
            apply onTime_of_signalled later
            simp only [Due, slept, phase]
            exact ⟨le_refl _, due.2⟩
          refine drained slept onTime rfl rfl (by simp [phase, LoopPhase.remaining])
            (fun _ => le_refl server.timer) ?_
          exact due.2.trans (Nat.le_add_right _ _)

/-- A signalled loop that rests at its select takes the shutdown branch. -/
theorem returns_of_accepting {signalled : Nat} (accepting : server.loop.phase = .accepting)
    (rests : server.polling = false) (since : server.signalledAt = some signalled)
    (bounded : server.clock ≤ signalled + fromMillis 10) :
    server.Returns settings clock
      (signalled + fromMillis 10 + fromMillis 100 + fromSecs settings.shutdownDrainSecs) := by
  have stopped : server.step settings (.loop .shutdown) =
      some { server with loop := { server.loop with phase := .stopped } } := by
    change server.loopStep settings .shutdown = _
    rw [loopStep, if_pos (by simp [Lifecycle.ready, since, rests])]
    change Option.map _ (if server.loop.phase = .accepting then _ else none) = _
    rw [if_pos accepting]
    rfl
  refine Returns.cons stopped trivial (returns_of_drain ?_ rfl since (by dsimp only; omega))
  exact onTime_of_signalled since bounded

/-- Whatever its phase, a signalled loop that is on time can return on time. -/
theorem returns_of_onTime {signalled : Nat} (holds : server.OnTime settings)
    (since : server.signalledAt = some signalled)
    (unreturned : ∀ outcome, server.loop.phase ≠ .returned outcome) :
    server.Returns settings clock
      (signalled + fromMillis 10 + fromMillis 100 + fromSecs settings.shutdownDrainSecs) := by
  have due := holds.due since
  have bounded := due.clock_le unreturned
  cases phase : server.loop.phase with
  | accepting =>
      simp only [Due, phase] at due
      cases polling : server.polling with
      | false => exact returns_of_accepting phase polling since due.1
      | true =>
          let parked : Lifecycle := { server with polling := false }
          have rests : server.step settings .park = some parked := if_pos polling
          have returns : parked.Returns settings clock _ := returns_of_accepting phase rfl since due.1
          exact returns.cons rests trivial
  | backingOff =>
      simp only [Due, phase] at due
      obtain ⟨rests, early, short⟩ := due
      apply Returns.sleep (by simp [sleeps, phase])
      let slept : Lifecycle := { server with clock := max server.clock server.timer }
      let woken : Lifecycle := { slept with loop := { server.loop with phase := .accepting } }
      have wakes : slept.step settings (.loop .wake) = some woken := by
        have ready : slept.ready .wake = true := decide_eq_true (le_max_right server.clock server.timer)
        change slept.loopStep settings .wake = _
        rw [loopStep, if_pos ready]
        change Option.map _ (if server.loop.phase = .backingOff then _ else none) = _
        rw [if_pos phase]
        rfl
      have returns : woken.Returns settings clock _ :=
        returns_of_accepting rfl rests since (max_le early short)
      exact returns.cons wakes trivial
  | returned outcome => exact absurd phase (unreturned outcome)
  | stopped | settling | signalling | loading | rechecking | waiting =>
      exact returns_of_drain holds (by rw [phase]; rfl) since bounded

end Returns

/-- No drain times out before its connections had the whole drain time since the broadcast.  A
punctual server that has been told to stop returns within a back-off of the accept loop, the settle
window and the drain time. -/
theorem shutdown_window (settings : Settings) (clock : Nat) (events : List Event) (server : Lifecycle)
    (ran : (machine settings clock).run (machine settings clock).initial events = some server) :
    (server.loop.phase = .returned .timedOut → ∃ sent, server.sentAt = some sent ∧
      sent + fromSecs settings.shutdownDrainSecs ≤ server.clock) ∧
    ((machine settings clock).Meets Punctual (machine settings clock).initial events →
      ∀ signalled, server.signalledAt = some signalled →
        (∀ outcome, server.loop.phase ≠ .returned outcome) →
        server.clock ≤
          signalled + fromMillis 10 + fromMillis 100 + fromSecs settings.shutdownDrainSecs ∧
        server.Returns settings clock
          (signalled + fromMillis 10 + fromMillis 100 + fromSecs settings.shutdownDrainSecs)) := by
  have patient : server.Patient settings := by
    have start : (start settings clock).Patient settings := patient_of_phase rfl
    exact (machine settings clock).run_invariant (fun _ _ _ holds => holds.step) start ran
  refine ⟨patient.timedOut, ?_⟩
  intro punctual signalled since unreturned
  have onTime : server.OnTime settings := by
    have begins : (start settings clock).OnTime settings := .inl rfl
    have kept (state : Lifecycle) (event : Event) (next : Lifecycle) (holds : state.OnTime settings)
        (guarded : state.Punctual event) (enabled : state.step settings event = some next) :
        next.OnTime settings := holds.step guarded enabled
    have always : (machine settings clock).Always (OnTime settings) _ events :=
      Machine.Meets.always kept (fun _ holds => holds) begins punctual
    exact always.last ran
  exact ⟨(onTime.due since).clock_le unreturned, returns_of_onTime onTime since unreturned⟩

/-- The busy connection of the shutdown does not end, and the drain gives up. -/
def stuckShutdown : List Event :=
  busyShutdown ++ [.loop .drain, .loop .drain, .elapse (fromSecs 30), .loop .drainTimeout]

/-- The signal arrives at the beginning of a back-off, which the accept loop sleeps through. -/
def lateSignal : List Event :=
  [.look, .loop .acceptError, .signal, .elapse (fromMillis 10), .loop .wake, .loop .shutdown]

/-- One drain waits for a stuck task, and one signal arrives during the back-off. -/
theorem shutdown_window_stuck :
    (∃ server, (machine Settings.defaults 0).run (machine Settings.defaults 0).initial stuckShutdown =
        some server ∧ server.loop.phase = .returned .timedOut ∧
      ∃ sent, server.sentAt = some sent ∧ sent + fromSecs 30 ≤ server.clock) ∧
    ∃ server, (machine Settings.defaults 0).run (machine Settings.defaults 0).initial lateSignal =
        some server ∧ server.clock = fromMillis 10 ∧
      server.Returns Settings.defaults 0 (0 + fromMillis 10 + fromMillis 100 + fromSecs 30) := by
  constructor
  · have ran : ((machine Settings.defaults 0).run (machine Settings.defaults 0).initial stuckShutdown).map
        (·.loop.phase) = some (.returned .timedOut) := by decide +kernel
    obtain ⟨server, reached, phase⟩ := Option.map_eq_some_iff.mp ran
    obtain ⟨patient, _⟩ := shutdown_window Settings.defaults 0 stuckShutdown server reached
    exact ⟨server, reached, phase, patient phase⟩
  · have ran : ((machine Settings.defaults 0).run (machine Settings.defaults 0).initial lateSignal).map
        (fun server => (server.loop.phase, server.signalledAt, server.clock)) =
        some (.stopped, some 0, fromMillis 10) := by decide +kernel
    obtain ⟨server, reached, facts⟩ := Option.map_eq_some_iff.mp ran
    obtain ⟨phase, facts⟩ := Prod.mk.inj facts
    obtain ⟨since, time⟩ := Prod.mk.inj facts
    have punctual : (machine Settings.defaults 0).Meets Punctual (machine Settings.defaults 0).initial
        lateSignal := by decide +kernel
    obtain ⟨_, prompt⟩ := shutdown_window Settings.defaults 0 lateSignal server reached
    exact ⟨server, reached, time, (prompt punctual 0 since (by simp [phase])).2⟩

end Lifecycle

end HighperfServer
