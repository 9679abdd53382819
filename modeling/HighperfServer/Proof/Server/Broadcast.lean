import HighperfServer.Proof.Server.AcceptLoop
import HighperfServer.Proof.Server.Handling

namespace HighperfServer
open Library

/-- The broadcast has been sent. -/
def LoopPhase.signalled : LoopPhase → Bool
  | .loading | .rechecking | .waiting | .returned _ => true
  | _ => false

namespace AcceptLoop
variable {config : ServerConfig} {loop next : AcceptLoop}

/-- Only the signalling step of the drain sends the broadcast. -/
theorem shutdownSent_of_drain (moved : loop.drain = some next) :
    next.shutdownSent = (loop.shutdownSent || loop.phase == .signalling) ∧
      next.phase.signalled = (loop.phase.signalled || loop.phase == .signalling) := by
  unfold drain at moved
  cases phase : loop.phase with
  | accepting | backingOff | returned outcome =>
      rw [phase] at moved
      exact absurd moved (by simp)
  | settling | signalling =>
      rw [phase] at moved
      obtain rfl := Option.some.inj moved
      exact ⟨by simp, rfl⟩
  | stopped | loading | rechecking =>
      rw [phase] at moved
      obtain rfl := Option.some.inj moved
      refine ⟨by simp, ?_⟩
      dsimp only
      split <;> rfl
  | waiting =>
      rw [phase] at moved
      obtain rfl := Option.some.inj moved
      refine ⟨by simp [pollDrained], ?_⟩
      unfold pollDrained
      dsimp only
      split <;> rfl

/-- The tasks, the broadcast and the side of the phase on which it is sent stay. -/
structure Quiet (loop next : AcceptLoop) : Prop where
  sent : next.shutdownSent = loop.shutdownSent
  phase : next.phase.signalled = loop.phase.signalled
  tasks : next.tasks.length = loop.tasks.length

/-- A step that neither accepts nor drains is quiet. -/
theorem quiet_of_step {event : Event} (unaccepting : ∀ peer, event ≠ .accept peer)
    (undraining : event ≠ .drain) (enabled : loop.step config event = some next) :
    loop.Quiet next := by
  cases own : event.task with
  | some index =>
      obtain ⟨_, _, _, _, _, _, rfl⟩ := task_frame own enabled
      exact ⟨rfl, rfl, List.length_set⟩
  | none =>
      cases event with
      | accept peer => exact absurd rfl (unaccepting peer)
      | drain => exact absurd rfl undraining
      | acceptError | wake | shutdown =>
          obtain ⟨phase, same⟩ := Option.ite_none_right_eq_some.mp enabled
          obtain rfl := Option.some.inj same
          exact ⟨rfl, by rw [phase]; rfl, rfl⟩
      | drainTimeout =>
          obtain ⟨phase, _, rfl⟩ := drainTimeout_eq_some_iff.mp enabled
          exact ⟨rfl, by rw [phase]; rfl, rfl⟩
      | handshake | serve | decrement | notify | release =>
          exact absurd own (by simp [Event.task])

/-- An accepted socket is dropped quietly or spawns one task. -/
theorem acceptSocket_quiet (config : ServerConfig) (loop : AcceptLoop) (peer : IpAddr) :
    loop.Quiet (loop.acceptSocket config peer) ∨
      (loop.acceptSocket config peer).shutdownSent = loop.shutdownSent ∧
        (loop.acceptSocket config peer).phase = loop.phase ∧
        (loop.acceptSocket config peer).tasks.length = loop.tasks.length + 1 := by
  rcases acceptSocket_cases config loop peer with ⟨rejected, dropped⟩ | ⟨permit, _, spawned⟩
  · rw [dropped]
    exact .inl ⟨rfl, rfl, rfl⟩
  · rw [spawned]
    exact .inr ⟨rfl, rfl, List.length_append⟩

end AcceptLoop

/-- The connection's task holds a receiver. -/
def Connection.subscribed : Connection → Bool
  | .spawned _ | .handling _ => true
  | .returned _ | .failed => false

/-- The receiver of a connection has seen the broadcast or will. -/
def Connection.Informed (sent : Bool) : Connection → Prop
  | .spawned receiver => receiver.seen = 0
  | .handling state => state.Informed sent
  | .returned _ | .failed => True

/-- Every connection stays informed when the broadcast is sent. -/
theorem Connection.Informed.broadcast {connection : Connection} {sent : Bool}
    (informed : connection.Informed sent) : connection.Informed true := by
  cases connection with
  | spawned receiver => exact informed
  | handling state => exact ⟨informed.receiver, fun _ => rfl, informed.looked⟩
  | returned state => trivial
  | failed => trivial

namespace Lifecycle
variable {settings : Settings} {server next : Lifecycle}

/-- The receiver of the redirect listener. -/
def redirectReceivers (server : Lifecycle) : Nat :=
  match server.redirect with
  | some listener => if listener.phase = .stopped then 0 else 1
  | none => 0

/-- The channel holds what the accept loop has sent, and every receiver has seen it or will. -/
structure Informed (server : Lifecycle) : Prop where
  aligned : server.connections.length = server.loop.tasks.length
  own : server.shutdownRx.seen = 0
  phase : server.loop.shutdownSent = server.loop.phase.signalled
  value : server.shutdown.value = server.loop.shutdownSent
  version : server.shutdown.version = server.loop.shutdownSent.toNat
  held : server.shutdown.receivers =
    1 + server.connections.countP Connection.subscribed + server.redirectReceivers
  connections : ∀ connection ∈ server.connections, connection.Informed server.loop.shutdownSent
  redirect : ∀ listener, server.redirect = some listener → listener.phase ≠ .stopped →
    listener.receiver.seen = 0

/-- The server starts informed. -/
theorem informed_start (settings : Settings) (clock : Nat) : (start settings clock).Informed := by
  unfold start Watch.channel
  cases settings.tlsEnabled && settings.httpRedirectPort.isSome with
  | false => exact ⟨rfl, rfl, rfl, rfl, rfl, rfl, by simp, by simp⟩
  | true => exact ⟨rfl, rfl, rfl, rfl, rfl, rfl, by simp, by simp⟩

/-- The clocks, the recorded instants and the select of the accept loop do not matter to the receivers. -/
theorem Informed.timed (holds : server.Informed) (clock timer : Nat) (polling : Bool)
    (signalledAt sentAt : Option Nat) :
    Informed { server with clock, timer, polling, signalledAt, sentAt } :=
  ⟨holds.aligned, holds.own, holds.phase, holds.value, holds.version, holds.held, holds.connections,
    holds.redirect⟩

/-- A quiet step of the accept loop changes nothing for the receivers. -/
theorem Informed.quiet (holds : server.Informed) {loop : AcceptLoop}
    (quiet : server.loop.Quiet loop) : Informed { server with loop } where
  aligned := holds.aligned.trans quiet.tasks.symm
  own := holds.own
  phase := by
    change loop.shutdownSent = loop.phase.signalled
    rw [quiet.sent, quiet.phase, holds.phase]
  value := holds.value.trans quiet.sent.symm
  version := by
    change server.shutdown.version = loop.shutdownSent.toNat
    rw [quiet.sent, holds.version]
  held := holds.held
  connections := by
    change ∀ connection ∈ server.connections, connection.Informed loop.shutdownSent
    rw [quiet.sent]
    exact holds.connections
  redirect := holds.redirect

/-- A connection that keeps its receiver takes a step of its own. -/
theorem Informed.setConnection (holds : server.Informed) {index : Nat} {old new : Connection}
    (present : server.connections[index]? = some old)
    (informed : new.Informed server.loop.shutdownSent) (same : new.subscribed = old.subscribed) :
    Informed { server with connections := server.connections.set index new } where
  aligned := List.length_set.trans holds.aligned
  own := holds.own
  phase := holds.phase
  value := holds.value
  version := holds.version
  held := by
    have count := countP_set_add Connection.subscribed present new
    rw [same] at count
    change server.shutdown.receivers = 1 + (server.connections.set index new).countP _ +
      server.redirectReceivers
    rw [holds.held]
    omega
  connections := by
    intro connection member
    rcases List.mem_or_eq_of_mem_set member with earlier | rfl
    · exact holds.connections connection earlier
    · exact informed
  redirect := holds.redirect

/-- A connection that drops its receiver leaves the channel. -/
theorem Informed.dropConnection (holds : server.Informed) {index : Nat} {old new : Connection}
    (present : server.connections[index]? = some old) (held : old.subscribed = true)
    (dropped : new.subscribed = false) (informed : new.Informed server.loop.shutdownSent) :
    Informed { server with
      connections := server.connections.set index new
      shutdown := server.shutdown.unsubscribe } where
  aligned := List.length_set.trans holds.aligned
  own := holds.own
  phase := holds.phase
  value := holds.value
  version := holds.version
  held := by
    have count := countP_set_add Connection.subscribed present new
    rw [held, dropped] at count
    change server.shutdown.receivers - 1 = 1 + (server.connections.set index new).countP _ +
      server.redirectReceivers
    rw [holds.held]
    simp only [if_true, Bool.false_eq_true, if_false] at count
    omega
  connections := by
    intro connection member
    rcases List.mem_or_eq_of_mem_set member with earlier | rfl
    · exact holds.connections connection earlier
    · exact informed
  redirect := holds.redirect

@[simp] theorem close_loop (server : Lifecycle) (index : Nat) :
    (server.close index).loop = server.loop := by
  unfold close
  split <;> rfl

@[simp] theorem abandon_loop (server : Lifecycle) (index : Nat) :
    (server.abandon index).loop = server.loop := by
  unfold abandon
  split <;> rfl

/-- The end of a connection keeps the server informed. -/
theorem Informed.close (holds : server.Informed) (index : Nat) : (server.close index).Informed := by
  unfold Lifecycle.close
  split
  · rename_i state present
    exact holds.dropConnection present rfl rfl trivial
  · exact holds

/-- A failed handshake keeps the server informed. -/
theorem Informed.abandon (holds : server.Informed) (index : Nat) :
    (server.abandon index).Informed := by
  unfold Lifecycle.abandon
  split
  · rename_i receiver present
    exact holds.dropConnection present rfl rfl trivial
  · exact holds

/-- A spawned task takes a receiver that has seen no change. -/
theorem Informed.subscribe (holds : server.Informed) {loop : AcceptLoop}
    (sent : loop.shutdownSent = server.loop.shutdownSent) (phase : loop.phase = server.loop.phase)
    (tasks : loop.tasks.length = server.loop.tasks.length + 1) :
    Informed { server.subscribe with loop } where
  aligned := by
    change (server.connections ++ [Connection.spawned server.shutdownRx]).length = loop.tasks.length
    rw [List.length_append, holds.aligned, tasks]
    rfl
  own := holds.own
  phase := by
    change loop.shutdownSent = loop.phase.signalled
    rw [sent, phase, holds.phase]
  value := holds.value.trans sent.symm
  version := by
    change server.shutdown.version = loop.shutdownSent.toNat
    rw [sent, holds.version]
  held := by
    change server.shutdown.receivers + 1 =
      1 + (server.connections ++ [Connection.spawned server.shutdownRx]).countP _ +
        server.redirectReceivers
    rw [List.countP_append, List.countP_singleton, holds.held]
    simp only [Connection.subscribed, if_true]
    omega
  connections := by
    change ∀ connection ∈ server.connections ++ [Connection.spawned server.shutdownRx],
      connection.Informed loop.shutdownSent
    rw [sent]
    intro connection member
    rcases List.mem_append.mp member with earlier | last
    · exact holds.connections connection earlier
    · rw [List.mem_singleton.mp last]
      exact holds.own
  redirect := holds.redirect

/-- The accept loop itself holds a receiver. -/
theorem Informed.receivers_pos (holds : server.Informed) : 0 < server.shutdown.receivers := by
  rw [holds.held]
  omega

/-- The broadcast is stored, since the accept loop holds a receiver. -/
theorem Informed.broadcast (holds : server.Informed) {loop : AcceptLoop}
    (unsent : server.loop.shutdownSent = false) (sent : loop.shutdownSent = true)
    (phase : loop.phase.signalled = true) (tasks : loop.tasks = server.loop.tasks) :
    Informed { server with loop, shutdown := server.shutdown.send true } := by
  have stored : server.shutdown.send true =
      { server.shutdown with value := true, version := server.shutdown.version + 1 } :=
    Watch.send_of_pos holds.receivers_pos true
  rw [stored]
  refine ⟨?_, holds.own, ?_, ?_, ?_, holds.held, ?_, holds.redirect⟩
  · change server.connections.length = loop.tasks.length
    rw [tasks, holds.aligned]
  · exact sent.trans phase.symm
  · exact sent.symm
  · change server.shutdown.version + 1 = loop.shutdownSent.toNat
    rw [holds.version, unsent, sent]
    rfl
  · change ∀ connection ∈ server.connections, connection.Informed loop.shutdownSent
    rw [sent]
    intro connection member
    exact Connection.Informed.broadcast (holds.connections connection member)

/-- The drain keeps the server informed when it sends the broadcast. -/
theorem Informed.drain (holds : server.Informed) {loop : AcceptLoop}
    (moved : server.loop.drain = some loop) : Informed { server.drain settings with loop } := by
  obtain ⟨sent, signalled⟩ := AcceptLoop.shutdownSent_of_drain moved
  obtain ⟨phase, flag, notify, same⟩ := AcceptLoop.drain_frame moved
  have tasks : loop.tasks = server.loop.tasks := by rw [same]
  by_cases signalling : server.loop.phase = .signalling
  · have unsent : server.loop.shutdownSent = false := by rw [holds.phase, signalling]; rfl
    rw [signalling] at sent signalled
    have after := holds.broadcast unsent (sent.trans (by simp)) (signalled.trans (by simp)) tasks
    unfold Lifecycle.drain
    rw [signalling]
    exact after.timed _ _ _ _ _
  · have quiet : server.loop.Quiet loop := by
      refine ⟨?_, ?_, by rw [tasks]⟩
      · rw [sent]
        simp [signalling]
      · rw [signalled]
        simp [signalling]
    have after := holds.quiet quiet
    unfold Lifecycle.drain
    split
    · exact after.timed _ _ _ _ _
    · rename_i phase
      exact absurd phase signalling
    · exact after.timed _ _ _ _ _
    · exact after

/-- A step of the accept loop keeps the server informed. -/
theorem Informed.loopStep (holds : server.Informed) {event : AcceptLoop.Event}
    (moved : server.loopStep settings event = some next) : next.Informed := by
  obtain ⟨_, stepped⟩ := Option.ite_none_right_eq_some.mp moved
  obtain ⟨loop, enabled, rfl⟩ := Option.map_eq_some_iff.mp stepped
  cases event with
  | accept peer =>
      obtain ⟨_, same⟩ := Option.ite_none_right_eq_some.mp enabled
      obtain rfl := Option.some.inj same
      have resting : Informed { server with polling := false } := holds.timed _ _ _ _ _
      unfold beside
      dsimp only
      rcases AcceptLoop.acceptSocket_quiet settings.toServerConfig server.loop peer with
        quiet | ⟨sent, phase, tasks⟩
      · rw [if_neg (by rw [quiet.tasks]; omega)]
        exact resting.quiet quiet
      · rw [if_pos (by rw [tasks]; omega)]
        exact resting.subscribe sent phase tasks
  | drain => exact holds.drain enabled
  | serve index =>
      apply (holds.close index).quiet
      rw [close_loop]
      exact AcceptLoop.quiet_of_step (by simp) (by simp) enabled
  | release index =>
      apply (holds.abandon index).quiet
      rw [abandon_loop]
      exact AcceptLoop.quiet_of_step (by simp) (by simp) enabled
  | acceptError =>
      have quiet := AcceptLoop.quiet_of_step (by simp) (by simp) enabled
      exact (holds.quiet quiet).timed _ _ _ _ _
  | shutdown | wake | handshake | decrement | notify | drainTimeout =>
      exact holds.quiet (AcceptLoop.quiet_of_step (by simp) (by simp) enabled)

/-- A spawned task starts to handle its connection. -/
theorem handle_eq_some {index : Nat} (moved : server.handle settings index = some next) :
    ∃ receiver, server.connections[index]? = some (.spawned receiver) ∧
      next = { server with
        connections := server.connections.set index
          (.handling (Handling.start settings.toServerConfig receiver server.clock)) } := by
  unfold handle at moved
  split at moved
  · rename_i receiver _ present
    exact ⟨receiver, present, (Option.some.inj moved).symm⟩
  · exact absurd moved (by simp)

/-- The start of a connection keeps the server informed. -/
theorem Informed.handle (holds : server.Informed) {index : Nat}
    (moved : server.handle settings index = some next) : next.Informed := by
  obtain ⟨receiver, present, rfl⟩ := handle_eq_some moved
  have unseen := holds.connections _ (List.mem_of_getElem? present)
  have started : (Handling.start settings.toServerConfig receiver server.clock).Informed
      server.loop.shutdownSent := ⟨unseen, by simp [Handling.start, SelectLoop.start], by simp [Handling.start]⟩
  exact holds.setConnection present started rfl

/-- A connection steps with the clock and the channel of the server. -/
theorem connectionStep_eq_some_iff {index : Nat} {event : Handling.Event} :
    server.connectionStep index event = some next ↔
      ∃ state after, server.connections[index]? = some (.handling state) ∧
        state.step server.clock server.shutdown event = some after ∧
        next = { server with connections := server.connections.set index (.handling after) } := by
  unfold connectionStep
  constructor
  · intro moved
    split at moved
    · rename_i state present
      obtain ⟨after, stepped, rfl⟩ := Option.map_eq_some_iff.mp moved
      exact ⟨state, after, present, stepped, rfl⟩
    · exact absurd moved (by simp)
  · rintro ⟨state, after, present, stepped, rfl⟩
    simp only [present, stepped, Option.map_some]

/-- A step of a connection keeps the server informed. -/
theorem Informed.connectionStep (holds : server.Informed) {index : Nat} {event : Handling.Event}
    (moved : server.connectionStep index event = some next) : next.Informed := by
  obtain ⟨state, after, present, stepped, rfl⟩ := connectionStep_eq_some_iff.mp moved
  have informed := holds.connections _ (List.mem_of_getElem? present)
  exact holds.setConnection present
    (Handling.Informed.step holds.value holds.version informed stepped) rfl

/-- The redirect listener steps with the clock and the channel of the server. -/
theorem redirectStep_eq_some {event : RedirectListener.Event}
    (moved : server.redirectStep event = some next) :
    ∃ listener after, server.redirect = some listener ∧
      listener.step server.clock server.shutdown event = some after ∧
      next = { server with
        redirect := some after
        shutdown :=
          if after.phase = .stopped then server.shutdown.unsubscribe else server.shutdown } := by
  obtain ⟨listener, present, stepped⟩ := Option.bind_eq_some_iff.mp moved
  obtain ⟨after, enabled, rfl⟩ := Option.map_eq_some_iff.mp stepped
  exact ⟨listener, after, present, enabled, rfl⟩

/-- A step of the redirect listener keeps the server informed. -/
theorem Informed.redirectStep (holds : server.Informed) {event : RedirectListener.Event}
    (moved : server.redirectStep event = some next) : next.Informed := by
  obtain ⟨listener, after, present, enabled, rfl⟩ := redirectStep_eq_some moved
  have active := RedirectListener.active_of_step enabled
  have unseen := holds.redirect listener present active
  obtain ⟨later, _⟩ := RedirectListener.unseen_of_step holds.value holds.version unseen enabled
  have held := holds.held
  rw [redirectReceivers, present] at held
  simp only [if_neg active] at held
  have redirect (other : RedirectListener) (same : some after = some other)
      (goesOn : other.phase ≠ .stopped) : other.receiver.seen = 0 := by
    obtain rfl := Option.some.inj same
    exact later goesOn
  by_cases stopped : after.phase = .stopped
  · rw [if_pos stopped]
    refine ⟨holds.aligned, holds.own, holds.phase, holds.value, holds.version, ?_,
      holds.connections, redirect⟩
    simp only [Watch.unsubscribe, redirectReceivers, if_pos stopped]
    omega
  · rw [if_neg stopped]
    refine ⟨holds.aligned, holds.own, holds.phase, holds.value, holds.version, ?_,
      holds.connections, redirect⟩
    simp only [redirectReceivers, if_neg stopped]
    exact held

/-- Every step keeps the receivers informed. -/
theorem Informed.step (holds : server.Informed) {event : Event}
    (enabled : server.step settings event = some next) : next.Informed := by
  cases event with
  | elapse nanos =>
      obtain rfl := Option.some.inj enabled
      exact holds.timed _ _ _ _ _
  | signal | look | park =>
      obtain ⟨_, same⟩ := Option.ite_none_right_eq_some.mp enabled
      obtain rfl := Option.some.inj same
      exact holds.timed _ _ _ _ _
  | loop event => exact holds.loopStep enabled
  | handle index => exact holds.handle enabled
  | connection index event => exact holds.connectionStep enabled
  | redirect event => exact holds.redirectStep enabled

/-- Every reachable server is informed. -/
theorem informed_of_reachable {clock : Nat} (reachable : (machine settings clock).Reachable server) :
    server.Informed :=
  (machine settings clock).reachable_invariant (informed_start settings clock)
    (fun _ _ _ holds enabled => holds.step enabled) reachable

end Lifecycle

/-- How the loop of the connection has ended. -/
def Connection.exit : Connection → Option LoopExit
  | .handling state | .returned state => state.loop.exited
  | .spawned _ | .failed => none

/-- The channel that the poll under way has found. -/
def Connection.looked : Connection → Option (Watch Bool)
  | .handling state => state.looked
  | .spawned _ | .returned _ | .failed => none

namespace Lifecycle
variable {settings : Settings} {server next : Lifecycle}

/-- The timer of a connection has closed it. -/
def TimedOut (server : Lifecycle) (index : Nat) : Prop :=
  (server.connections[index]?).bind Connection.exit = some .keepAlive

/-- The poll under way of a connection has looked at the channel before its last change. -/
def Late (server : Lifecycle) (index : Nat) : Prop :=
  ∃ seen, (server.connections[index]?).bind Connection.looked = some seen ∧
    seen.version < server.shutdown.version

/-- The connections that the redirect listener has spawned, with the one that its poll under way may
spawn. -/
def redirects (server : Lifecycle) : Nat :=
  (server.redirect.map RedirectListener.committed).getD 0

/-- No listener begins to accept a connection, and a timer closes one only in a poll that is late. -/
structure Undisturbed (server later : Lifecycle) : Prop where
  accepted : later.connections.length = server.connections.length
  redirected : later.redirects ≤ server.redirects
  timers : ∀ index, later.TimedOut index ∨ later.Late index →
    server.TimedOut index ∨ server.Late index

/-- What two steps leave undisturbed their composition does. -/
theorem Undisturbed.trans {middle later : Lifecycle} (first : server.Undisturbed middle)
    (second : middle.Undisturbed later) : server.Undisturbed later where
  accepted := second.accepted.trans first.accepted
  redirected := second.redirected.trans first.redirected
  timers := fun index closed => first.timers index (second.timers index closed)

/-- What touches neither the connections, the channel nor the redirect listener disturbs nothing. -/
theorem Undisturbed.of_frame {later : Lifecycle} (connections : later.connections = server.connections)
    (redirect : later.redirect = server.redirect)
    (version : later.shutdown.version = server.shutdown.version) : server.Undisturbed later where
  accepted := by rw [connections]
  redirected := by rw [redirects, redirect, redirects]
  timers := by
    intro index closed
    rwa [TimedOut, Late, connections, version] at closed

/-- A replaced connection that the timer has not closed disturbs no other. -/
theorem undisturbed_set {index : Nat} {old new : Connection}
    (present : server.connections[index]? = some old)
    (closing : new.exit = some .keepAlive ∨
        (∃ seen, new.looked = some seen ∧ seen.version < server.shutdown.version) →
      old.exit = some .keepAlive ∨
        ∃ seen, old.looked = some seen ∧ seen.version < server.shutdown.version)
    (loop : AcceptLoop) {shutdown : Watch Bool} (version : shutdown.version = server.shutdown.version) :
    server.Undisturbed { server with
      loop, shutdown, connections := server.connections.set index new } := by
  refine ⟨List.length_set, le_refl _, ?_⟩
  intro position closed
  unfold TimedOut Late at closed ⊢
  dsimp only at closed
  rw [version] at closed
  by_cases same : index = position
  · subst same
    rw [List.getElem?_set_self (List.getElem?_eq_some_iff.mp present).1] at closed
    rw [present]
    exact closing closed
  · rwa [List.getElem?_set_ne same] at closed

/-- The end of a connection disturbs nothing. -/
theorem undisturbed_close (server : Lifecycle) (index : Nat) (loop : AcceptLoop) :
    server.Undisturbed { server.close index with loop } := by
  unfold close
  split
  · rename_i state present
    refine undisturbed_set present ?_ loop rfl
    rintro (closed | ⟨seen, looked, _⟩)
    · exact .inl closed
    · exact absurd looked (by simp [Connection.looked])
  · exact .of_frame rfl rfl rfl

/-- A failed handshake disturbs nothing. -/
theorem undisturbed_abandon (server : Lifecycle) (index : Nat) (loop : AcceptLoop) :
    server.Undisturbed { server.abandon index with loop } := by
  unfold abandon
  split
  · rename_i receiver present
    exact undisturbed_set present (by simp [Connection.exit, Connection.looked]) loop rfl
  · exact .of_frame rfl rfl rfl

/-- The drain touches no connection, and it sends once. -/
theorem undisturbed_drain (different : server.loop.phase ≠ .signalling) (loop : AcceptLoop) :
    server.Undisturbed { server.drain settings with loop } := by
  unfold drain
  split
  case h_2 signalling => exact absurd signalling different
  all_goals exact .of_frame rfl rfl rfl

/-- After the broadcast the accept loop accepts nothing. -/
theorem undisturbed_loopStep (holds : server.Informed) (sent : server.loop.shutdownSent = true)
    {event : AcceptLoop.Event} (moved : server.loopStep settings event = some next) :
    server.Undisturbed next ∧ next.loop.shutdownSent = true := by
  have signalled := holds.phase
  rw [sent] at signalled
  obtain ⟨_, stepped⟩ := Option.ite_none_right_eq_some.mp moved
  obtain ⟨loop, enabled, rfl⟩ := Option.map_eq_some_iff.mp stepped
  cases event with
  | accept peer =>
      obtain ⟨accepting, _⟩ := Option.ite_none_right_eq_some.mp enabled
      rw [accepting] at signalled
      exact absurd signalled (by simp [LoopPhase.signalled])
  | drain =>
      obtain ⟨stays, _⟩ := AcceptLoop.shutdownSent_of_drain enabled
      have different : server.loop.phase ≠ .signalling := by
        intro signalling
        rw [signalling] at signalled
        exact absurd signalled (by simp [LoopPhase.signalled])
      exact ⟨undisturbed_drain different loop, stays.trans (by rw [sent]; rfl)⟩
  | serve index =>
      have quiet := AcceptLoop.quiet_of_step (by simp) (by simp) enabled
      exact ⟨undisturbed_close server index loop, quiet.sent.trans sent⟩
  | release index =>
      have quiet := AcceptLoop.quiet_of_step (by simp) (by simp) enabled
      exact ⟨undisturbed_abandon server index loop, quiet.sent.trans sent⟩
  | acceptError | shutdown | wake | handshake | decrement | notify | drainTimeout =>
      have quiet := AcceptLoop.quiet_of_step (by simp) (by simp) enabled
      exact ⟨.of_frame rfl rfl rfl, quiet.sent.trans sent⟩

/-- The start of a connection disturbs nothing. -/
theorem undisturbed_handle {index : Nat} (moved : server.handle settings index = some next) :
    server.Undisturbed next ∧ next.loop = server.loop := by
  obtain ⟨receiver, present, rfl⟩ := handle_eq_some moved
  refine ⟨undisturbed_set present ?_ _ rfl, rfl⟩
  simp [Connection.exit, Connection.looked, Handling.start, SelectLoop.start]

/-- A step of a connection after the broadcast disturbs nothing. -/
theorem undisturbed_connectionStep (holds : server.Informed)
    (sent : server.loop.shutdownSent = true) {index : Nat} {event : Handling.Event}
    (moved : server.connectionStep index event = some next) :
    server.Undisturbed next ∧ next.loop = server.loop := by
  obtain ⟨state, after, present, stepped, rfl⟩ := connectionStep_eq_some_iff.mp moved
  have informed := holds.connections _ (List.mem_of_getElem? present)
  have version := holds.version
  rw [sent] at informed version
  refine ⟨undisturbed_set present ?_ _ rfl, rfl⟩
  rintro (closed | ⟨seen, looked, older⟩)
  · obtain ⟨seen, looked, first⟩ := Handling.looked_of_keepAlive informed stepped closed
    exact .inr ⟨seen, looked, by rw [first, version]; decide⟩
  · rcases Handling.looked_of_step stepped looked with before | rfl
    · exact .inr ⟨seen, before, older⟩
    · exact absurd older (lt_irrefl _)

/-- A step of the redirect listener after the broadcast disturbs nothing. -/
theorem undisturbed_redirectStep (holds : server.Informed)
    (sent : server.loop.shutdownSent = true) {event : RedirectListener.Event}
    (moved : server.redirectStep event = some next) :
    server.Undisturbed next ∧ next.loop = server.loop := by
  obtain ⟨listener, after, present, enabled, rfl⟩ := redirectStep_eq_some moved
  have unseen := holds.redirect listener present (RedirectListener.active_of_step enabled)
  obtain ⟨_, committed⟩ := RedirectListener.unseen_of_step holds.value holds.version unseen enabled
  refine ⟨⟨rfl, ?_, ?_⟩, rfl⟩
  · rw [redirects, redirects, present]
    exact committed sent
  · have version : (if after.phase = .stopped then server.shutdown.unsubscribe
        else server.shutdown).version = server.shutdown.version := by
      split <;> rfl
    intro index
    unfold TimedOut Late
    dsimp only
    rw [version]
    exact id

/-- After the broadcast every step leaves the connections undisturbed. -/
theorem undisturbed_of_step (holds : server.Informed) (sent : server.loop.shutdownSent = true)
    {event : Event} (enabled : server.step settings event = some next) :
    server.Undisturbed next ∧ next.loop.shutdownSent = true := by
  cases event with
  | elapse nanos =>
      obtain rfl := Option.some.inj enabled
      exact ⟨.of_frame rfl rfl rfl, sent⟩
  | signal | look | park =>
      obtain ⟨_, same⟩ := Option.ite_none_right_eq_some.mp enabled
      obtain rfl := Option.some.inj same
      exact ⟨.of_frame rfl rfl rfl, sent⟩
  | loop event => exact undisturbed_loopStep holds sent enabled
  | handle index =>
      obtain ⟨undisturbed, same⟩ := undisturbed_handle enabled
      exact ⟨undisturbed, same ▸ sent⟩
  | connection index event =>
      obtain ⟨undisturbed, same⟩ := undisturbed_connectionStep holds sent enabled
      exact ⟨undisturbed, same ▸ sent⟩
  | redirect event =>
      obtain ⟨undisturbed, same⟩ := undisturbed_redirectStep holds sent enabled
      exact ⟨undisturbed, same ▸ sent⟩

/-- After the broadcast a whole run leaves the connections undisturbed. -/
theorem undisturbed_of_run {clock : Nat} {final : Lifecycle} {events : List Event}
    (holds : server.Informed) (sent : server.loop.shutdownSent = true)
    (ran : (machine settings clock).run server events = some final) :
    final.Informed ∧ final.loop.shutdownSent = true ∧ server.Undisturbed final := by
  have start : server.Informed ∧ server.loop.shutdownSent = true ∧ server.Undisturbed server :=
    ⟨holds, sent, .of_frame rfl rfl rfl⟩
  have preserved (before : Lifecycle) (event : Event) (after : Lifecycle)
      (kept : before.Informed ∧ before.loop.shutdownSent = true ∧ server.Undisturbed before)
      (enabled : before.step settings event = some after) :
      after.Informed ∧ after.loop.shutdownSent = true ∧ server.Undisturbed after := by
    obtain ⟨informed, flag, earlier⟩ := kept
    obtain ⟨undisturbed, stays⟩ := undisturbed_of_step informed flag enabled
    exact ⟨informed.step enabled, stays, earlier.trans undisturbed⟩
  exact (machine settings clock).run_invariant preserved start ran

/-- No connection is graceful before the broadcast.  After it no listener begins to accept, a timer
closes a connection only in a poll that began before, and every poll that begins makes its connection
graceful unless the connection has ended. -/
theorem broadcast_delivered (settings : Settings) (clock : Nat) (server : Lifecycle)
    (reachable : (machine settings clock).Reachable server) :
    (server.loop.shutdownSent = false →
      ∀ state, Connection.handling state ∈ server.connections → state.loop.graceful = false) ∧
    (server.loop.shutdownSent = true → ∀ events final,
      (machine settings clock).run server events = some final →
      server.Undisturbed final ∧
      ∀ index state, final.connections[index]? = some (.handling state) →
        state.loop.exited = none → state.looked = none →
        ∃ next after, final.step settings (.connection index .look) = some next ∧
          next.connections[index]? = some (.handling after) ∧
          (after.loop.graceful = true ∨ after.loop.exited = some .connection)) := by
  have informed := informed_of_reachable reachable
  constructor
  · intro unsent state member
    have graceful := (informed.connections _ member).graceful
    rw [unsent] at graceful
    simpa using graceful
  · intro sent events final ran
    obtain ⟨later, stays, undisturbed⟩ := undisturbed_of_run informed sent ran
    refine ⟨undisturbed, ?_⟩
    intro index state present running idle
    have known := later.connections _ (List.mem_of_getElem? present)
    have value := later.value
    have version := later.version
    rw [stays] at known value version
    obtain ⟨after, stepped, told⟩ := Handling.graceful_of_look final.clock value version known
      running idle
    refine ⟨_, after, connectionStep_eq_some_iff.mpr ⟨state, after, present, stepped, rfl⟩, ?_, told⟩
    exact List.getElem?_set_self (List.getElem?_eq_some_iff.mp present).1

/-- A connection is busy when the server shuts down. -/
def busyShutdown : List Event :=
  [.look, .loop (.accept (.v4 1)), .handle 0, .connection 0 .requestStart, .signal, .loop .shutdown,
    .loop .drain, .elapse (fromMillis 100), .loop .drain, .loop .drain]

/-- The busy connection has a request open and is not in a poll. -/
def busyHandling : Handling where
  receiver := ⟨0⟩
  loop := { SelectLoop.start Settings.defaults.toServerConfig 0 with requests := [⟨0, none⟩] }
  looked := none

/-- A poll of the connection has begun before the broadcast. -/
def lateShutdown : List Event :=
  [.look, .loop (.accept (.v4 1)), .handle 0, .connection 0 .look, .signal, .loop .shutdown,
    .loop .drain, .elapse (fromMillis 100), .loop .drain, .loop .drain]

/-- One run polls a connection after the broadcast, and another closes it by a late timer. -/
theorem broadcast_delivered_busy :
    (∃ server next after,
      (machine Settings.defaults 0).run (start Settings.defaults 0) busyShutdown = some server ∧
      server.step Settings.defaults (.connection 0 .look) = some next ∧
      next.connections[0]? = some (.handling after) ∧ after.loop.graceful = true) ∧
    ∃ server final,
      (machine Settings.defaults 0).run (start Settings.defaults 0) lateShutdown = some server ∧
      (machine Settings.defaults 0).run server
        [.elapse (fromSecs Settings.defaults.keepAliveTimeoutSecs), .connection 0 .settle] = some final ∧
      final.TimedOut 0 ∧ (server.TimedOut 0 ∨ server.Late 0) := by
  constructor
  · have ran : ((machine Settings.defaults 0).run (start Settings.defaults 0) busyShutdown).map
        (fun server => (server.loop.shutdownSent, server.connections[0]?,
          (server.step Settings.defaults (.connection 0 .look)).map fun next =>
            (next.connections[0]?).bind Connection.exit)) =
        some (true, some (.handling busyHandling), some none) := by decide +kernel
    obtain ⟨server, reached, facts⟩ := Option.map_eq_some_iff.mp ran
    obtain ⟨sent, facts⟩ := Prod.mk.inj facts
    obtain ⟨present, polled⟩ := Prod.mk.inj facts
    obtain ⟨_, delivered⟩ := broadcast_delivered Settings.defaults 0 server ⟨busyShutdown, reached⟩
    obtain ⟨_, hears⟩ := delivered sent [] server rfl
    obtain ⟨next, after, moved, handled, told⟩ := hears 0 busyHandling present rfl rfl
    refine ⟨server, next, after, reached, moved, handled, ?_⟩
    have running : after.loop.exited = none := by
      rw [moved, Option.map_some, handled] at polled
      exact Option.some.inj polled
    exact told.resolve_right (by simp [running])
  · have ran : ((machine Settings.defaults 0).run (start Settings.defaults 0) lateShutdown).map
        (fun server => (server.loop.shutdownSent,
          ((machine Settings.defaults 0).run server [.elapse (fromSecs Settings.defaults.keepAliveTimeoutSecs),
            .connection 0 .settle]).map fun final => (final.connections[0]?).bind Connection.exit)) =
        some (true, some (some .keepAlive)) := by decide +kernel
    obtain ⟨server, reached, facts⟩ := Option.map_eq_some_iff.mp ran
    obtain ⟨sent, polled⟩ := Prod.mk.inj facts
    obtain ⟨final, settled, closed⟩ := Option.map_eq_some_iff.mp polled
    obtain ⟨_, delivered⟩ := broadcast_delivered Settings.defaults 0 server ⟨lateShutdown, reached⟩
    obtain ⟨undisturbed, _⟩ := delivered sent _ final settled
    exact ⟨server, final, reached, settled, closed, undisturbed.timers 0 (.inl closed)⟩

end Lifecycle

end HighperfServer
