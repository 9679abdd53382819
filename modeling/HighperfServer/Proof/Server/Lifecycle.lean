import HighperfServer.Proof.Server.Broadcast

namespace HighperfServer
open Library

namespace SelectLoop
variable {loop next : SelectLoop}

/-- A step of the task leaves the clock and the channel as they are. -/
structure Local (loop next : SelectLoop) : Prop where
  clock : next.clock = loop.clock
  established : next.established = loop.established
  value : next.shutdownValue = loop.shutdownValue
  changed : next.shutdownChanged = true → loop.shutdownChanged = true

/-- A poll changes the connection's own part alone. -/
theorem local_of_poll (loop : SelectLoop) : loop.Local loop.poll := by
  unfold poll
  split
  · exact ⟨rfl, rfl, rfl, id⟩
  · split
    · exact ⟨rfl, rfl, rfl, by simp⟩
    · split <;> exact ⟨rfl, rfl, rfl, id⟩

/-- A step of the connection changes its own part alone. -/
theorem local_of_step {event : Event} (own : event.ofConnection = true ∨ event = .poll)
    (moved : loop.step event = some next) : loop.Local next := by
  rcases own with own | rfl
  · obtain ⟨_, _, rfl, _⟩ := connection_frame own moved
    exact ⟨rfl, rfl, rfl, id⟩
  · obtain ⟨_, same⟩ := Option.ite_none_right_eq_some.mp moved
    obtain rfl := Option.some.inj same
    exact local_of_poll loop

/-- A reachable loop that takes a step is reachable. -/
theorem reachable_step {config : ServerConfig} {established : Nat} {event : Event}
    (reachable : (machine config established).Reachable loop) (moved : loop.step event = some next) :
    (machine config established).Reachable next := by
  have one : (machine config established).run loop [event] = some next :=
    (machine config established).run_step moved rfl
  exact reachable.run one

end SelectLoop

namespace Handling
variable {clock : Nat} {shutdown : Watch Bool} {state next : Handling}

/-- The connection steps as its select loop does. -/
theorem view_of_advance {event : SelectLoop.Event} (own : event.ofConnection = true ∨ event = .poll)
    (moved : state.advance clock shutdown event = some next) :
    (state.view clock shutdown).step event = some next.loop ∧
      next.view clock shutdown = next.loop ∧ next.loop.established = state.loop.established ∧
      next.looked = state.looked := by
  obtain ⟨loop, stepped, rfl⟩ := Option.map_eq_some_iff.mp moved
  have frame := SelectLoop.local_of_step own stepped
  have changed : (((state.channel shutdown).changed (state.update shutdown loop).receiver).isSome) =
      loop.shutdownChanged := by
    unfold update
    cases taken : loop.shutdownChanged with
    | true => exact frame.changed taken
    | false => simp [Watch.changed]
  have time : loop.clock = clock := frame.clock
  have value : loop.shutdownValue = (state.channel shutdown).value := frame.value
  refine ⟨stepped, ?_, frame.established, rfl⟩
  calc (state.update shutdown loop).view clock shutdown
      = { loop with
          clock
          shutdownValue := (state.channel shutdown).value
          shutdownChanged :=
            ((state.channel shutdown).changed (state.update shutdown loop).receiver).isSome } := rfl
    _ = loop := by rw [changed, ← value, ← time]

/-- The connection is where its select loop alone can be. -/
def Reached (config : ServerConfig) (state : Handling) : Prop :=
  (SelectLoop.machine config state.loop.established).Reachable state.loop

/-- While the connection runs, its select loop alone reaches its view of the present. -/
structure Simulated (config : ServerConfig) (clock : Nat) (shutdown : Watch Bool) (state : Handling) :
    Prop where
  reached : state.Reached config
  present : state.loop.exited = none →
    (SelectLoop.machine config state.loop.established).Reachable (state.view clock shutdown)

variable {config : ServerConfig}

/-- The passing of time keeps the simulation. -/
theorem Simulated.elapse (holds : state.Simulated config clock shutdown) (nanos : Nat) :
    state.Simulated config (clock + nanos) shutdown where
  reached := holds.reached
  present := by
    intro running
    have moved : (state.view clock shutdown).step (.elapse nanos) =
        some (state.view (clock + nanos) shutdown) := if_pos running
    exact SelectLoop.reachable_step (holds.present running) moved

/-- The receivers of other tasks do not matter. -/
theorem Simulated.watch (holds : state.Simulated config clock shutdown) {other : Watch Bool}
    (value : other.value = shutdown.value) (version : other.version = shutdown.version) :
    state.Simulated config clock other := by
  have same : state.view clock other = state.view clock shutdown := by
    unfold view channel Watch.changed
    cases state.looked with
    | none => simp [value, version]
    | some seen => rfl
  refine ⟨holds.reached, ?_⟩
  rw [same]
  exact holds.present

/-- The broadcast reaches the select loop as a send, after the poll that is under way. -/
theorem Simulated.broadcast (holds : state.Simulated config clock shutdown)
    (unseen : state.receiver.seen = 0) {other : Watch Bool} (value : other.value = true)
    (version : other.version = 1) : state.Simulated config clock other where
  reached := holds.reached
  present := by
    intro running
    cases looked : state.looked with
    | some seen =>
        have same : state.view clock other = state.view clock shutdown := by
          simp [view, channel, looked]
        rw [same]
        exact holds.present running
    | none =>
        have moved : (state.view clock shutdown).step (.shutdownSend true) =
            some (state.view clock other) := by
          refine (if_pos running).trans (congrArg some ?_)
          simp [view, channel, looked, Watch.changed, unseen, value, version]
        exact SelectLoop.reachable_step (holds.present running) moved

/-- A connection that advances follows its select loop. -/
theorem Simulated.advance (holds : state.Simulated config clock shutdown) {event : SelectLoop.Event}
    (own : event.ofConnection = true ∨ event = .poll)
    (moved : state.advance clock shutdown event = some next) :
    next.Simulated config clock shutdown ∧ next.looked = state.looked := by
  obtain ⟨stepped, view, established, looked⟩ := view_of_advance own moved
  obtain ⟨running, _⟩ := Option.ite_none_right_eq_some.mp stepped
  have reached : next.Reached config := by
    rw [Reached, established]
    exact SelectLoop.reachable_step (holds.present running) stepped
  refine ⟨⟨reached, fun _ => ?_⟩, looked⟩
  rw [view]
  exact reached

/-- A poll that begins changes nothing that its select loop sees. -/
theorem Simulated.looks (holds : state.Simulated config clock shutdown) (idle : state.looked = none) :
    Simulated config clock shutdown { state with looked := some shutdown } := by
  have same : view clock shutdown { state with looked := some shutdown } = state.view clock shutdown := by
    simp [view, channel, idle]
  refine ⟨holds.reached, ?_⟩
  rw [same]
  exact holds.present

/-- A poll that has ended catches up with the channel. -/
theorem Simulated.settles {seen : Watch Bool} {sent : Bool}
    (holds : state.Simulated config clock shutdown) (informed : state.Informed sent) (looked : state.looked = some seen)
    (value : shutdown.value = sent) (version : shutdown.version = sent.toNat) :
    Simulated config clock shutdown { state with looked := none } := by
  obtain ⟨_, found, at_⟩ := informed.looked seen looked
  have then_ : Simulated config clock seen { state with looked := none } := by
    have same : view clock seen { state with looked := none } = state.view clock shutdown := by
      simp [view, channel, looked]
    refine ⟨holds.reached, ?_⟩
    rw [same]
    exact holds.present
  by_cases current : state.loop.graceful = sent
  · exact then_.watch (by rw [value, found, current]) (by rw [version, at_, current])
  · -- the broadcast was sent while the poll was under way
    have sent : sent = true := by
      cases sent with
      | true => rfl
      | false =>
          rw [Bool.not_eq_false] at current
          exact informed.graceful current
    subst sent
    rw [Bool.not_eq_true] at current
    exact then_.broadcast (informed.receiver.trans (by rw [current]; rfl)) value version

/-- The first half of a poll keeps the simulation. -/
theorem Simulated.look (holds : state.Simulated config clock shutdown) (idle : state.looked = none)
    (moved : state.look clock shutdown = some next) : next.Simulated config clock shutdown := by
  unfold Handling.look at moved
  dsimp only at moved
  split at moved
  · exact (holds.advance (.inr rfl) moved).1
  · obtain ⟨_, same⟩ := Option.ite_none_right_eq_some.mp moved
    obtain rfl := Option.some.inj same
    exact holds.looks idle

/-- A step of a connection keeps the simulation. -/
theorem Simulated.step {sent : Bool} (holds : state.Simulated config clock shutdown)
    (informed : state.Informed sent) (value : shutdown.value = sent)
    (version : shutdown.version = sent.toNat) {event : Event}
    (moved : state.step clock shutdown event = some next) : next.Simulated config clock shutdown := by
  cases event with
  | requestStart | requestFinish index => exact (holds.advance (.inl rfl) moved).1
  | connectionEnd =>
      obtain ⟨_, advanced⟩ := Option.ite_none_right_eq_some.mp moved
      exact (holds.advance (.inl rfl) advanced).1
  | look =>
      obtain ⟨idle, looked⟩ := Option.ite_none_right_eq_some.mp moved
      exact holds.look idle looked
  | settle =>
      obtain ⟨polling, settled⟩ := Option.ite_none_left_eq_some.mp moved
      obtain ⟨seen, looked⟩ := Option.ne_none_iff_exists'.mp polling
      obtain ⟨polled, advanced, rfl⟩ := Option.map_eq_some_iff.mp settled
      obtain ⟨simulated, same⟩ := holds.advance (.inr rfl) advanced
      obtain ⟨_, rfl⟩ := poll_of_advance advanced
      exact simulated.settles (informed.poll clock shutdown looked) looked value version

/-- A connection that is handled after the broadcast finds it sent. -/
theorem simulated_start (config : ServerConfig) {receiver : Receiver} (clock : Nat) {sent : Bool}
    (unseen : receiver.seen = 0) (value : shutdown.value = sent)
    (version : shutdown.version = sent.toNat) :
    (start config receiver clock).Simulated config clock shutdown := by
  have initial : (SelectLoop.machine config clock).Reachable (SelectLoop.start config clock) := ⟨[], rfl⟩
  refine ⟨initial, fun _ => ?_⟩
  cases sent with
  | false =>
      have same : (start config receiver clock).view clock shutdown = SelectLoop.start config clock := by
        simp [view, channel, start, SelectLoop.start, Watch.changed, unseen, value, version]
      rw [same]
      exact initial
  | true =>
      have moved : (SelectLoop.start config clock).step (.shutdownSend true) =
          some ((start config receiver clock).view clock shutdown) := by
        simp [SelectLoop.step, SelectLoop.advance, view, channel, start, SelectLoop.start, Watch.changed,
          unseen, value, version]
      exact SelectLoop.reachable_step initial moved

end Handling

/-- Every handled connection is simulated. -/
def Connection.Simulated (config : ServerConfig) (clock : Nat) (shutdown : Watch Bool) :
    Connection → Prop
  | .handling state => state.Simulated config clock shutdown
  | .returned state => state.Reached config
  | .spawned _ | .failed => True

namespace Lifecycle
variable {settings : Settings} {server next : Lifecycle}

/-- Every connection is simulated at the present of the server. -/
def Simulated (settings : Settings) (server : Lifecycle) : Prop :=
  ∀ connection ∈ server.connections,
    connection.Simulated settings.toServerConfig server.clock server.shutdown

/-- A change of the channel that the other tasks make is not visible. -/
theorem Simulated.watch (holds : server.Simulated settings) (shutdown : Watch Bool)
    (value : shutdown.value = server.shutdown.value)
    (version : shutdown.version = server.shutdown.version) :
    ∀ connection ∈ server.connections,
      connection.Simulated settings.toServerConfig server.clock shutdown := by
  intro connection member
  have simulated := holds connection member
  cases connection with
  | handling state => exact Handling.Simulated.watch simulated value version
  | returned state => exact simulated
  | spawned receiver => trivial
  | failed => trivial

/-- What touches neither the connections, the clock nor the broadcast keeps the simulation. -/
theorem Simulated.of_frame (holds : server.Simulated settings)
    (connections : next.connections = server.connections) (clock : next.clock = server.clock)
    (value : next.shutdown.value = server.shutdown.value)
    (version : next.shutdown.version = server.shutdown.version) : next.Simulated settings := by
  unfold Simulated
  rw [connections, clock]
  exact holds.watch next.shutdown value version

/-- A connection is replaced by a simulated one. -/
theorem Simulated.setConnection (holds : server.Simulated settings) (index : Nat) (new : Connection)
    (shutdown : Watch Bool) (value : shutdown.value = server.shutdown.value)
    (version : shutdown.version = server.shutdown.version)
    (simulated : new.Simulated settings.toServerConfig server.clock shutdown) (loop : AcceptLoop) :
    Simulated settings { server with
      loop, shutdown, connections := server.connections.set index new } := by
  intro connection member
  rcases List.mem_or_eq_of_mem_set member with earlier | rfl
  · exact holds.watch shutdown value version connection earlier
  · exact simulated

/-- The end of a connection keeps the others simulated. -/
theorem Simulated.close (holds : server.Simulated settings) (index : Nat) (loop : AcceptLoop) :
    Simulated settings { server.close index with loop } := by
  unfold Lifecycle.close
  split
  · rename_i state present
    have simulated := holds _ (List.mem_of_getElem? present)
    exact holds.setConnection index (.returned state) server.shutdown.unsubscribe rfl rfl
      simulated.reached loop
  · exact holds.of_frame rfl rfl rfl rfl

/-- A failed handshake keeps the others simulated. -/
theorem Simulated.abandon (holds : server.Simulated settings) (index : Nat) (loop : AcceptLoop) :
    Simulated settings { server.abandon index with loop } := by
  unfold Lifecycle.abandon
  split
  · exact holds.setConnection index .failed server.shutdown.unsubscribe rfl rfl trivial loop
  · exact holds.of_frame rfl rfl rfl rfl

/-- A spawned connection is not handled yet. -/
theorem Simulated.subscribe (holds : server.Simulated settings) (loop : AcceptLoop) :
    Simulated settings { server.subscribe with loop } := by
  intro connection member
  rcases List.mem_append.mp member with earlier | last
  · exact holds.watch server.shutdown.subscribe rfl rfl connection earlier
  · rw [List.mem_singleton.mp last]
    trivial

/-- The broadcast is one more event of every select loop. -/
theorem Simulated.broadcast (holds : server.Simulated settings) (informed : server.Informed)
    (unsent : server.loop.shutdownSent = false) (loop : AcceptLoop) :
    Simulated settings { server with loop, shutdown := server.shutdown.send true } := by
  have stored : server.shutdown.send true =
      { server.shutdown with value := true, version := 1 } := by
    rw [Watch.send_of_pos informed.receivers_pos, informed.version, unsent]
    rfl
  rw [stored]
  intro connection member
  have simulated := holds connection member
  have known := informed.connections connection member
  cases connection with
  | handling state =>
      have calm : state.loop.graceful = false := by
        have graceful := known.graceful
        rw [unsent] at graceful
        simpa using graceful
      have unseen := known.receiver
      rw [calm] at unseen
      exact Handling.Simulated.broadcast simulated unseen rfl rfl
  | returned state => exact simulated
  | spawned receiver => trivial
  | failed => trivial

/-- The broadcast keeps the connections simulated. -/
theorem Simulated.drain (holds : server.Simulated settings) (informed : server.Informed)
    (loop : AcceptLoop) : Simulated settings { server.drain settings with loop } := by
  unfold Lifecycle.drain
  split
  · exact holds.of_frame rfl rfl rfl rfl
  · rename_i signalling
    have unsent : server.loop.shutdownSent = false := by rw [informed.phase, signalling]; rfl
    exact (holds.broadcast informed unsent loop).of_frame rfl rfl rfl rfl
  · exact holds.of_frame rfl rfl rfl rfl
  · exact holds.of_frame rfl rfl rfl rfl

/-- A step of the accept loop keeps the connections simulated. -/
theorem Simulated.loopStep (holds : server.Simulated settings) (informed : server.Informed)
    {event : AcceptLoop.Event} (moved : server.loopStep settings event = some next) :
    next.Simulated settings := by
  obtain ⟨_, stepped⟩ := Option.ite_none_right_eq_some.mp moved
  obtain ⟨loop, _, rfl⟩ := Option.map_eq_some_iff.mp stepped
  cases event with
  | accept peer =>
      unfold beside
      by_cases spawned : server.loop.tasks.length < loop.tasks.length
      · rw [if_pos spawned]
        exact holds.subscribe loop
      · rw [if_neg spawned]
        exact holds.of_frame rfl rfl rfl rfl
  | drain => exact holds.drain informed loop
  | serve index => exact holds.close index loop
  | release index => exact holds.abandon index loop
  | acceptError | shutdown | wake | handshake | decrement | notify | drainTimeout =>
      exact holds.of_frame rfl rfl rfl rfl

/-- A connection is simulated from its start. -/
theorem Simulated.handle (holds : server.Simulated settings) (informed : server.Informed) {index : Nat}
    (moved : server.handle settings index = some next) : next.Simulated settings := by
  obtain ⟨receiver, present, rfl⟩ := handle_eq_some moved
  have unseen := informed.connections _ (List.mem_of_getElem? present)
  have started := Handling.simulated_start settings.toServerConfig server.clock unseen
    informed.value informed.version
  exact holds.setConnection index
    (.handling (Handling.start settings.toServerConfig receiver server.clock)) server.shutdown rfl rfl
    started server.loop

/-- A step of one connection keeps them all simulated. -/
theorem Simulated.connectionStep (holds : server.Simulated settings) (informed : server.Informed)
    {index : Nat} {event : Handling.Event} (moved : server.connectionStep index event = some next) :
    next.Simulated settings := by
  obtain ⟨state, after, present, stepped, rfl⟩ := connectionStep_eq_some_iff.mp moved
  have simulated := holds _ (List.mem_of_getElem? present)
  have known := informed.connections _ (List.mem_of_getElem? present)
  have follows := Handling.Simulated.step simulated known informed.value informed.version stepped
  exact holds.setConnection index (.handling after) server.shutdown rfl rfl follows server.loop

/-- The passing of time keeps the connections simulated. -/
theorem Simulated.elapse (holds : server.Simulated settings) (nanos : Nat) :
    Simulated settings { server with clock := server.clock + nanos } := by
  intro connection member
  have simulated := holds connection member
  cases connection with
  | handling state => exact Handling.Simulated.elapse simulated nanos
  | returned state => exact simulated
  | spawned receiver => trivial
  | failed => trivial

/-- A step of the redirect listener keeps the connections simulated. -/
theorem Simulated.redirectStep (holds : server.Simulated settings) {event : RedirectListener.Event}
    (moved : server.redirectStep event = some next) : next.Simulated settings := by
  obtain ⟨listener, after, _, _, rfl⟩ := redirectStep_eq_some moved
  by_cases stopped : after.phase = .stopped
  · rw [if_pos stopped]
    exact holds.of_frame rfl rfl rfl rfl
  · rw [if_neg stopped]
    exact holds.of_frame rfl rfl rfl rfl

/-- Every step keeps the connections simulated. -/
theorem Simulated.step (holds : server.Simulated settings) (informed : server.Informed) {event : Event}
    (enabled : server.step settings event = some next) : next.Simulated settings := by
  cases event with
  | elapse nanos =>
      obtain rfl := Option.some.inj enabled
      exact holds.elapse nanos
  | signal | look | park =>
      obtain ⟨_, same⟩ := Option.ite_none_right_eq_some.mp enabled
      obtain rfl := Option.some.inj same
      exact holds.of_frame rfl rfl rfl rfl
  | loop event => exact holds.loopStep informed enabled
  | handle index => exact holds.handle informed enabled
  | connection index event => exact holds.connectionStep informed enabled
  | redirect event => exact holds.redirectStep enabled

/-- The accept loop takes its own steps or stays. -/
theorem loop_of_step {event : Event} (enabled : server.step settings event = some next) :
    next.loop = server.loop ∨
      ∃ inner, server.loop.step settings.toServerConfig inner = some next.loop := by
  cases event with
  | elapse nanos =>
      obtain rfl := Option.some.inj enabled
      exact .inl rfl
  | signal | look | park =>
      obtain ⟨_, same⟩ := Option.ite_none_right_eq_some.mp enabled
      obtain rfl := Option.some.inj same
      exact .inl rfl
  | loop event =>
      obtain ⟨_, stepped⟩ := Option.ite_none_right_eq_some.mp enabled
      obtain ⟨loop, moved, rfl⟩ := Option.map_eq_some_iff.mp stepped
      exact .inr ⟨event, moved⟩
  | handle index =>
      obtain ⟨_, _, rfl⟩ := handle_eq_some enabled
      exact .inl rfl
  | connection index event =>
      obtain ⟨_, _, _, _, rfl⟩ := connectionStep_eq_some_iff.mp enabled
      exact .inl rfl
  | redirect event =>
      obtain ⟨_, _, _, _, rfl⟩ := redirectStep_eq_some enabled
      exact .inl rfl

/-- The whole server refines the accept loop and, for every connection, its select loop: whatever the
others do, each of them is at a state that it reaches alone. -/
theorem refines_parts (settings : Settings) (clock : Nat) (server : Lifecycle)
    (reachable : (machine settings clock).Reachable server) :
    (AcceptLoop.machine settings.toServerConfig).Reachable server.loop ∧
      (∀ state, Connection.handling state ∈ server.connections →
        state.Simulated settings.toServerConfig server.clock server.shutdown) ∧
      ∀ state, Connection.returned state ∈ server.connections →
        state.Reached settings.toServerConfig := by
  have both : server.Informed ∧ server.Simulated settings := by
    have start : (start settings clock).Informed ∧ (start settings clock).Simulated settings :=
      ⟨informed_start settings clock, by simp [Simulated, start]⟩
    apply (machine settings clock).reachable_invariant start _ reachable
    rintro before event after ⟨informed, simulated⟩ enabled
    exact ⟨informed.step enabled, simulated.step informed enabled⟩
  have loop : (AcceptLoop.machine settings.toServerConfig).Reachable server.loop :=
    reachable.project Lifecycle.loop rfl fun _ _ _ => loop_of_step
  exact ⟨loop, fun state => both.2 (.handling state), fun state => both.2 (.returned state)⟩

/-- The busy run reaches the drain with one connection under way. -/
theorem refines_parts_busy :
    ∃ server, (machine Settings.defaults 0).run (start Settings.defaults 0) busyShutdown = some server ∧
      (AcceptLoop.machine Settings.defaults.toServerConfig).Reachable server.loop ∧
      server.loop.phase = .loading ∧ server.connections = [.handling busyHandling] ∧
      (SelectLoop.machine Settings.defaults.toServerConfig 0).Reachable
        (busyHandling.view server.clock server.shutdown) ∧
      (busyHandling.view server.clock server.shutdown).shutdownChanged = true := by
  have ran : ((machine Settings.defaults 0).run (start Settings.defaults 0) busyShutdown).map
      (fun server => (server.loop.phase, server.connections,
        (busyHandling.view server.clock server.shutdown).shutdownChanged)) =
      some (.loading, [.handling busyHandling], true) := by decide +kernel
  obtain ⟨server, reached, facts⟩ := Option.map_eq_some_iff.mp ran
  obtain ⟨phase, facts⟩ := Prod.mk.inj facts
  obtain ⟨connections, changed⟩ := Prod.mk.inj facts
  obtain ⟨loop, handled, _⟩ := refines_parts Settings.defaults 0 server ⟨busyShutdown, reached⟩
  have simulated := handled busyHandling (by rw [connections]; exact List.mem_singleton.mpr rfl)
  exact ⟨server, reached, loop, phase, connections, simulated.present rfl, changed⟩

end Lifecycle

end HighperfServer
