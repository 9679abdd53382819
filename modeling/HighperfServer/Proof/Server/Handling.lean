import HighperfServer.Construction.Server.Lifecycle

namespace HighperfServer
open Library

namespace SelectLoop
variable {loop next : SelectLoop}

/-- The connection takes the step, not the select around it. -/
def Event.ofConnection : Event → Bool
  | .requestStart | .requestFinish _ | .connectionEnd => true
  | .elapse _ | .shutdownSend _ | .poll => false

/-- A step of the connection changes its requests or its readiness only. -/
theorem connection_frame {event : Event} (own : event.ofConnection = true)
    (moved : loop.step event = some next) :
    ∃ requests connReady, next = { loop with requests, connReady } ∧
      (event ≠ .connectionEnd → connReady = loop.connReady) := by
  obtain ⟨_, advanced⟩ := Option.ite_none_right_eq_some.mp moved
  cases event with
  | elapse | shutdownSend | poll => exact absurd own (by simp [Event.ofConnection])
  | requestStart =>
      obtain ⟨_, same⟩ := Option.ite_none_left_eq_some.mp advanced
      exact ⟨_, loop.connReady, (Option.some.inj same).symm, fun _ => rfl⟩
  | connectionEnd =>
      exact ⟨loop.requests, true, (Option.some.inj advanced).symm, fun other => absurd rfl other⟩
  | requestFinish index =>
      obtain ⟨_, found⟩ := Option.ite_none_left_eq_some.mp advanced
      obtain ⟨request, _, finished⟩ := Option.bind_eq_some_iff.mp found
      unfold finish at finished
      split at finished
      · exact ⟨_, loop.connReady, (Option.some.inj finished).symm, fun _ => rfl⟩
      · exact absurd finished (by simp)

/-- A ready connection ends the loop first. -/
theorem poll_of_ready (loop : SelectLoop) (ready : loop.connReady = true) :
    loop.poll = { loop with exited := some .connection } := if_pos ready

/-- A changed channel comes next, and its value decides on the graceful shutdown. -/
theorem poll_of_changed (loop : SelectLoop) (unready : loop.connReady = false)
    (calm : loop.graceful = false) (changed : loop.shutdownChanged = true) :
    loop.poll = { loop with shutdownChanged := false, graceful := loop.shutdownValue } := by
  simp [poll, unready, calm, changed]

/-- Past its first two branches the select polls the timer. -/
theorem poll_of_unchanged (loop : SelectLoop) (unready : loop.connReady = false)
    (deaf : loop.graceful = true ∨ loop.shutdownChanged = false) :
    loop.poll = if !loop.graceful && loop.kaTimeout ≤ loop.clock then
      { loop with exited := some .keepAlive } else loop := by
  rcases deaf with graceful | unchanged
  · simp [poll, unready, graceful]
  · simp [poll, unready, unchanged]

end SelectLoop

namespace Handling
variable {clock : Nat} {shutdown : Watch Bool} {state next : Handling}

@[simp] theorem view_connReady : (state.view clock shutdown).connReady = state.loop.connReady := rfl

@[simp] theorem view_graceful : (state.view clock shutdown).graceful = state.loop.graceful := rfl

@[simp] theorem view_exited : (state.view clock shutdown).exited = state.loop.exited := rfl

/-- The channel of a connection that is not in a poll is the channel of the server. -/
theorem channel_of_idle (idle : state.looked = none) : state.channel shutdown = shutdown := by
  rw [channel, idle]
  rfl

/-- The loop sees a change exactly when its receiver is behind. -/
theorem view_shutdownChanged : (state.view clock shutdown).shutdownChanged = true ↔
    state.receiver.seen ≠ (state.channel shutdown).version := by
  simp [view, Watch.changed]

/-- A loop that has not taken the change leaves its receiver as it is. -/
theorem update_unchanged {loop : SelectLoop}
    (same : loop.shutdownChanged = ((state.channel shutdown).changed state.receiver).isSome) :
    state.update shutdown loop = { state with loop } := by
  unfold update
  by_cases seen : state.receiver.seen = (state.channel shutdown).version
  · have unchanged : loop.shutdownChanged = false := by simp [same, Watch.changed, seen]
    simp [unchanged, ← seen]
  · have changed : loop.shutdownChanged = true := by simp [same, Watch.changed, seen]
    simp [changed]

/-- What a step of a handled connection does. -/
inductive Moves (clock : Nat) (shutdown : Watch Bool) (state : Handling) : Event → Handling → Prop where
  | works {event : Event} (early : event ≠ .look) (requests : List RequestSpan) (connReady : Bool)
      (open_ : ∀ seen, state.looked = some seen → connReady = state.loop.connReady) :
      Moves clock shutdown state event
        { state with loop := { state.view clock shutdown with requests, connReady } }
  | ends (idle : state.looked = none) (ready : state.loop.connReady = true) :
      Moves clock shutdown state .look
        { state with loop := { state.view clock shutdown with exited := some .connection } }
  | hears (idle : state.looked = none) (calm : state.loop.graceful = false)
      (unseen : state.receiver.seen ≠ shutdown.version) :
      Moves clock shutdown state .look
        { state with
          receiver := ⟨shutdown.version⟩
          loop := { state.view clock shutdown with
            shutdownChanged := false
            graceful := shutdown.value } }
  | looks (idle : state.looked = none) (unready : state.loop.connReady = false)
      (deaf : state.loop.graceful = true ∨ state.receiver.seen = shutdown.version) :
      Moves clock shutdown state .look { state with looked := some shutdown }
  | settles {seen : Watch Bool} (looked : state.looked = some seen) :
      Moves clock shutdown state .settle
        { state.update shutdown (state.view clock shutdown).poll with looked := none }

/-- A step of the connection below the select leaves the receiver alone. -/
theorem works_of_advance {inner : SelectLoop.Event} {event : Event} (early : event ≠ .look)
    (own : inner.ofConnection = true) (idle : inner = .connectionEnd → state.looked = none)
    (moved : state.advance clock shutdown inner = some next) :
    state.loop.exited = none ∧ state.Moves clock shutdown event next := by
  obtain ⟨loop, stepped, rfl⟩ := Option.map_eq_some_iff.mp moved
  obtain ⟨running, _⟩ := Option.ite_none_right_eq_some.mp stepped
  obtain ⟨requests, connReady, rfl, kept⟩ := SelectLoop.connection_frame own stepped
  refine ⟨running, ?_⟩
  rw [update_unchanged rfl]
  apply Moves.works early requests connReady
  intro seen looked
  refine kept fun same => ?_
  exact absurd ((idle same).symm.trans looked) (by simp)

/-- A poll of the view is one step of the select loop. -/
theorem poll_of_advance (moved : state.advance clock shutdown .poll = some next) :
    state.loop.exited = none ∧ next = state.update shutdown (state.view clock shutdown).poll := by
  obtain ⟨loop, stepped, rfl⟩ := Option.map_eq_some_iff.mp moved
  obtain ⟨running, same⟩ := Option.ite_none_right_eq_some.mp stepped
  obtain rfl := Option.some.inj same
  exact ⟨running, rfl⟩

/-- The first two branches of the select are the connection and the broadcast. -/
theorem moves_of_look (idle : state.looked = none) (moved : state.look clock shutdown = some next) :
    state.loop.exited = none ∧ state.Moves clock shutdown .look next := by
  have channel : state.channel shutdown = shutdown := channel_of_idle idle
  have heard : (state.view clock shutdown).shutdownChanged = true ↔
      state.receiver.seen ≠ shutdown.version := by rw [view_shutdownChanged, channel]
  unfold look at moved
  by_cases ready : state.loop.connReady = true
  · rw [if_pos (by simp [ready])] at moved
    obtain ⟨running, rfl⟩ := poll_of_advance moved
    rw [SelectLoop.poll_of_ready (state.view clock shutdown) ready, update_unchanged rfl]
    exact ⟨running, .ends idle ready⟩
  · rw [Bool.not_eq_true] at ready
    by_cases hears : state.loop.graceful = false ∧ state.receiver.seen ≠ shutdown.version
    · obtain ⟨calm, unseen⟩ := hears
      rw [if_pos (by simp [heard.mpr unseen, calm])] at moved
      obtain ⟨running, rfl⟩ := poll_of_advance moved
      rw [SelectLoop.poll_of_changed (state.view clock shutdown) ready calm (heard.mpr unseen)]
      refine ⟨running, ?_⟩
      have hears : state.Moves clock shutdown .look _ := .hears idle calm unseen
      simpa [update, view, channel] using hears
    · have deaf : state.loop.graceful = true ∨ state.receiver.seen = shutdown.version := by
        by_contra both
        rw [not_or, Bool.not_eq_true] at both
        exact hears both
      have closed : ¬ ((state.view clock shutdown).connReady ||
          !(state.view clock shutdown).graceful && (state.view clock shutdown).shutdownChanged) = true := by
        rcases deaf with graceful | seen
        · simp [ready, graceful]
        · simp [ready, heard, seen]
      rw [if_neg closed] at moved
      obtain ⟨running, same⟩ := Option.ite_none_right_eq_some.mp moved
      obtain rfl := Option.some.inj same
      exact ⟨running, .looks idle ready deaf⟩

/-- Every step of a running connection is one of its moves. -/
theorem moves_of_step {event : Event} (moved : state.step clock shutdown event = some next) :
    state.loop.exited = none ∧ state.Moves clock shutdown event next := by
  cases event with
  | requestStart => exact works_of_advance (by simp) rfl (by simp) moved
  | requestFinish index => exact works_of_advance (by simp) rfl (by simp) moved
  | connectionEnd =>
      obtain ⟨idle, advanced⟩ := Option.ite_none_right_eq_some.mp moved
      exact works_of_advance (by simp) rfl (fun _ => idle) advanced
  | look =>
      obtain ⟨idle, looked⟩ := Option.ite_none_right_eq_some.mp moved
      exact moves_of_look idle looked
  | settle =>
      obtain ⟨polling, settled⟩ := Option.ite_none_left_eq_some.mp moved
      obtain ⟨seen, looked⟩ := Option.ne_none_iff_exists'.mp polling
      obtain ⟨polled, advanced, rfl⟩ := Option.map_eq_some_iff.mp settled
      obtain ⟨running, rfl⟩ := poll_of_advance advanced
      exact ⟨running, .settles looked⟩

/-- A receiver has seen the broadcast exactly when its connection is graceful, and a poll under way
has found the channel as its receiver has seen it. -/
structure Informed (sent : Bool) (state : Handling) : Prop where
  receiver : state.receiver.seen = state.loop.graceful.toNat
  graceful : state.loop.graceful = true → sent = true
  looked : ∀ seen, state.looked = some seen → state.loop.connReady = false ∧
    seen.value = state.loop.graceful ∧ seen.version = state.loop.graceful.toNat

/-- A poll that has passed its first two branches times out or rests. -/
theorem settle_cases {seen : Watch Bool} {sent : Bool} (informed : state.Informed sent)
    (looked : state.looked = some seen) :
    state.loop.graceful = false ∧ state.update shutdown (state.view clock shutdown).poll =
      { state with loop := { state.view clock shutdown with exited := some .keepAlive } } ∨
    state.update shutdown (state.view clock shutdown).poll =
      { state with loop := state.view clock shutdown } := by
  obtain ⟨unready, _, version⟩ := informed.looked seen looked
  have channel : state.channel shutdown = seen := by
    rw [Handling.channel, looked]
    rfl
  have unchanged : (state.view clock shutdown).shutdownChanged = false := by
    rw [← Bool.not_eq_true, view_shutdownChanged, channel, version, informed.receiver]
    simp
  rw [SelectLoop.poll_of_unchanged (state.view clock shutdown) unready (.inr unchanged)]
  split
  · rename_i fires
    left
    refine ⟨?_, update_unchanged rfl⟩
    simp only [view_graceful, Bool.and_eq_true, Bool.not_eq_true'] at fires
    exact fires.1
  · exact .inr (update_unchanged rfl)

/-- The poll of the timer leaves the connection informed. -/
theorem Informed.poll {seen : Watch Bool} {sent : Bool} (informed : state.Informed sent) (clock : Nat)
    (shutdown : Watch Bool)
    (looked : state.looked = some seen) :
    (state.update shutdown (state.view clock shutdown).poll).Informed sent := by
  rcases settle_cases informed looked with ⟨_, same⟩ | same
  all_goals
    rw [same]
    exact ⟨informed.receiver, informed.graceful, informed.looked⟩

/-- A connection that takes a step stays informed. -/
theorem Informed.step {event : Event} {sent : Bool} (value : shutdown.value = sent)
    (version : shutdown.version = sent.toNat) (informed : state.Informed sent)
    (moved : state.step clock shutdown event = some next) : next.Informed sent := by
  obtain ⟨_, moves⟩ := moves_of_step moved
  cases moves with
  | works early requests connReady open_ =>
      refine ⟨informed.receiver, informed.graceful, ?_⟩
      intro seen looked
      obtain ⟨unready, found⟩ := informed.looked seen looked
      exact ⟨(open_ seen looked).trans unready, found⟩
  | ends idle ready => exact ⟨informed.receiver, informed.graceful, by simp [idle]⟩
  | hears idle calm unseen =>
      refine ⟨version.trans (by rw [value]), fun graceful => value.symm.trans graceful, by simp [idle]⟩
  | looks idle unready deaf =>
      refine ⟨informed.receiver, informed.graceful, ?_⟩
      rintro seen same
      obtain rfl := Option.some.inj same
      have known : state.loop.graceful = sent := by
        rcases deaf with graceful | current
        · rw [graceful, informed.graceful graceful]
        · rw [informed.receiver, version] at current
          revert current
          cases state.loop.graceful <;> cases sent <;> simp
      exact ⟨unready, by rw [value, known], by rw [version, known]⟩
  | settles looked =>
      have polled := informed.poll clock shutdown looked
      exact ⟨polled.receiver, polled.graceful, by simp⟩

/-- The timer closes a connection only in a poll that has found no change. -/
theorem looked_of_keepAlive {event : Event} {sent : Bool} (informed : state.Informed sent)
    (moved : state.step clock shutdown event = some next)
    (closed : next.loop.exited = some .keepAlive) :
    ∃ seen, state.looked = some seen ∧ seen.version = 0 := by
  obtain ⟨running, moves⟩ := moves_of_step moved
  cases moves with
  | works | hears => exact absurd (running.symm.trans closed) (by simp)
  | ends => exact absurd closed (by simp)
  | looks => exact absurd (running.symm.trans closed) (by simp)
  | settles looked =>
      obtain ⟨_, _, version⟩ := informed.looked _ looked
      refine ⟨_, looked, ?_⟩
      rcases settle_cases informed looked with ⟨calm, _⟩ | same
      · rw [version, calm]
        rfl
      · rw [same] at closed
        exact absurd (running.symm.trans closed) (by simp)

/-- A poll under way began before or begins now. -/
theorem looked_of_step {event : Event} (moved : state.step clock shutdown event = some next)
    {seen : Watch Bool} (looked : next.looked = some seen) : state.looked = some seen ∨ seen = shutdown := by
  obtain ⟨_, moves⟩ := moves_of_step moved
  cases moves with
  | works | ends | hears => exact .inl looked
  | looks => exact .inr (Option.some.inj looked).symm
  | settles => exact absurd looked (by simp)

/-- A poll that begins after the broadcast makes the connection graceful unless it has ended. -/
theorem graceful_of_look (clock : Nat) (value : shutdown.value = true) (version : shutdown.version = 1)
    (informed : state.Informed true) (running : state.loop.exited = none)
    (idle : state.looked = none) :
    ∃ next, state.step clock shutdown .look = some next ∧
      (next.loop.graceful = true ∨ next.loop.exited = some .connection) := by
  obtain ⟨next, moved⟩ : ∃ next, state.step clock shutdown .look = some next := by
    change ∃ next, (if state.looked = none then state.look clock shutdown else none) = some next
    rw [if_pos idle, look]
    split
    · rw [advance, SelectLoop.step, view_exited, if_pos running]
      exact ⟨_, rfl⟩
    · exact ⟨_, if_pos running⟩
  refine ⟨next, moved, ?_⟩
  obtain ⟨_, moves⟩ := moves_of_step moved
  cases moves with
  | works early => exact absurd rfl early
  | ends => exact .inr rfl
  | hears => exact .inl value
  | looks _ _ deaf =>
      left
      rcases deaf with graceful | seen
      · exact graceful
      · rw [informed.receiver, version] at seen
        exact Bool.toNat_eq_one.mp seen

end Handling

namespace RedirectListener
variable {clock : Nat} {shutdown : Watch Bool} {listener next : RedirectListener}

/-- The connections that the listener has spawned, with the one that its poll under way may spawn. -/
def committed (listener : RedirectListener) : Nat :=
  listener.spawned + if listener.phase = .accepting then 1 else 0

/-- A stopped listener takes no step. -/
theorem active_of_step {event : Event} (moved : listener.step clock shutdown event = some next) :
    listener.phase ≠ .stopped := by
  cases event with
  | bind | look | settle =>
      obtain ⟨phase, _⟩ := Option.ite_none_right_eq_some.mp moved
      simp [phase]
  | wake =>
      obtain ⟨⟨phase, _⟩, _⟩ := Option.ite_none_right_eq_some.mp moved
      simp [phase]

/-- A listener that goes on has seen no change, and after the broadcast it begins no other poll of its
socket. -/
theorem unseen_of_step {event : Event} {sent : Bool} (value : shutdown.value = sent)
    (version : shutdown.version = sent.toNat) (unseen : listener.receiver.seen = 0)
    (moved : listener.step clock shutdown event = some next) :
    (next.phase ≠ .stopped → next.receiver.seen = 0) ∧
      (sent = true → next.committed ≤ listener.committed) := by
  cases event with
  | bind bound =>
      obtain ⟨phase, same⟩ := Option.ite_none_right_eq_some.mp moved
      obtain rfl := Option.some.inj same
      refine ⟨fun _ => unseen, fun _ => ?_⟩
      cases bound <;> simp [committed]
  | wake =>
      obtain ⟨_, same⟩ := Option.ite_none_right_eq_some.mp moved
      obtain rfl := Option.some.inj same
      exact ⟨fun _ => unseen, fun _ => by simp [committed]⟩
  | look =>
      obtain ⟨_, same⟩ := Option.ite_none_right_eq_some.mp moved
      obtain rfl := Option.some.inj same
      unfold look Watch.changed
      rw [version, unseen]
      cases sent with
      | true => simp [value, committed]
      | false => simp [unseen]
  | settle incoming =>
      obtain ⟨phase, same⟩ := Option.ite_none_right_eq_some.mp moved
      obtain rfl := Option.some.inj same
      cases incoming <;> simp [settle, committed, unseen, phase]

end RedirectListener

end HighperfServer
