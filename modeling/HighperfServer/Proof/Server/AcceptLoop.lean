import HighperfServer.Proof.Server.Connections

namespace HighperfServer
open Library

/-- The loop still accepts or will accept again. -/
def LoopPhase.accepts : LoopPhase → Bool
  | .accepting | .backingOff => true
  | _ => false

/-- The drain has not created its waiting future. -/
def LoopPhase.beforeWait : LoopPhase → Bool
  | .waiting | .returned _ => false
  | _ => true

namespace AcceptLoop

/-- Some task has counted down to zero and not yet notified. -/
def Notifying (loop : AcceptLoop) : Prop := ∃ task ∈ loop.tasks, task.stage = .notifying

/-- A drain that did not time out leaves no connection behind. -/
def DrainSound (loop : AcceptLoop) : Prop :=
  ∀ outcome, loop.phase = .returned outcome → outcome ≠ .timedOut →
    loop.inFlight = 0 ∧ ∀ task ∈ loop.tasks, task.stage.isOpen = false

/-- No notification of an earlier quiet moment is stored or under way while connections are open. -/
def NoStaleSignal (loop : AcceptLoop) : Prop :=
  loop.inFlight = 0 ∨ (loop.allDrained.permit = false ∧ ¬ loop.Notifying)

/-- The shutdown comes when no stale notification is around. -/
def CleanShutdown (loop : AcceptLoop) (event : Event) : Prop :=
  event = .shutdown → loop.NoStaleSignal

/-- A signal means that every connection has ended. -/
def Settled (loop : AcceptLoop) : Prop :=
  loop.allDrained.Signalled ∨ loop.Notifying → loop.inFlight = 0

/-- The counter, the notification and the phase agree. -/
structure DrainInvariant (loop : AcceptLoop) : Prop where
  counted : loop.inFlight = loop.openTasks
  idle : loop.phase.beforeWait = true → loop.allDrained.waiter = .idle
  settled : loop.phase.accepts = false → loop.Settled
  emptied : ∀ outcome, loop.phase = .returned outcome → outcome ≠ .timedOut → loop.inFlight = 0

section Drain
variable {loop next : AcceptLoop}

/-- The drain moves on before its wait, and returns then only with an empty counter. -/
def MovesOn (loop next : AcceptLoop) : Prop :=
  loop.phase.beforeWait = true ∧ ∃ phase sent, phase.accepts = false ∧
    (∀ outcome, phase = .returned outcome → loop.inFlight = 0) ∧
    next = { loop with phase, shutdownSent := sent }

/-- A step of the drain polls the notification or moves on before its wait. -/
theorem drain_cases (moved : loop.drain = some next) :
    loop.phase.accepts = false ∧
      ((loop.phase = .waiting ∧ next = loop.pollDrained) ∨ loop.MovesOn next) := by
  unfold drain at moved
  cases phase : loop.phase with
  | accepting | backingOff | returned outcome =>
      rw [phase] at moved
      exact absurd moved (by simp)
  | waiting =>
      rw [phase] at moved
      exact ⟨rfl, .inl ⟨rfl, (Option.some.inj moved).symm⟩⟩
  | stopped =>
      rw [phase] at moved
      refine ⟨rfl, .inr ⟨by rw [phase]; rfl, _, _, ?_, ?_, (Option.some.inj moved).symm⟩⟩
      · split <;> rfl
      · intro outcome returned
        split at returned <;> exact absurd returned (by simp)
  | settling | signalling =>
      rw [phase] at moved
      refine ⟨rfl, .inr ⟨by rw [phase]; rfl, _, _, rfl, ?_, (Option.some.inj moved).symm⟩⟩
      intro outcome returned
      exact absurd returned (by simp)
  | loading | rechecking =>
      rw [phase] at moved
      refine ⟨rfl, .inr ⟨by rw [phase]; rfl, _, _, ?_, ?_, (Option.some.inj moved).symm⟩⟩
      · split <;> rfl
      · intro outcome returned
        split at returned
        · exact absurd returned (by simp)
        · omega

end Drain

section Stages
variable {loop : AcceptLoop} {index : Nat} {task : ConnectionTask}

/-- Only a change to the notifying stage creates a notifying task. -/
theorem Notifying.of_setStage {stage : TaskStage} (different : stage ≠ .notifying)
    (after : (loop.setStage index task stage).Notifying) : loop.Notifying := by
  obtain ⟨other, member, notifies⟩ := after
  rcases List.mem_or_eq_of_mem_set member with earlier | new
  · exact ⟨other, earlier, notifies⟩
  · rw [new] at notifies
    exact absurd notifies different

theorem notifying_of_present (present : loop.tasks[index]? = some task)
    (stage : task.stage = .notifying) : loop.Notifying :=
  ⟨task, List.mem_of_getElem? present, stage⟩

end Stages

/-- A step of a task keeps the invariant when it keeps its three parts. -/
theorem DrainInvariant.of_task {loop next : AcceptLoop} (holds : loop.DrainInvariant)
    (samePhase : next.phase = loop.phase) (counted : next.inFlight = next.openTasks)
    (fewer : next.inFlight ≤ loop.inFlight)
    (idle : loop.allDrained.waiter = .idle → next.allDrained.waiter = .idle)
    (settled : loop.Settled → next.Settled) : next.DrainInvariant where
  counted := counted
  idle := by
    intro before
    rw [samePhase] at before
    exact idle (holds.idle before)
  settled := by
    intro stopped
    rw [samePhase] at stopped
    exact settled (holds.settled stopped)
  emptied := by
    intro outcome returned untimed
    rw [samePhase] at returned
    have empty := holds.emptied outcome returned untimed
    omega

/-- A stage change that notifies nobody keeps the invariant. -/
theorem DrainInvariant.setStage {loop : AcceptLoop} (holds : loop.DrainInvariant) {index : Nat}
    {task : ConnectionTask} {stage : TaskStage} (different : stage ≠ .notifying)
    (counted : loop.inFlight = (loop.setStage index task stage).openTasks) :
    (loop.setStage index task stage).DrainInvariant := by
  apply holds.of_task
  · rfl
  · exact counted
  · exact Nat.le_refl _
  · exact id
  · intro settled signal
    apply settled
    rcases signal with signalled | notifying
    · exact .inl signalled
    · exact .inr (notifying.of_setStage different)

section TaskSteps
variable {loop next : AcceptLoop} {index : Nat} {task : ConnectionTask}

/-- The handshake of a task keeps the drain invariant. -/
theorem DrainInvariant.handshake (holds : loop.DrainInvariant) {accepted : Bool}
    (counted : next.inFlight = next.openTasks)
    (moved : loop.handshake index accepted task = some next) : next.DrainInvariant := by
  obtain ⟨stage, rfl⟩ := handshake_eq_some_iff.mp moved
  cases accepted <;> exact holds.setStage (by simp) counted

/-- The end of a connection keeps the drain invariant. -/
theorem DrainInvariant.serve (holds : loop.DrainInvariant)
    (counted : next.inFlight = next.openTasks)
    (moved : loop.serve index task = some next) : next.DrainInvariant := by
  obtain ⟨stage, rfl⟩ := serve_eq_some_iff.mp moved
  exact holds.setStage (by simp) counted

/-- A task that counts itself out either empties the counter or is not the last. -/
theorem DrainInvariant.decrement (holds : loop.DrainInvariant)
    (counted : next.inFlight = next.openTasks)
    (moved : loop.decrement index task = some next) : next.DrainInvariant := by
  obtain ⟨stage, rfl⟩ := decrement_eq_some_iff.mp moved
  apply holds.of_task
  · rfl
  · exact counted
  · exact Nat.sub_le _ _
  · exact id
  · intro settled signal
    by_cases last : loop.inFlight = 1
    · simp [last]
    · have empty : loop.inFlight = 0 := by
        apply settled
        rcases signal with signalled | notifying
        · exact .inl signalled
        · rw [if_neg last] at notifying
          exact .inr (Notifying.of_setStage (by simp) notifying)
      simp [empty]

/-- A notification keeps the drain invariant. -/
theorem DrainInvariant.notify (holds : loop.DrainInvariant)
    (present : loop.tasks[index]? = some task) (counted : next.inFlight = next.openTasks)
    (moved : loop.notify index task = some next) : next.DrainInvariant := by
  obtain ⟨stage, rfl⟩ := notify_eq_some_iff.mp moved
  apply holds.of_task
  · rfl
  · exact counted
  · exact Nat.le_refl _
  · intro idle
    simp only [Notify.notifyOne, idle]
  · intro settled _
    exact settled (.inr (notifying_of_present present stage))

/-- The end of a task keeps the drain invariant. -/
theorem DrainInvariant.release (holds : loop.DrainInvariant)
    (counted : next.inFlight = next.openTasks)
    (moved : loop.release index task = some next) : next.DrainInvariant := by
  obtain ⟨stage, rfl⟩ := release_eq_some_iff.mp moved
  have kept : (loop.setStage index task .finished).DrainInvariant :=
    holds.setStage (by simp) counted
  exact ⟨kept.counted, kept.idle, kept.settled, kept.emptied⟩

end TaskSteps

/-- A ready poll finds every connection ended. -/
theorem DrainInvariant.pollDrained {loop : AcceptLoop} (holds : loop.DrainInvariant)
    (phase : loop.phase = .waiting) : loop.pollDrained.DrainInvariant := by
  have settled : loop.Settled := holds.settled (by rw [phase]; rfl)
  refine ⟨holds.counted, ?_, ?_, ?_⟩
  · intro before
    simp only [AcceptLoop.pollDrained] at before
    by_cases ready : loop.allDrained.poll.1 = true
    · rw [if_pos ready] at before
      exact absurd before (by simp [LoopPhase.beforeWait])
    · rw [if_neg ready] at before
      exact absurd before (by simp [LoopPhase.beforeWait])
  · intro _ signal
    apply settled
    rcases signal with signalled | notifying
    · exact .inl signalled.before_poll
    · exact .inr notifying
  · intro outcome returned _
    simp only [AcceptLoop.pollDrained] at returned
    by_cases ready : loop.allDrained.poll.1 = true
    · exact settled (.inl (Notify.Signalled.of_poll ready))
    · rw [if_neg ready] at returned
      exact absurd returned (by simp)

/-- A drain that moves on before its wait keeps the signals as they are. -/
theorem DrainInvariant.drain {loop next : AcceptLoop} (holds : loop.DrainInvariant)
    (moved : loop.drain = some next) : next.DrainInvariant := by
  obtain ⟨stopped, polled | movedOn⟩ := drain_cases moved
  · obtain ⟨phase, rfl⟩ := polled
    exact holds.pollDrained phase
  · obtain ⟨before, phase, sent, _, emptied, rfl⟩ := movedOn
    exact ⟨holds.counted, fun _ => holds.idle before, fun _ => holds.settled stopped,
      fun outcome returned _ => emptied outcome returned⟩

/-- The timeout of the drain keeps the invariant. -/
theorem DrainInvariant.drainTimeout {loop next : AcceptLoop} (holds : loop.DrainInvariant)
    (moved : loop.drainTimeout = some next) : next.DrainInvariant := by
  obtain ⟨phase, _, rfl⟩ := drainTimeout_eq_some_iff.mp moved
  refine ⟨holds.counted, ?_, ?_, ?_⟩
  · intro before
    exact absurd before (by simp [LoopPhase.beforeWait])
  · intro _ signal
    apply holds.settled (by rw [phase]; rfl)
    rcases signal with signalled | notifying
    · exact .inl signalled.before_poll
    · exact .inr notifying
  · intro outcome returned untimed
    exact absurd (LoopPhase.returned.inj returned).symm untimed

/-- An accepted socket comes before the drain and touches no notification. -/
theorem DrainInvariant.acceptSocket {loop : AcceptLoop} (holds : loop.DrainInvariant)
    (accepting : loop.phase = .accepting) (config : ServerConfig) (peer : IpAddr)
    (counted : (loop.acceptSocket config peer).inFlight = (loop.acceptSocket config peer).openTasks) :
    (loop.acceptSocket config peer).DrainInvariant := by
  obtain ⟨phase, notify⟩ := acceptSocket_frame config loop peer
  rw [accepting] at phase
  refine ⟨counted, ?_, ?_, ?_⟩
  · intro _
    rw [notify]
    exact holds.idle (by rw [accepting]; rfl)
  · intro stopped
    rw [phase] at stopped
    exact absurd stopped (by simp [LoopPhase.accepts])
  · intro outcome returned
    rw [phase] at returned
    exact absurd returned (by simp)

/-- Every step keeps the invariant when the shutdown comes clean. -/
theorem DrainInvariant.step {config : ServerConfig} {loop next : AcceptLoop} {event : Event}
    (holds : loop.DrainInvariant) (clean : loop.CleanShutdown event)
    (enabled : loop.step config event = some next) : next.DrainInvariant := by
  have counted := (effect_of_step enabled).counted holds.counted
  cases event with
  | accept peer =>
      obtain ⟨phase, same⟩ := Option.ite_none_right_eq_some.mp enabled
      obtain rfl := Option.some.inj same
      exact holds.acceptSocket phase config peer counted
  | acceptError | wake =>
      obtain ⟨phase, same⟩ := Option.ite_none_right_eq_some.mp enabled
      obtain rfl := Option.some.inj same
      exact ⟨holds.counted, fun _ => holds.idle (by rw [phase]; rfl), fun stopped =>
        absurd stopped (by simp [LoopPhase.accepts]), fun _ returned => absurd returned (by simp)⟩
  | shutdown =>
      obtain ⟨phase, same⟩ := Option.ite_none_right_eq_some.mp enabled
      obtain rfl := Option.some.inj same
      have idle : loop.allDrained.waiter = .idle := holds.idle (by rw [phase]; rfl)
      refine ⟨holds.counted, fun _ => idle, ?_, fun _ returned => absurd returned (by simp)⟩
      intro _ signal
      rcases clean rfl with empty | ⟨noPermit, noNotifying⟩
      · exact empty
      · rcases signal with signalled | notifying
        · exact absurd signalled (by simp [Notify.Signalled, noPermit, idle])
        · exact absurd notifying noNotifying
  | handshake index accepted =>
      obtain ⟨task, present, moved⟩ := Option.bind_eq_some_iff.mp enabled
      exact holds.handshake counted moved
  | serve index =>
      obtain ⟨task, present, moved⟩ := Option.bind_eq_some_iff.mp enabled
      exact holds.serve counted moved
  | decrement index =>
      obtain ⟨task, present, moved⟩ := Option.bind_eq_some_iff.mp enabled
      exact holds.decrement counted moved
  | notify index =>
      obtain ⟨task, present, moved⟩ := Option.bind_eq_some_iff.mp enabled
      exact holds.notify present counted moved
  | release index =>
      obtain ⟨task, present, moved⟩ := Option.bind_eq_some_iff.mp enabled
      exact holds.release counted moved
  | drain => exact holds.drain enabled
  | drainTimeout => exact holds.drainTimeout enabled

/-- The accept loop starts with its drain invariant. -/
theorem drainInvariant_start (config : ServerConfig) : (start config).DrainInvariant where
  counted := rfl
  idle := fun _ => rfl
  settled := fun stopped => absurd stopped (by simp [start, LoopPhase.accepts])
  emptied := fun _ returned => absurd returned (by simp [start])

/-- An empty counter means that every task has counted itself out. -/
theorem DrainInvariant.sound {loop : AcceptLoop} (holds : loop.DrainInvariant) : loop.DrainSound := by
  intro outcome returned untimed
  have empty := holds.emptied outcome returned untimed
  refine ⟨empty, ?_⟩
  intro task member
  have none : loop.tasks.countP (·.stage.isOpen) = 0 := holds.counted.symm.trans empty
  exact Bool.eq_false_iff.mpr (List.countP_eq_zero.mp none task member)

/-- The loop never accepts again once it has stopped. -/
theorem step_stopped {config : ServerConfig} {loop next : AcceptLoop} {event : Event}
    (stopped : loop.phase.accepts = false) (enabled : loop.step config event = some next) :
    next.phase.accepts = false := by
  have notAccepting : loop.phase ≠ .accepting := by
    intro phase
    rw [phase] at stopped
    exact absurd stopped (by simp [LoopPhase.accepts])
  have notBackingOff : loop.phase ≠ .backingOff := by
    intro phase
    rw [phase] at stopped
    exact absurd stopped (by simp [LoopPhase.accepts])
  cases event with
  | accept _ => exact absurd (Option.ite_none_right_eq_some.mp enabled).1 notAccepting
  | acceptError => exact absurd (Option.ite_none_right_eq_some.mp enabled).1 notAccepting
  | wake => exact absurd (Option.ite_none_right_eq_some.mp enabled).1 notBackingOff
  | shutdown => exact absurd (Option.ite_none_right_eq_some.mp enabled).1 notAccepting
  | handshake | serve | decrement | notify | release =>
      obtain ⟨task, stage, inFlight, notify, limit, _, rfl⟩ := task_frame rfl enabled
      exact stopped
  | drain =>
      obtain ⟨_, ⟨_, rfl⟩ | ⟨_, phase, sent, later, _, rfl⟩⟩ := drain_cases enabled
      · by_cases ready : loop.allDrained.poll.1 = true <;>
          simp [pollDrained, ready, LoopPhase.accepts]
      · exact later
  | drainTimeout =>
      obtain ⟨_, _, rfl⟩ := drainTimeout_eq_some_iff.mp enabled
      rfl

/-- While the loop accepts, the invariant needs no assumption about the shutdown. -/
theorem drainInvariant_of_accepts {config : ServerConfig} {loop : AcceptLoop}
    (reachable : (machine config).Reachable loop) (accepts : loop.phase.accepts = true) :
    loop.DrainInvariant := by
  have preserved (state : AcceptLoop) (event : Event) (next : AcceptLoop)
      (holds : state.phase.accepts = true → state.DrainInvariant)
      (enabled : state.step config event = some next) :
      next.phase.accepts = true → next.DrainInvariant := by
    intro nextAccepts
    have accepted : state.phase.accepts = true := by
      by_contra stopped
      have later := step_stopped (Bool.eq_false_iff.mpr stopped) enabled
      rw [nextAccepts] at later
      exact absurd later (by simp)
    apply (holds accepted).step _ enabled
    intro shutdown
    subst shutdown
    obtain ⟨_, same⟩ := Option.ite_none_right_eq_some.mp enabled
    obtain rfl := Option.some.inj same
    exact absurd nextAccepts (by simp [LoopPhase.accepts])
  exact (machine config).reachable_invariant (fun _ => drainInvariant_start config) preserved
    reachable accepts

/-- The steps of the drain up to its first poll of the notification. -/
def drainSteps : List Event := [.drain, .drain, .drain, .drain, .drain, .drain]

/-- A stored permit ends the drain at its first poll, whatever the counter says. -/
theorem run_drain_of_permit {config : ServerConfig} {loop : AcceptLoop}
    (phase : loop.phase = .stopped) (busy : loop.inFlight > 0)
    (stored : loop.allDrained.permit = true) (idle : loop.allDrained.waiter = .idle) :
    ∃ final, (machine config).run loop drainSteps = some final ∧
      final.phase = .returned .drained ∧ final.inFlight = loop.inFlight := by
  have ready := Notify.poll_of_permit stored idle
  let final : AcceptLoop :=
    { loop with
      shutdownSent := true
      allDrained := loop.allDrained.poll.2
      phase := .returned .drained }
  refine ⟨final, ?_, rfl, rfl⟩
  simp [drainSteps, machine, step, drain, phase, busy, pollDrained, ready, final]

/-- A task that notifies before the drain waits stores the permit. -/
theorem run_notify_drain {config : ServerConfig} {loop : AcceptLoop}
    (phase : loop.phase = .stopped) (busy : loop.inFlight > 0) (notifying : loop.Notifying)
    (idle : loop.allDrained.waiter = .idle) :
    ∃ index final, (machine config).run loop (.notify index :: drainSteps) = some final ∧
      final.phase = .returned .drained ∧ final.inFlight = loop.inFlight := by
  obtain ⟨task, member, stage⟩ := notifying
  obtain ⟨index, present⟩ := List.mem_iff_getElem?.mp member
  let notified : AcceptLoop :=
    { loop.setStage index task .dropping with allDrained := loop.allDrained.notifyOne }
  have enabled : (machine config).step loop (.notify index) = some notified := by
    change (loop.tasks[index]?).bind (loop.notify index) = _
    rw [present, Option.bind_some, AcceptLoop.notify, stage]
  have permit : notified.allDrained.permit = true := by
    simp [notified, Notify.notifyOne, idle]
  have stillIdle : notified.allDrained.waiter = .idle := by
    simp [notified, Notify.notifyOne, idle]
  have drained : ∃ final, (machine config).run notified drainSteps = some final ∧
      final.phase = .returned .drained ∧ final.inFlight = notified.inFlight :=
    run_drain_of_permit phase busy permit stillIdle
  obtain ⟨final, ran, returned, same⟩ := drained
  exact ⟨index, final, (machine config).run_step enabled ran, returned, same⟩

/-- A stale notification lets the drain end while connections are open. -/
theorem exists_unsound_of_stale (config : ServerConfig) {loop : AcceptLoop}
    (holds : loop.DrainInvariant) (phase : loop.phase = .accepting) (stale : ¬ loop.NoStaleSignal) :
    ∃ events final, (machine config).run loop (.shutdown :: events) = some final ∧
      ¬ final.DrainSound := by
  have unsound (final : AcceptLoop) (returned : final.phase = .returned .drained)
      (same : final.inFlight = loop.inFlight) (busy : loop.inFlight > 0) : ¬ final.DrainSound := by
    intro sound
    have empty := (sound .drained returned (by simp)).1
    omega
  have idle : loop.allDrained.waiter = .idle := holds.idle (by rw [phase]; rfl)
  have enabled : (machine config).step loop .shutdown = some { loop with phase := .stopped } :=
    if_pos phase
  unfold NoStaleSignal at stale
  have busy : loop.inFlight > 0 := by omega
  by_cases stored : loop.allDrained.permit = true
  · have drained : ∃ final, (machine config).run { loop with phase := .stopped } drainSteps =
        some final ∧ final.phase = .returned .drained ∧ final.inFlight = loop.inFlight :=
      run_drain_of_permit rfl busy stored idle
    obtain ⟨final, ran, returned, same⟩ := drained
    exact ⟨drainSteps, final, (machine config).run_step enabled ran,
      unsound final returned same busy⟩
  · have notifying : loop.Notifying := by
      by_contra quiet
      exact stale (.inr ⟨Bool.eq_false_iff.mpr stored, quiet⟩)
    have drained : ∃ index final, (machine config).run { loop with phase := .stopped }
        (.notify index :: drainSteps) = some final ∧ final.phase = .returned .drained ∧
          final.inFlight = loop.inFlight :=
      run_notify_drain rfl busy notifying idle
    obtain ⟨index, final, ran, returned, same⟩ := drained
    exact ⟨.notify index :: drainSteps, final, (machine config).run_step enabled ran,
      unsound final returned same busy⟩

/-- After a clean shutdown every continuation of the run is sound. -/
theorem sound_of_noStale {config : ServerConfig} {loop final : AcceptLoop} {events : List Event}
    (holds : loop.DrainInvariant) (clean : loop.NoStaleSignal)
    (ran : (machine config).run loop (.shutdown :: events) = some final) : final.DrainSound := by
  obtain ⟨stopped, enabled, tail⟩ := Option.bind_eq_some_iff.mp ran
  change loop.step config .shutdown = some stopped at enabled
  have first : stopped.DrainInvariant ∧ stopped.phase.accepts = false := by
    refine ⟨holds.step (fun _ => clean) enabled, ?_⟩
    obtain ⟨_, same⟩ := Option.ite_none_right_eq_some.mp enabled
    obtain rfl := Option.some.inj same
    rfl
  have preserved (state : AcceptLoop) (event : Event) (next : AcceptLoop)
      (kept : state.DrainInvariant ∧ state.phase.accepts = false)
      (enabled : state.step config event = some next) :
      next.DrainInvariant ∧ next.phase.accepts = false := by
    refine ⟨kept.1.step ?_ enabled, step_stopped kept.2 enabled⟩
    intro shutdown
    subst shutdown
    have accepting := (Option.ite_none_right_eq_some.mp enabled).1
    rw [accepting] at kept
    exact absurd kept.2 (by simp [LoopPhase.accepts])
  exact ((machine config).run_invariant preserved first tail).1.sound

/-- Every run with a clean shutdown drains soundly, and a shutdown is clean exactly when no run
after it can leave the drain early. -/
theorem drain_sound_iff_clean (config : ServerConfig) :
    (∀ events, (machine config).Meets CleanShutdown (machine config).initial events →
      (machine config).Always DrainSound (machine config).initial events) ∧
    (∀ loop, (machine config).Reachable loop → loop.phase = .accepting →
      (loop.NoStaleSignal ↔ ∀ events final,
        (machine config).run loop (.shutdown :: events) = some final → final.DrainSound)) := by
  constructor
  · intro events meets
    exact meets.always (fun _ _ _ holds clean enabled => holds.step clean enabled)
      (fun _ holds => holds.sound) (drainInvariant_start config)
  · intro loop reachable phase
    have holds : loop.DrainInvariant :=
      drainInvariant_of_accepts reachable (by rw [phase]; rfl)
    constructor
    · intro clean events final ran
      exact sound_of_noStale holds clean ran
    · intro sound
      by_contra stale
      obtain ⟨events, final, ran, unsound⟩ := exists_unsound_of_stale config holds phase stale
      exact unsound (sound events final ran)

/-- One connection ends before the shutdown and a second is still open. -/
def staleRun : List Event :=
  [.accept (.v4 0x7f000001#32), .serve 0, .decrement 0, .notify 0, .release 0,
    .accept (.v4 0x7f000001#32), .shutdown, .drain, .drain, .drain, .drain, .drain, .drain]

/-- The permit of the first connection ends the drain while the second is served. -/
theorem drain_unsound_stale :
    ((machine ServerConfig.defaults).run (machine ServerConfig.defaults).initial staleRun).map
      (fun loop => (loop.phase, loop.inFlight, loop.tasks.map ConnectionTask.stage)) =
        some (.returned .drained, 1, [.finished, .serving]) := by
  decide

end AcceptLoop

end HighperfServer
