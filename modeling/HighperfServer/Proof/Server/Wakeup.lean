import HighperfServer.Proof.Server.AcceptLoop

namespace HighperfServer.AcceptLoop
open Library

/-- A drain that waits without connections is signalled or about to be. -/
structure WakeInvariant (loop : AcceptLoop) : Prop where
  counted : loop.inFlight = loop.openTasks
  coherent : loop.allDrained.Coherent
  signalled : loop.phase = .waiting → loop.inFlight = 0 → loop.allDrained.Signalled ∨ loop.Notifying

section Steps
variable {loop next : AcceptLoop} {index : Nat} {task : ConnectionTask}

/-- A task that is not notifying itself leaves the notifying tasks alone. -/
theorem Notifying.setStage (notifying : loop.Notifying) (present : loop.tasks[index]? = some task)
    (different : task.stage ≠ .notifying) (stage : TaskStage) :
    (loop.setStage index task stage).Notifying := by
  obtain ⟨other, member, notifies⟩ := notifying
  obtain ⟨position, found⟩ := List.mem_iff_getElem?.mp member
  have apart : index ≠ position := by
    intro same
    rw [same, found] at present
    rw [Option.some.inj present] at notifies
    exact different notifies
  refine ⟨other, ?_, notifies⟩
  apply List.mem_of_getElem?
  change (loop.tasks.set index _)[position]? = some other
  rw [List.getElem?_set_ne apart, found]

/-- A stage change of a task that is not notifying keeps the wake-up. -/
theorem WakeInvariant.setStage (holds : loop.WakeInvariant)
    (present : loop.tasks[index]? = some task) (different : task.stage ≠ .notifying)
    {stage : TaskStage} (counted : loop.inFlight = (loop.setStage index task stage).openTasks) :
    (loop.setStage index task stage).WakeInvariant where
  counted := counted
  coherent := holds.coherent
  signalled := by
    intro waiting empty
    rcases holds.signalled waiting empty with signalled | notifying
    · exact .inl signalled
    · exact .inr (notifying.setStage present different stage)

/-- The task that empties the counter is the one that notifies. -/
theorem WakeInvariant.decrement (holds : loop.WakeInvariant)
    (present : loop.tasks[index]? = some task) (counted : next.inFlight = next.openTasks)
    (moved : loop.decrement index task = some next) : next.WakeInvariant := by
  obtain ⟨stage, rfl⟩ := decrement_eq_some_iff.mp moved
  have positive : 0 < loop.inFlight := inFlight_pos holds.counted present (by rw [stage]; rfl)
  refine ⟨counted, holds.coherent, ?_⟩
  intro _ empty
  have last : loop.inFlight = 1 := by
    change loop.inFlight - 1 = 0 at empty
    omega
  right
  refine ⟨{ task with stage := .notifying }, ?_, rfl⟩
  rw [if_pos last]
  exact List.mem_set (List.getElem?_eq_some_iff.mp present).1 _

/-- A notification establishes the wake-up invariant. -/
theorem wakeInvariant_notify (counted : next.inFlight = next.openTasks)
    (moved : loop.notify index task = some next) : next.WakeInvariant := by
  obtain ⟨_, rfl⟩ := notify_eq_some_iff.mp moved
  exact ⟨counted, loop.allDrained.notifyOne_coherent, fun _ _ =>
    .inl loop.allDrained.notifyOne_signalled⟩

/-- The drain starts to wait only when it has loaded a positive counter. -/
theorem inFlight_pos_of_drain (moved : loop.drain = some next)
    (before : loop.phase.beforeWait = true) (waiting : next.phase = .waiting) :
    0 < next.inFlight := by
  unfold drain at moved
  cases phase : loop.phase with
  | accepting | backingOff =>
      rw [phase] at moved
      exact absurd moved (by simp)
  | waiting | returned outcome =>
      rw [phase] at before
      exact absurd before (by simp [LoopPhase.beforeWait])
  | settling | signalling =>
      rw [phase] at moved
      obtain rfl := Option.some.inj moved
      exact absurd waiting (by simp)
  | stopped =>
      rw [phase] at moved
      obtain rfl := Option.some.inj moved
      by_cases busy : loop.inFlight > 0
      · exact busy
      · simp [busy] at waiting
  | loading | rechecking =>
      rw [phase] at moved
      obtain rfl := Option.some.inj moved
      by_cases busy : loop.inFlight > 0
      · exact busy
      · simp [busy] at waiting

/-- A poll that is not ready found no signal, so a task is about to notify. -/
theorem WakeInvariant.pollDrained (holds : loop.WakeInvariant) (phase : loop.phase = .waiting) :
    loop.pollDrained.WakeInvariant := by
  refine ⟨holds.counted, holds.coherent.poll, ?_⟩
  intro waiting empty
  rcases holds.signalled phase empty with signalled | notifying
  · simp [AcceptLoop.pollDrained, holds.coherent.poll_ready signalled] at waiting
  · exact .inr notifying

/-- The drain keeps the wake-up invariant. -/
theorem WakeInvariant.drain (holds : loop.WakeInvariant) (moved : loop.drain = some next) :
    next.WakeInvariant := by
  obtain ⟨_, polled | movedOn⟩ := drain_cases moved
  · obtain ⟨phase, rfl⟩ := polled
    exact holds.pollDrained phase
  · obtain ⟨before, phase, sent, _, _, rfl⟩ := movedOn
    refine ⟨holds.counted, holds.coherent, ?_⟩
    intro waiting empty
    have busy := inFlight_pos_of_drain moved before waiting
    omega

end Steps

/-- Every step keeps the wake-up. -/
theorem WakeInvariant.step {config : ServerConfig} {loop next : AcceptLoop} {event : Event}
    (holds : loop.WakeInvariant) (enabled : loop.step config event = some next) :
    next.WakeInvariant := by
  have counted := (effect_of_step enabled).counted holds.counted
  cases event with
  | accept peer =>
      obtain ⟨accepting, same⟩ := Option.ite_none_right_eq_some.mp enabled
      obtain rfl := Option.some.inj same
      obtain ⟨phase, notify⟩ := acceptSocket_frame config loop peer
      refine ⟨counted, ?_, ?_⟩
      · rw [notify]
        exact holds.coherent
      · intro waiting
        rw [phase, accepting] at waiting
        exact absurd waiting (by simp)
  | acceptError | wake | shutdown =>
      obtain ⟨_, same⟩ := Option.ite_none_right_eq_some.mp enabled
      obtain rfl := Option.some.inj same
      exact ⟨counted, holds.coherent, fun waiting => absurd waiting (by simp)⟩
  | handshake index accepted =>
      obtain ⟨task, present, moved⟩ := Option.bind_eq_some_iff.mp enabled
      obtain ⟨stage, rfl⟩ := handshake_eq_some_iff.mp moved
      exact holds.setStage present (by simp [stage]) counted
  | serve index =>
      obtain ⟨task, present, moved⟩ := Option.bind_eq_some_iff.mp enabled
      obtain ⟨stage, rfl⟩ := serve_eq_some_iff.mp moved
      exact holds.setStage present (by simp [stage]) counted
  | decrement index =>
      obtain ⟨task, present, moved⟩ := Option.bind_eq_some_iff.mp enabled
      exact holds.decrement present counted moved
  | notify index =>
      obtain ⟨task, _, moved⟩ := Option.bind_eq_some_iff.mp enabled
      exact wakeInvariant_notify counted moved
  | release index =>
      obtain ⟨task, present, moved⟩ := Option.bind_eq_some_iff.mp enabled
      obtain ⟨stage, rfl⟩ := release_eq_some_iff.mp moved
      have kept : (loop.setStage index task .finished).WakeInvariant :=
        holds.setStage present (by simp [stage]) counted
      exact ⟨kept.counted, kept.coherent, kept.signalled⟩
  | drain => exact holds.drain enabled
  | drainTimeout =>
      obtain ⟨_, _, rfl⟩ := drainTimeout_eq_some_iff.mp enabled
      exact ⟨counted, holds.coherent.poll, fun waiting => absurd waiting (by simp)⟩

end HighperfServer.AcceptLoop
