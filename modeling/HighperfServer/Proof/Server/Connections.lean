import HighperfServer.Construction.Server.AcceptLoop

namespace HighperfServer
open Library

/-- A task is open until it has counted itself out. -/
def TaskStage.isOpen : TaskStage → Bool
  | .handshaking | .serving | .counting => true
  | .notifying | .dropping | .finished => false

/-- A task runs until it has dropped its connection permit. -/
def TaskStage.isRunning : TaskStage → Bool
  | .finished => false
  | _ => true

theorem TaskStage.isRunning_of_isOpen {stage : TaskStage} (opened : stage.isOpen = true) :
    stage.isRunning = true := by
  cases stage with
  | finished => exact absurd opened (by simp [isOpen])
  | _ => rfl

namespace AcceptLoop

/-- The number of tasks that have not counted themselves out. -/
def openTasks (loop : AcceptLoop) : Nat := loop.tasks.countP (·.stage.isOpen)

/-- The number of tasks that hold a connection permit. -/
def runningTasks (loop : AcceptLoop) : Nat := loop.tasks.countP (·.stage.isRunning)

/-- The index of the task that takes the step. -/
def Event.task : Event → Option Nat
  | .handshake index _ | .serve index | .decrement index | .notify index | .release index =>
      some index
  | _ => none

section Inversion
variable {loop next : AcceptLoop} {index : Nat} {task : ConnectionTask}

/-- A handshake leads to the connection or straight to the countdown. -/
theorem handshake_eq_some_iff {accepted : Bool} :
    loop.handshake index accepted task = some next ↔ task.stage = .handshaking ∧
      loop.setStage index task (if accepted then .serving else .counting) = next := by
  cases stage : task.stage <;> simp [handshake, stage]

/-- A served connection is counted out next. -/
theorem serve_eq_some_iff :
    loop.serve index task = some next ↔
      task.stage = .serving ∧ loop.setStage index task .counting = next := by
  cases stage : task.stage <;> simp [serve, stage]

/-- The countdown to zero leads to the notification. -/
theorem decrement_eq_some_iff :
    loop.decrement index task = some next ↔ task.stage = .counting ∧
      { loop.setStage index task (if loop.inFlight = 1 then .notifying else .dropping) with
        inFlight := loop.inFlight - 1 } = next := by
  cases stage : task.stage <;> simp [decrement, stage]

/-- The notifying task drops its permit next. -/
theorem notify_eq_some_iff :
    loop.notify index task = some next ↔ task.stage = .notifying ∧
      { loop.setStage index task .dropping with allDrained := loop.allDrained.notifyOne } = next := by
  cases stage : task.stage <;> simp [notify, stage]

/-- The last stage of a task gives its permit back. -/
theorem release_eq_some_iff :
    loop.release index task = some next ↔ task.stage = .dropping ∧
      { loop.setStage index task .finished with
        connectionLimit := loop.connectionLimit.release } = next := by
  cases stage : task.stage <;> simp [release, stage]

/-- A task changes its own stage, the counter, the notification and the permits only. -/
theorem task_frame {config : ServerConfig} {event : Event} (own : event.task = some index)
    (enabled : loop.step config event = some next) :
    ∃ task stage inFlight notify limit, loop.tasks[index]? = some task ∧
      next = { loop with
        tasks := loop.tasks.set index { task with stage }
        inFlight
        allDrained := notify
        connectionLimit := limit } := by
  cases event with
  | accept | acceptError | wake | shutdown | drain | drainTimeout =>
      exact absurd own (by simp [Event.task])
  | handshake position accepted =>
      obtain rfl := Option.some.inj own
      obtain ⟨task, present, moved⟩ := Option.bind_eq_some_iff.mp enabled
      obtain ⟨_, rfl⟩ := handshake_eq_some_iff.mp moved
      exact ⟨task, _, _, _, _, present, rfl⟩
  | serve position =>
      obtain rfl := Option.some.inj own
      obtain ⟨task, present, moved⟩ := Option.bind_eq_some_iff.mp enabled
      obtain ⟨_, rfl⟩ := serve_eq_some_iff.mp moved
      exact ⟨task, _, _, _, _, present, rfl⟩
  | decrement position =>
      obtain rfl := Option.some.inj own
      obtain ⟨task, present, moved⟩ := Option.bind_eq_some_iff.mp enabled
      obtain ⟨_, rfl⟩ := decrement_eq_some_iff.mp moved
      exact ⟨task, _, _, _, _, present, rfl⟩
  | notify position =>
      obtain rfl := Option.some.inj own
      obtain ⟨task, present, moved⟩ := Option.bind_eq_some_iff.mp enabled
      obtain ⟨_, rfl⟩ := notify_eq_some_iff.mp moved
      exact ⟨task, _, _, _, _, present, rfl⟩
  | release position =>
      obtain rfl := Option.some.inj own
      obtain ⟨task, present, moved⟩ := Option.bind_eq_some_iff.mp enabled
      obtain ⟨_, rfl⟩ := release_eq_some_iff.mp moved
      exact ⟨task, _, _, _, _, present, rfl⟩

/-- The drain changes its phase, the shutdown flag and the notification only. -/
theorem drain_frame (moved : loop.drain = some next) :
    ∃ phase sent notify,
      next = { loop with phase, shutdownSent := sent, allDrained := notify } := by
  unfold drain at moved
  cases phase : loop.phase with
  | accepting | backingOff | returned outcome =>
      rw [phase] at moved
      exact absurd moved (by simp)
  | stopped | settling | signalling | loading | rechecking | waiting =>
      rw [phase] at moved
      exact ⟨_, _, _, (Option.some.inj moved).symm⟩

/-- The drain timeout returns when the poll is not ready. -/
theorem drainTimeout_eq_some_iff :
    loop.drainTimeout = some next ↔ loop.phase = .waiting ∧ loop.allDrained.poll.1 = false ∧
      next = { loop with allDrained := loop.allDrained.poll.2, phase := .returned .timedOut } := by
  unfold drainTimeout
  constructor
  · intro moved
    split at moved
    · rename_i allDrained phase polled
      rw [phase, polled]
      exact ⟨rfl, rfl, (Option.some.inj moved).symm⟩
    · exact absurd moved (by simp)
  · rintro ⟨phase, unready, rfl⟩
    have polled : loop.allDrained.poll = (false, loop.allDrained.poll.2) := by
      rw [← unready]
    rw [phase, polled]

/-- A socket is dropped after it was counted, or it takes a permit and gets a task. -/
theorem acceptSocket_cases (config : ServerConfig) (loop : AcceptLoop) (peer : IpAddr) :
    (∃ rejected, loop.acceptSocket config peer =
      { loop with
        connectionsAccepted := loop.connectionsAccepted + 1
        connectionsRejectedIp := rejected }) ∨
    ∃ permit, loop.connectionLimit.tryAcquire = some permit ∧ loop.acceptSocket config peer =
      spawn config { loop with connectionsAccepted := loop.connectionsAccepted + 1 } peer permit := by
  unfold acceptSocket
  dsimp only
  split
  · exact .inl ⟨_, rfl⟩
  · split
    · exact .inl ⟨_, rfl⟩
    · split
      · rename_i permit acquired
        exact .inr ⟨permit, acquired, rfl⟩
      · exact .inl ⟨_, rfl⟩

/-- An accepted socket touches neither the phase nor the notification. -/
theorem acceptSocket_frame (config : ServerConfig) (loop : AcceptLoop) (peer : IpAddr) :
    (loop.acceptSocket config peer).phase = loop.phase ∧
      (loop.acceptSocket config peer).allDrained = loop.allDrained := by
  rcases acceptSocket_cases config loop peer with ⟨rejected, same⟩ | ⟨permit, _, same⟩
  · rw [same]
    exact ⟨rfl, rfl⟩
  · rw [same]
    exact ⟨rfl, rfl⟩

end Inversion

/-- What one step does to the tasks, the counter and the connection permits. -/
inductive Effect (loop next : AcceptLoop) : Prop where
  | unchanged (tasks : next.tasks = loop.tasks) (inFlight : next.inFlight = loop.inFlight)
      (limit : next.connectionLimit = loop.connectionLimit)
  | spawned (task : ConnectionTask) (opened : task.stage.isOpen = true)
      (tasks : next.tasks = loop.tasks ++ [task]) (inFlight : next.inFlight = loop.inFlight + 1)
      (acquired : loop.connectionLimit.tryAcquire = some next.connectionLimit)
  | staged (index : Nat) (task : ConnectionTask) (stage : TaskStage)
      (present : loop.tasks[index]? = some task) (sameOpen : stage.isOpen = task.stage.isOpen)
      (sameRunning : stage.isRunning = task.stage.isRunning)
      (tasks : next.tasks = loop.tasks.set index { task with stage })
      (inFlight : next.inFlight = loop.inFlight)
      (limit : next.connectionLimit = loop.connectionLimit)
  | countedOut (index : Nat) (task : ConnectionTask) (stage : TaskStage)
      (present : loop.tasks[index]? = some task) (counting : task.stage = .counting)
      (closed : stage.isOpen = false) (running : stage.isRunning = true)
      (tasks : next.tasks = loop.tasks.set index { task with stage })
      (inFlight : next.inFlight = loop.inFlight - 1)
      (limit : next.connectionLimit = loop.connectionLimit)
  | released (index : Nat) (task : ConnectionTask)
      (present : loop.tasks[index]? = some task) (dropping : task.stage = .dropping)
      (tasks : next.tasks = loop.tasks.set index { task with stage := .finished })
      (inFlight : next.inFlight = loop.inFlight)
      (limit : next.connectionLimit = loop.connectionLimit.release)

/-- An accepted socket leaves tasks and permits alone or adds one of each. -/
theorem effect_acceptSocket (config : ServerConfig) (loop : AcceptLoop) (peer : IpAddr) :
    loop.Effect (loop.acceptSocket config peer) := by
  rcases acceptSocket_cases config loop peer with ⟨rejected, same⟩ | ⟨permit, acquired, same⟩
  · rw [same]
    exact .unchanged rfl rfl rfl
  · rw [same]
    apply Effect.spawned ⟨peer, if config.tlsEnabled then .handshaking else .serving⟩
    · change TaskStage.isOpen (if config.tlsEnabled then .handshaking else .serving) = true
      split <;> rfl
    · rfl
    · rfl
    · exact acquired

/-- Every step has one of the effects. -/
theorem effect_of_step {config : ServerConfig} {loop next : AcceptLoop} {event : Event}
    (enabled : loop.step config event = some next) : loop.Effect next := by
  cases event with
  | accept peer =>
      obtain ⟨_, same⟩ := Option.ite_none_right_eq_some.mp enabled
      obtain rfl := Option.some.inj same
      exact effect_acceptSocket config loop peer
  | acceptError | wake | shutdown =>
      obtain ⟨_, same⟩ := Option.ite_none_right_eq_some.mp enabled
      obtain rfl := Option.some.inj same
      exact .unchanged rfl rfl rfl
  | handshake index accepted =>
      obtain ⟨task, present, moved⟩ := Option.bind_eq_some_iff.mp enabled
      obtain ⟨stage, rfl⟩ := handshake_eq_some_iff.mp moved
      cases accepted <;>
        exact .staged index task _ present (by rw [stage]; rfl) (by rw [stage]; rfl) rfl rfl rfl
  | serve index =>
      obtain ⟨task, present, moved⟩ := Option.bind_eq_some_iff.mp enabled
      obtain ⟨stage, rfl⟩ := serve_eq_some_iff.mp moved
      exact .staged index task _ present (by rw [stage]; rfl) (by rw [stage]; rfl) rfl rfl rfl
  | decrement index =>
      obtain ⟨task, present, moved⟩ := Option.bind_eq_some_iff.mp enabled
      obtain ⟨stage, rfl⟩ := decrement_eq_some_iff.mp moved
      exact .countedOut index task _ present stage (by split <;> rfl) (by split <;> rfl) rfl rfl rfl
  | notify index =>
      obtain ⟨task, present, moved⟩ := Option.bind_eq_some_iff.mp enabled
      obtain ⟨stage, rfl⟩ := notify_eq_some_iff.mp moved
      exact .staged index task _ present (by rw [stage]; rfl) (by rw [stage]; rfl) rfl rfl rfl
  | release index =>
      obtain ⟨task, present, moved⟩ := Option.bind_eq_some_iff.mp enabled
      obtain ⟨stage, rfl⟩ := release_eq_some_iff.mp moved
      exact .released index task present stage rfl rfl rfl
  | drain =>
      obtain ⟨phase, sent, notify, rfl⟩ := drain_frame enabled
      exact .unchanged rfl rfl rfl
  | drainTimeout =>
      obtain ⟨_, _, rfl⟩ := drainTimeout_eq_some_iff.mp enabled
      exact .unchanged rfl rfl rfl

section Conservation
variable {loop next : AcceptLoop}

/-- A stage change moves the count of tasks in selected stages by the two stages. -/
theorem countP_stage (selected : TaskStage → Bool) {index : Nat} {task : ConnectionTask}
    (present : loop.tasks[index]? = some task) (stage : TaskStage) :
    (loop.tasks.set index { task with stage }).countP (fun task => selected task.stage) +
        (if selected task.stage then 1 else 0) =
      loop.tasks.countP (fun task => selected task.stage) + (if selected stage then 1 else 0) :=
  countP_set_add (fun task : ConnectionTask => selected task.stage) present { task with stage }

/-- The counter stays the number of open tasks. -/
theorem Effect.counted (effect : loop.Effect next) (counted : loop.inFlight = loop.openTasks) :
    next.inFlight = next.openTasks := by
  unfold openTasks at counted ⊢
  cases effect with
  | unchanged tasks inFlight limit => rw [tasks, inFlight, counted]
  | spawned task opened tasks inFlight acquired =>
      rw [tasks, inFlight, counted, List.countP_append, List.countP_singleton, if_pos opened]
  | staged index task stage present sameOpen sameRunning tasks inFlight limit =>
      have count := countP_stage TaskStage.isOpen present stage
      rw [sameOpen] at count
      rw [tasks, inFlight]
      omega
  | countedOut index task stage present counting closed running tasks inFlight limit =>
      have count := countP_stage TaskStage.isOpen present stage
      have opened : task.stage.isOpen = true := by rw [counting]; rfl
      rw [if_pos opened, closed, if_neg Bool.false_ne_true] at count
      rw [tasks, inFlight]
      omega
  | released index task present dropping tasks inFlight limit =>
      have count := countP_stage TaskStage.isOpen present .finished
      have closed : task.stage.isOpen = TaskStage.finished.isOpen := by rw [dropping]; rfl
      rw [closed] at count
      rw [tasks, inFlight]
      omega

/-- Held and available connection permits keep their sum. -/
theorem Effect.permits (effect : loop.Effect next) :
    next.runningTasks + next.connectionLimit.permits =
      loop.runningTasks + loop.connectionLimit.permits := by
  unfold runningTasks
  cases effect with
  | unchanged tasks inFlight limit => rw [tasks, limit]
  | spawned task opened tasks inFlight acquired =>
      obtain ⟨available, same⟩ := Semaphore.tryAcquire_eq_some_iff.mp acquired
      rw [tasks, List.countP_append, List.countP_singleton,
        if_pos (TaskStage.isRunning_of_isOpen opened), same]
      dsimp only
      omega
  | staged index task stage present sameOpen sameRunning tasks inFlight limit =>
      have count := countP_stage TaskStage.isRunning present stage
      rw [sameRunning] at count
      rw [tasks, limit]
      omega
  | countedOut index task stage present counting closed running tasks inFlight limit =>
      have count := countP_stage TaskStage.isRunning present stage
      have before : task.stage.isRunning = stage.isRunning := by rw [counting, running]; rfl
      rw [before] at count
      rw [tasks, limit]
      omega
  | released index task present dropping tasks inFlight limit =>
      have count := countP_stage TaskStage.isRunning present .finished
      have held : task.stage.isRunning = true := by rw [dropping]; rfl
      have dropped : ¬ TaskStage.finished.isRunning = true := by simp [TaskStage.isRunning]
      rw [if_pos held, if_neg dropped] at count
      rw [tasks, limit]
      dsimp only [Semaphore.release]
      omega

end Conservation

/-- The counter and the connection permits balance in every reachable state. -/
theorem balanced_of_reachable {config : ServerConfig} {loop : AcceptLoop}
    (reachable : (machine config).Reachable loop) :
    loop.runningTasks + loop.connectionLimit.permits = config.maxConnections ∧
      loop.inFlight = loop.openTasks := by
  have start : (start config).runningTasks + (start config).connectionLimit.permits =
      config.maxConnections ∧ (start config).inFlight = (start config).openTasks :=
    ⟨Nat.zero_add _, rfl⟩
  apply (machine config).reachable_invariant start _ reachable
  rintro before event next ⟨permits, counted⟩ enabled
  have effect := effect_of_step enabled
  exact ⟨effect.permits.trans permits, effect.counted counted⟩

/-- A task that has not counted itself out keeps the counter above zero. -/
theorem inFlight_pos {loop : AcceptLoop} {index : Nat} {task : ConnectionTask}
    (counted : loop.inFlight = loop.openTasks) (present : loop.tasks[index]? = some task)
    (opened : task.stage.isOpen = true) : 0 < loop.inFlight := by
  rw [counted]
  exact List.countP_pos_iff.mpr ⟨task, List.mem_of_getElem? present, opened⟩

end AcceptLoop

end HighperfServer
