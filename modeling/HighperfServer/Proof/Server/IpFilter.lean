import HighperfServer.Construction.IpList
import HighperfServer.Proof.Server.Connections

namespace HighperfServer
open Library

/-- An entry of the list parses to the address. -/
def Listed (text : Str) (ip : IpAddr) : Prop :=
  ∃ entry ∈ text.splitOn ',', IpAddr.parse (trim entry) = some ip

/-- The list has an entry that is not blank. -/
def HasEntry (text : Str) : Prop := ∃ entry ∈ text.splitOn ',', trim entry ≠ []

instance (text : Str) : Decidable (HasEntry text) :=
  inferInstanceAs (Decidable (∃ entry ∈ text.splitOn ',', trim entry ≠ []))

/-- The peer is not listed as blocked, and it is listed as allowed if anything is written there. -/
def Admissible (blocked allowed : Str) (peer : IpAddr) : Prop :=
  ¬ Listed blocked peer ∧ (HasEntry allowed → Listed allowed peer)

/-- The parsed list has exactly the listed addresses. -/
theorem mem_parseIpList (text : Str) (ip : IpAddr) : ip ∈ parseIpList text ↔ Listed text ip :=
  List.mem_filterMap

/-- The list is empty when no entry parses. -/
theorem parseIpList_eq_nil_iff (text : Str) : parseIpList text = [] ↔ ¬ ∃ ip, Listed text ip := by
  simp only [List.eq_nil_iff_forall_not_mem, mem_parseIpList, not_exists]

/-- An address is blocked exactly when the text lists it. -/
theorem isBlocked_withIpLists (config : ServerConfig) (blocked allowed : Str) (ip : IpAddr) :
    (config.withIpLists blocked allowed).isBlocked ip = true ↔ Listed blocked ip := by
  rw [← mem_parseIpList]
  exact List.contains_iff_mem

/-- An address is allowed when the text lists it or lists none. -/
theorem isAllowed_withIpLists (config : ServerConfig) (blocked allowed : Str) (ip : IpAddr) :
    (config.withIpLists blocked allowed).isAllowed ip = true ↔
      (¬ ∃ other, Listed allowed other) ∨ Listed allowed ip := by
  rw [← parseIpList_eq_nil_iff, ← mem_parseIpList, ServerConfig.isAllowed, Bool.or_eq_true,
    List.isEmpty_iff]
  exact or_congr Iff.rfl List.contains_iff_mem

namespace AcceptLoop

/-- The addresses whose connections got a task, in the order of their sockets. -/
def peers (loop : AcceptLoop) : List IpAddr := loop.tasks.map ConnectionTask.peer

section Peers
variable {config : ServerConfig} {loop next : AcceptLoop}

/-- A task keeps its peer through all its stages. -/
theorem peers_set {index : Nat} {task : ConnectionTask} (present : loop.tasks[index]? = some task)
    (stage : TaskStage) (tasks : next.tasks = loop.tasks.set index { task with stage }) :
    next.peers = loop.peers := by
  have same : loop.peers[index]? = some task.peer := by simp [peers, present]
  obtain ⟨bound, same⟩ := List.getElem?_eq_some_iff.mp same
  rw [peers, tasks, List.map_set, ← peers, ← same]
  exact List.set_getElem_self bound

/-- A socket that gets a task has passed both filters. -/
theorem peers_acceptSocket (config : ServerConfig) (loop : AcceptLoop) (peer : IpAddr) :
    (loop.acceptSocket config peer).peers = loop.peers ∨
      config.isBlocked peer = false ∧ config.isAllowed peer = true ∧
        (loop.acceptSocket config peer).peers = loop.peers ++ [peer] := by
  unfold acceptSocket
  dsimp only
  split
  · exact .inl rfl
  · rename_i unblocked
    split
    · exact .inl rfl
    · rename_i allowed
      split
      · right
        simp only [Bool.not_eq_true, Bool.not_eq_false'] at unblocked allowed
        simp [unblocked, allowed, peers, spawn]
      · exact .inl rfl

/-- One step adds at most one peer, and only one that has passed both filters. -/
theorem peers_of_step {event : Event} (enabled : loop.step config event = some next) :
    next.peers = loop.peers ∨ ∃ peer, config.isBlocked peer = false ∧
      config.isAllowed peer = true ∧ next.peers = loop.peers ++ [peer] := by
  cases event with
  | accept peer =>
      obtain ⟨_, same⟩ := Option.ite_none_right_eq_some.mp enabled
      obtain rfl := Option.some.inj same
      exact (peers_acceptSocket config loop peer).imp id fun admitted => ⟨peer, admitted⟩
  | acceptError | wake | shutdown =>
      obtain ⟨_, same⟩ := Option.ite_none_right_eq_some.mp enabled
      obtain rfl := Option.some.inj same
      exact .inl rfl
  | handshake | serve | decrement | notify | release =>
      obtain ⟨task, stage, inFlight, notify, limit, present, rfl⟩ := task_frame rfl enabled
      exact .inl (peers_set present stage rfl)
  | drain =>
      obtain ⟨phase, sent, notify, rfl⟩ := drain_frame enabled
      exact .inl rfl
  | drainTimeout =>
      obtain ⟨_, _, rfl⟩ := drainTimeout_eq_some_iff.mp enabled
      exact .inl rfl

/-- In every run, the peer of every task has passed both filters. -/
theorem filtered_of_reachable (reachable : (machine config).Reachable loop) :
    ∀ peer ∈ loop.peers, config.isBlocked peer = false ∧ config.isAllowed peer = true := by
  have start : ∀ peer ∈ (machine config).initial.peers,
      config.isBlocked peer = false ∧ config.isAllowed peer = true := by
    intro peer member
    simp [machine, AcceptLoop.start, peers] at member
  apply (machine config).reachable_invariant start _ reachable
  intro loop event next filtered enabled peer member
  rcases peers_of_step enabled with same | ⟨admitted, unblocked, allowed, grown⟩
  · exact filtered peer (same ▸ member)
  · rw [grown, List.mem_append, List.mem_singleton] at member
    rcases member with earlier | rfl
    · exact filtered peer earlier
    · exact ⟨unblocked, allowed⟩

end Peers

/-- A peer that passes both filters is served by a loop that has a permit. -/
theorem exists_serving {config : ServerConfig} {peer : IpAddr} (permits : 0 < config.maxConnections)
    (unblocked : config.isBlocked peer = false) (allowed : config.isAllowed peer = true) :
    ∃ loop, (machine config).Reachable loop ∧ ⟨peer, .serving⟩ ∈ loop.tasks := by
  have acquired : (start config).connectionLimit.tryAcquire = some ⟨config.maxConnections - 1⟩ :=
    Semaphore.tryAcquire_eq_some_iff.mpr ⟨permits, rfl⟩
  have tasks : ((start config).acceptSocket config peer).tasks =
      [⟨peer, if config.tlsEnabled then .handshaking else .serving⟩] := by
    simp only [acceptSocket, unblocked, allowed, acquired, Bool.not_true, Bool.false_eq_true, if_false]
    rfl
  have accepted : (machine config).step (start config) (.accept peer) =
      some ((start config).acceptSocket config peer) := rfl
  cases tls : config.tlsEnabled with
  | false =>
      refine ⟨_, ⟨[.accept peer], (machine config).run_step accepted rfl⟩, ?_⟩
      simp [tasks, tls]
  | true =>
      have handshaken : (machine config).step ((start config).acceptSocket config peer)
          (.handshake 0 true) = some (((start config).acceptSocket config peer).setStage 0
            ⟨peer, .handshaking⟩ .serving) := by
        simp [machine, step, tasks, tls, handshake]
      have ran := (machine config).run_step accepted ((machine config).run_step handshaken
        (Machine.run_nil _ _))
      refine ⟨_, ⟨[.accept peer, .handshake 0 true], ran⟩, ?_⟩
      simp [setStage, tasks]

/-- A serving task holds one of the configured permits. -/
theorem maxConnections_pos {config : ServerConfig} {loop : AcceptLoop} {task : ConnectionTask}
    (reachable : (machine config).Reachable loop) (member : task ∈ loop.tasks)
    (serving : task.stage = .serving) : 0 < config.maxConnections := by
  have balance := (balanced_of_reachable reachable).1
  have running : 0 < loop.runningTasks :=
    List.countP_pos_iff.mpr ⟨task, member, by rw [serving]; rfl⟩
  omega

end AcceptLoop

/-- In every run, a peer is handed to `handle_connection` only if the two texts admit it. -/
def FailsClosed (config : ServerConfig) (blocked allowed : Str) (peer : IpAddr) : Prop :=
  ∀ loop, (AcceptLoop.machine (config.withIpLists blocked allowed)).Reachable loop →
    ∀ task ∈ loop.tasks, task.stage = .serving → task.peer = peer → Admissible blocked allowed peer

/-- The filter of a peer fails open exactly when every written entry of the allowlist is unreadable. -/
theorem failsClosed_iff_readable (config : ServerConfig) (blocked allowed : Str) (peer : IpAddr) :
    FailsClosed config blocked allowed peer ↔
      config.maxConnections = 0 ∨ Listed blocked peer ∨ ¬ HasEntry allowed ∨
        ∃ other, Listed allowed other := by
  have blocks := isBlocked_withIpLists config blocked allowed peer
  have allows := isAllowed_withIpLists config blocked allowed peer
  constructor
  · intro closed
    by_contra unreadable
    simp only [not_or, not_not] at unreadable
    obtain ⟨limit, unlisted, written, unread⟩ := unreadable
    have unblocked : (config.withIpLists blocked allowed).isBlocked peer = false :=
      Bool.eq_false_iff.mpr (mt blocks.mp unlisted)
    have permits : 0 < (config.withIpLists blocked allowed).maxConnections :=
      Nat.pos_of_ne_zero limit
    obtain ⟨loop, reachable, member⟩ := AcceptLoop.exists_serving permits unblocked
      (allows.mpr (.inl unread))
    exact unread ⟨peer, (closed loop reachable _ member rfl rfl).2 written⟩
  · intro condition loop reachable task member serving same
    subst same
    have limit := AcceptLoop.maxConnections_pos reachable member serving
    obtain ⟨unblocked, allowedIn⟩ := AcceptLoop.filtered_of_reachable reachable task.peer
      (List.mem_map_of_mem member)
    have unlisted : ¬ Listed blocked task.peer := fun listed => by
      simp [blocks.mpr listed] at unblocked
    refine ⟨unlisted, fun written => ?_⟩
    rcases condition with none | listed | blank | readable
    · exact absurd none limit.ne'
    · exact absurd listed unlisted
    · exact absurd written blank
    · exact (allows.mp allowedIn).resolve_left (not_not.mpr readable)

/-- An allowlist that names only a network lets a peer from anywhere in. -/
theorem allowlist_fails_open :
    HasEntry "10.0.0.0/8".toList ∧ parseIpList "10.0.0.0/8".toList = [] ∧
      ¬ FailsClosed ServerConfig.defaults [] "10.0.0.0/8".toList (.v4 0xC6336401) := by
  have written : HasEntry "10.0.0.0/8".toList := by decide
  have unread : parseIpList "10.0.0.0/8".toList = [] := by decide
  refine ⟨written, unread, fun closed => ?_⟩
  obtain ⟨loop, reachable, member⟩ : ∃ loop, (AcceptLoop.machine
      (ServerConfig.defaults.withIpLists [] "10.0.0.0/8".toList)).Reachable loop ∧
        ⟨.v4 0xC6336401, .serving⟩ ∈ loop.tasks :=
    AcceptLoop.exists_serving (by decide) (by decide) (by decide)
  have listed := (closed loop reachable _ member rfl rfl).2 written
  exact (parseIpList_eq_nil_iff _).mp unread ⟨_, listed⟩

/-- The IPv6 address under which a dual-stack listener reports an IPv4 client. -/
def IpAddr.mapped (address : BitVec 32) : IpAddr := .v6 (0#80 ++ 0xFFFF#16 ++ address)

namespace AcceptLoop

/-- The outcomes of the IP filter. -/
inductive FilterDecision where
  | blocked
  | notAllowlisted
  | served
  deriving DecidableEq, Repr

/-- The block list comes before the allowlist. -/
def filterDecision (config : ServerConfig) (peer : IpAddr) : FilterDecision :=
  if config.isBlocked peer then .blocked
  else if config.isAllowed peer then .served
  else .notAllowlisted

/-- What the loop does with an accepted socket by the decision on its peer. -/
def FilterDecision.perform (config : ServerConfig) (loop : AcceptLoop) (peer : IpAddr) :
    FilterDecision → AcceptLoop
  | .blocked | .notAllowlisted =>
      { loop with
        connectionsAccepted := loop.connectionsAccepted + 1
        connectionsRejectedIp := loop.connectionsRejectedIp + 1 }
  | .served =>
      let loop := { loop with connectionsAccepted := loop.connectionsAccepted + 1 }
      (loop.connectionLimit.tryAcquire.map (loop.spawn config peer)).getD loop

/-- The loop performs the decision of the filter. -/
theorem acceptSocket_eq_perform (config : ServerConfig) (loop : AcceptLoop) (peer : IpAddr) :
    loop.acceptSocket config peer = (filterDecision config peer).perform config loop peer := by
  unfold acceptSocket filterDecision
  cases config.isBlocked peer with
  | true => rfl
  | false =>
      cases config.isAllowed peer with
      | false => rfl
      | true =>
          simp only [Bool.false_eq_true, if_false, Bool.not_true, if_true, FilterDecision.perform]
          cases loop.connectionLimit.tryAcquire <;> rfl

section Tally
variable {config : ServerConfig} {loop next : AcceptLoop}

/-- The event accepts a socket. -/
def Event.accepts : Event → Bool
  | .accept _ => true
  | _ => false

/-- The event accepts a socket whose peer the filter turns away. -/
def Event.turnsAway (config : ServerConfig) : Event → Bool
  | .accept peer => filterDecision config peer ≠ .served
  | _ => false

/-- The counters agree with the sockets of the past. -/
structure Tallied (config : ServerConfig) (past : List Event) (loop : AcceptLoop) : Prop where
  accepted : loop.connectionsAccepted = past.countP Event.accepts
  rejected : loop.connectionsRejectedIp = past.countP (Event.turnsAway config)

/-- Only an accepted socket moves the counters. -/
theorem counters_of_step {event : Event} (other : event.accepts = false)
    (enabled : loop.step config event = some next) :
    next.connectionsAccepted = loop.connectionsAccepted ∧
      next.connectionsRejectedIp = loop.connectionsRejectedIp := by
  cases event with
  | accept peer => exact absurd other (by simp [Event.accepts])
  | acceptError | wake | shutdown =>
      obtain ⟨_, same⟩ := Option.ite_none_right_eq_some.mp enabled
      obtain rfl := Option.some.inj same
      exact ⟨rfl, rfl⟩
  | handshake | serve | decrement | notify | release =>
      obtain ⟨_, _, _, _, _, _, rfl⟩ := task_frame rfl enabled
      exact ⟨rfl, rfl⟩
  | drain =>
      obtain ⟨_, _, _, rfl⟩ := drain_frame enabled
      exact ⟨rfl, rfl⟩
  | drainTimeout =>
      obtain ⟨_, _, rfl⟩ := drainTimeout_eq_some_iff.mp enabled
      exact ⟨rfl, rfl⟩

/-- An accepted socket is counted, and once more when the filter turns it away. -/
theorem counters_of_accept (config : ServerConfig) (loop : AcceptLoop) (peer : IpAddr) :
    (loop.acceptSocket config peer).connectionsAccepted = loop.connectionsAccepted + 1 ∧
      (loop.acceptSocket config peer).connectionsRejectedIp =
        loop.connectionsRejectedIp + if filterDecision config peer ≠ .served then 1 else 0 := by
  rw [acceptSocket_eq_perform]
  cases filterDecision config peer with
  | blocked | notAllowlisted => exact ⟨rfl, rfl⟩
  | served =>
      simp only [FilterDecision.perform, ne_eq, not_true_eq_false, if_false, Nat.add_zero]
      cases loop.connectionLimit.tryAcquire <;> exact ⟨rfl, rfl⟩

/-- Every step keeps the tally. -/
theorem Tallied.step {past : List Event} (tallied : loop.Tallied config past) {event : Event}
    (enabled : loop.step config event = some next) : next.Tallied config (past ++ [event]) := by
  obtain ⟨accepted, rejected⟩ := tallied
  cases accepts : event.accepts with
  | false =>
      have stays : event.turnsAway config = false := by
        cases event with
        | accept peer => exact absurd accepts (by simp [Event.accepts])
        | _ => rfl
      obtain ⟨sameAccepted, sameRejected⟩ := counters_of_step accepts enabled
      constructor
      · simp [sameAccepted, accepted, accepts]
      · simp [sameRejected, rejected, stays]
  | true =>
      cases event with
      | accept peer =>
          obtain ⟨_, same⟩ := Option.ite_none_right_eq_some.mp enabled
          obtain rfl := Option.some.inj same
          obtain ⟨oneMore, turned⟩ := counters_of_accept config loop peer
          constructor
          · simp [oneMore, accepted, Event.accepts]
          · simp [turned, rejected, Event.turnsAway, List.countP_singleton]
      | _ => exact absurd accepts (by simp [Event.accepts])

/-- The two connection counters of a run are the numbers of accepted sockets and of those that the
filter has turned away, so neither passes the number of steps. -/
theorem sockets_tallied (config : ServerConfig) {events : List Event} {loop : AcceptLoop}
    (ran : (machine config).run (machine config).initial events = some loop) :
    loop.Tallied config events :=
  @Machine.run_history _ _ (machine config) (fun past loop => loop.Tallied config past)
    (fun _ _ _ _ tallied enabled => tallied.step enabled) [] events _ _ ⟨rfl, rfl⟩ ran

end Tally

/-- A peer is blocked exactly when the block list has it. -/
theorem filterDecision_eq_blocked_iff (config : ServerConfig) (peer : IpAddr) :
    filterDecision config peer = .blocked ↔ peer ∈ config.blockedIps := by
  have blocks : config.isBlocked peer = true ↔ peer ∈ config.blockedIps := List.contains_iff_mem
  rw [← blocks, filterDecision]
  cases config.isBlocked peer <;> cases config.isAllowed peer <;> decide

/-- A peer is served exactly when no list refuses it. -/
theorem filterDecision_eq_served_iff (config : ServerConfig) (peer : IpAddr) :
    filterDecision config peer = .served ↔
      peer ∉ config.blockedIps ∧ (config.allowedIps = [] ∨ peer ∈ config.allowedIps) := by
  have blocks : config.isBlocked peer = true ↔ peer ∈ config.blockedIps := List.contains_iff_mem
  have allows : config.isAllowed peer = true ↔
      config.allowedIps = [] ∨ peer ∈ config.allowedIps := by
    rw [ServerConfig.isAllowed, Bool.or_eq_true, List.isEmpty_iff, List.contains_iff_mem]
  rw [← blocks, ← allows, filterDecision]
  cases config.isBlocked peer <;> cases config.isAllowed peer <;> decide

theorem FilterDecision.eq_iff (first second : FilterDecision) :
    first = second ↔
      (first = .blocked ↔ second = .blocked) ∧ (first = .served ↔ second = .served) := by
  cases first <;> cases second <;> decide

/-- Two peers are treated alike when the lists agree on them, where a blocked peer needs no look at
the allowlist and an empty allowlist names nobody. -/
theorem filterDecision_eq_iff (config : ServerConfig) (first second : IpAddr) :
    filterDecision config first = filterDecision config second ↔
      (first ∈ config.blockedIps ↔ second ∈ config.blockedIps) ∧
      (first ∉ config.blockedIps → config.allowedIps ≠ [] →
        (first ∈ config.allowedIps ↔ second ∈ config.allowedIps)) := by
  rw [FilterDecision.eq_iff]
  simp only [filterDecision_eq_blocked_iff, filterDecision_eq_served_iff]
  tauto

/-- The decision on an IPv4 client depends on the listener's address family exactly when one of the
lists that decide on it names the client in one form only. -/
theorem family_independent_iff (config : ServerConfig) (address : BitVec 32) :
    (∀ loop peer, AcceptLoop.acceptSocket config loop peer =
      (filterDecision config peer).perform config loop peer) ∧
    (filterDecision config (.v4 address) = filterDecision config (.mapped address) ↔
      (.v4 address ∈ config.blockedIps ↔ .mapped address ∈ config.blockedIps) ∧
      (.v4 address ∉ config.blockedIps → config.allowedIps ≠ [] →
        (.v4 address ∈ config.allowedIps ↔ .mapped address ∈ config.allowedIps))) :=
  ⟨acceptSocket_eq_perform config, filterDecision_eq_iff config _ _⟩

/-- A blocked IPv4 client is served on a dual-stack listener. -/
theorem blocked_client_served :
    let config := ServerConfig.defaults.withIpLists "1.2.3.4".toList []
    IpAddr.parse "::ffff:1.2.3.4".toList = some (.mapped 0x01020304) ∧
    filterDecision config (.v4 0x01020304) = .blocked ∧
    filterDecision config (.mapped 0x01020304) = .served := by
  decide

end AcceptLoop

end HighperfServer
