import HighperfServer.Construction.Config
import HighperfServer.Library.Execution
import HighperfServer.Library.Sync

namespace HighperfServer
open Library

/-- A spawned connection task counts itself out, notifies if it was the last, and drops its permit. -/
inductive TaskStage where
  | handshaking
  | serving
  | counting
  | notifying
  | dropping
  | finished
  deriving DecidableEq, Repr

structure ConnectionTask where
  peer : IpAddr
  stage : TaskStage
  deriving DecidableEq, Repr

inductive DrainOutcome where
  | noneInFlight
  | drained
  | timedOut
  deriving DecidableEq, Repr

/-- The phases are the points at which `accept_loop` awaits or touches shared state. -/
inductive LoopPhase where
  | accepting
  | backingOff
  | stopped
  | settling
  | signalling
  | loading
  | rechecking
  | waiting
  | returned (outcome : DrainOutcome)
  deriving DecidableEq, Repr

structure AcceptLoop where
  phase : LoopPhase
  inFlight : Nat
  allDrained : Notify
  connectionLimit : Semaphore
  shutdownSent : Bool
  connectionsAccepted : Nat
  connectionsRejectedIp : Nat
  tasks : List ConnectionTask
  deriving DecidableEq, Repr

def ServerConfig.tlsEnabled (config : ServerConfig) : Bool :=
  match config.tlsCertPath, config.tlsKeyPath with
  | some _, some _ => true
  | _, _ => false

namespace AcceptLoop

inductive Event where
  | accept (peer : IpAddr)
  | acceptError
  | wake
  | shutdown
  | handshake (index : Nat) (accepted : Bool)
  | serve (index : Nat)
  | decrement (index : Nat)
  | notify (index : Nat)
  | release (index : Nat)
  | drain
  | drainTimeout
  deriving DecidableEq, Repr

def start (config : ServerConfig) : AcceptLoop where
  phase := .accepting
  inFlight := 0
  allDrained := Notify.new
  connectionLimit := ⟨config.maxConnections⟩
  shutdownSent := false
  connectionsAccepted := 0
  connectionsRejectedIp := 0
  tasks := []

def rejectIp (loop : AcceptLoop) : AcceptLoop :=
  { loop with connectionsRejectedIp := loop.connectionsRejectedIp + 1 }

def spawn (config : ServerConfig) (loop : AcceptLoop) (peer : IpAddr) (permit : Semaphore) :
    AcceptLoop :=
  { loop with
    connectionLimit := permit
    inFlight := loop.inFlight + 1
    tasks := loop.tasks ++ [⟨peer, if config.tlsEnabled then .handshaking else .serving⟩] }

def acceptSocket (config : ServerConfig) (loop : AcceptLoop) (peer : IpAddr) : AcceptLoop :=
  let loop := { loop with connectionsAccepted := loop.connectionsAccepted + 1 }
  if config.isBlocked peer then loop.rejectIp
  else if !config.isAllowed peer then loop.rejectIp
  else
    match loop.connectionLimit.tryAcquire with
    | some permit => loop.spawn config peer permit
    | none => loop

def setStage (loop : AcceptLoop) (index : Nat) (task : ConnectionTask) (stage : TaskStage) :
    AcceptLoop :=
  { loop with tasks := loop.tasks.set index { task with stage } }

def handshake (loop : AcceptLoop) (index : Nat) (accepted : Bool) (task : ConnectionTask) :
    Option AcceptLoop :=
  match task.stage with
  | .handshaking => some (loop.setStage index task (if accepted then .serving else .counting))
  | _ => none

def serve (loop : AcceptLoop) (index : Nat) (task : ConnectionTask) : Option AcceptLoop :=
  match task.stage with
  | .serving => some (loop.setStage index task .counting)
  | _ => none

/-- `fetch_sub` returns the count before the subtraction. -/
def decrement (loop : AcceptLoop) (index : Nat) (task : ConnectionTask) : Option AcceptLoop :=
  match task.stage with
  | .counting =>
      some { loop.setStage index task (if loop.inFlight = 1 then .notifying else .dropping) with
        inFlight := loop.inFlight - 1 }
  | _ => none

def notify (loop : AcceptLoop) (index : Nat) (task : ConnectionTask) : Option AcceptLoop :=
  match task.stage with
  | .notifying =>
      some { loop.setStage index task .dropping with allDrained := loop.allDrained.notifyOne }
  | _ => none

def release (loop : AcceptLoop) (index : Nat) (task : ConnectionTask) : Option AcceptLoop :=
  match task.stage with
  | .dropping =>
      some { loop.setStage index task .finished with
        connectionLimit := loop.connectionLimit.release }
  | _ => none

def pollDrained (loop : AcceptLoop) : AcceptLoop :=
  { loop with
    allDrained := loop.allDrained.poll.2
    phase := if loop.allDrained.poll.1 then .returned .drained else .waiting }

def drain (loop : AcceptLoop) : Option AcceptLoop :=
  match loop.phase with
  | .stopped => some { loop with phase := if loop.inFlight > 0 then .settling else .signalling }
  | .settling => some { loop with phase := .signalling }
  | .signalling => some { loop with shutdownSent := true, phase := .loading }
  | .loading =>
      some { loop with phase := if loop.inFlight > 0 then .rechecking else .returned .noneInFlight }
  | .rechecking =>
      some { loop with phase := if loop.inFlight > 0 then .waiting else .returned .noneInFlight }
  | .waiting => some loop.pollDrained
  | _ => none

/-- The timeout polls the notification first and fires only when it is not ready. -/
def drainTimeout (loop : AcceptLoop) : Option AcceptLoop :=
  match loop.phase, loop.allDrained.poll with
  | .waiting, (false, allDrained) => some { loop with allDrained, phase := .returned .timedOut }
  | _, _ => none

def step (config : ServerConfig) (loop : AcceptLoop) : Event → Option AcceptLoop
  | .accept peer => if loop.phase = .accepting then some (loop.acceptSocket config peer) else none
  | .acceptError => if loop.phase = .accepting then some { loop with phase := .backingOff } else none
  | .wake => if loop.phase = .backingOff then some { loop with phase := .accepting } else none
  | .shutdown => if loop.phase = .accepting then some { loop with phase := .stopped } else none
  | .handshake index accepted => (loop.tasks[index]?).bind (loop.handshake index accepted)
  | .serve index => (loop.tasks[index]?).bind (loop.serve index)
  | .decrement index => (loop.tasks[index]?).bind (loop.decrement index)
  | .notify index => (loop.tasks[index]?).bind (loop.notify index)
  | .release index => (loop.tasks[index]?).bind (loop.release index)
  | .drain => loop.drain
  | .drainTimeout => loop.drainTimeout

def machine (config : ServerConfig) : Machine AcceptLoop Event where
  initial := start config
  step := step config

end AcceptLoop

end HighperfServer
