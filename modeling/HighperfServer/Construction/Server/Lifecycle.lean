import HighperfServer.Construction.Environment
import HighperfServer.Construction.Server.AcceptLoop
import HighperfServer.Construction.Server.SelectLoop
import HighperfServer.Library.Watch

namespace HighperfServer
open Library

def fromMillis (millis : Nat) : Nat := millis * 1000000

/-- `handle_connection` is its select loop with a receiver of the shutdown broadcast.

A poll of the select is not atomic: `looked` keeps the channel that the poll under way has found
unchanged on its way to the timer. -/
structure Handling where
  receiver : Receiver
  loop : SelectLoop
  looked : Option (Watch Bool)
  deriving DecidableEq, Repr

namespace Handling

inductive Event where
  | requestStart
  | requestFinish (index : Nat)
  | connectionEnd
  | look
  | settle
  deriving DecidableEq, Repr

def start (config : ServerConfig) (receiver : Receiver) (clock : Nat) : Handling :=
  ⟨receiver, SelectLoop.start config clock, none⟩

def channel (shutdown : Watch Bool) (handling : Handling) : Watch Bool :=
  handling.looked.getD shutdown

/-- The select loop as it sees the clock and, through its receiver, the channel. -/
def view (clock : Nat) (shutdown : Watch Bool) (handling : Handling) : SelectLoop :=
  { handling.loop with
    clock
    shutdownValue := (handling.channel shutdown).value
    shutdownChanged := ((handling.channel shutdown).changed handling.receiver).isSome }

def update (shutdown : Watch Bool) (handling : Handling) (loop : SelectLoop) : Handling :=
  { handling with
    loop
    receiver :=
      if loop.shutdownChanged then handling.receiver
      else ⟨(handling.channel shutdown).version⟩ }

def advance (clock : Nat) (shutdown : Watch Bool) (handling : Handling) (event : SelectLoop.Event) :
    Option Handling :=
  ((handling.view clock shutdown).step event).map (handling.update shutdown)

def look (clock : Nat) (shutdown : Watch Bool) (handling : Handling) : Option Handling :=
  let loop := handling.view clock shutdown
  -- one of the first two branches of the biased select is ready, or the timer is next
  if loop.connReady || !loop.graceful && loop.shutdownChanged then
    handling.advance clock shutdown .poll
  else if loop.exited = none then some { handling with looked := some shutdown }
  else none

def settle (clock : Nat) (shutdown : Watch Bool) (handling : Handling) : Option Handling :=
  (handling.advance clock shutdown .poll).map fun handling => { handling with looked := none }

def step (clock : Nat) (shutdown : Watch Bool) (handling : Handling) : Event → Option Handling
  | .requestStart => handling.advance clock shutdown .requestStart
  | .requestFinish index => handling.advance clock shutdown (.requestFinish index)
  -- the end of the connection is seen by the next poll, not by the one under way
  | .connectionEnd =>
      if handling.looked = none then handling.advance clock shutdown .connectionEnd else none
  | .look => if handling.looked = none then handling.look clock shutdown else none
  | .settle => if handling.looked = none then none else handling.settle clock shutdown

end Handling

inductive Connection where
  | spawned (receiver : Receiver)
  | handling (state : Handling)
  | returned (state : Handling)
  | failed
  deriving DecidableEq, Repr

inductive Incoming where
  | pending
  | socket
  | error
  deriving DecidableEq, Repr

/-- In `accepting` the poll under way has found the broadcast unchanged and goes on to the socket. -/
inductive RedirectPhase where
  | binding
  | listening
  | accepting
  | backingOff
  | stopped
  deriving DecidableEq, Repr

structure RedirectListener where
  phase : RedirectPhase
  receiver : Receiver
  timer : Nat
  spawned : Nat
  deriving DecidableEq, Repr

namespace RedirectListener

inductive Event where
  | bind (bound : Bool)
  | wake
  | look
  | settle (incoming : Incoming)
  deriving DecidableEq, Repr

def look (shutdown : Watch Bool) (listener : RedirectListener) : RedirectListener :=
  match shutdown.changed listener.receiver with
  | some receiver =>
      { listener with receiver, phase := if shutdown.value then .stopped else .listening }
  | none => { listener with phase := .accepting }

def settle (clock : Nat) (listener : RedirectListener) : Incoming → RedirectListener
  | .pending => { listener with phase := .listening }
  | .socket => { listener with phase := .listening, spawned := listener.spawned + 1 }
  | .error => { listener with phase := .backingOff, timer := clock + fromMillis 10 }

def step (clock : Nat) (shutdown : Watch Bool) (listener : RedirectListener) :
    Event → Option RedirectListener
  | .bind bound =>
      if listener.phase = .binding then
        some { listener with phase := if bound then .listening else .stopped }
      else none
  | .wake =>
      if listener.phase = .backingOff ∧ listener.timer ≤ clock then
        some { listener with phase := .listening }
      else none
  | .look => if listener.phase = .listening then some (listener.look shutdown) else none
  | .settle incoming =>
      if listener.phase = .accepting then some (listener.settle clock incoming) else none

end RedirectListener

/-- The running server: the accept loop with its timer, the broadcast, and every task that listens.

The accept loop is `polling` when its select has found the shutdown future pending and goes on to the
socket.  The two instants record when the future resolved and when the broadcast was sent. -/
structure Lifecycle where
  clock : Nat
  timer : Nat
  polling : Bool
  loop : AcceptLoop
  shutdown : Watch Bool
  shutdownRx : Receiver
  connections : List Connection
  redirect : Option RedirectListener
  signalledAt : Option Nat
  sentAt : Option Nat
  deriving DecidableEq, Repr

namespace Lifecycle

inductive Event where
  | elapse (nanos : Nat)
  | signal
  | look
  | park
  | loop (event : AcceptLoop.Event)
  | handle (index : Nat)
  | connection (index : Nat) (event : Handling.Event)
  | redirect (event : RedirectListener.Event)
  deriving DecidableEq, Repr

def start (settings : Settings) (clock : Nat) : Lifecycle :=
  let channel := Watch.channel false
  let redirects := settings.tlsEnabled && settings.httpRedirectPort.isSome
  { clock
    timer := clock
    polling := false
    loop := AcceptLoop.start settings.toServerConfig
    shutdown := if redirects then channel.1.subscribe else channel.1
    shutdownRx := channel.2
    connections := []
    redirect := if redirects then some ⟨.binding, channel.2, clock, 0⟩ else none
    signalledAt := none
    sentAt := none }

/-- A step waits for its timer, for the branch of the select before it, or for the connection. -/
def ready (server : Lifecycle) : AcceptLoop.Event → Bool
  | .accept _ | .acceptError => server.polling
  | .shutdown => server.signalledAt.isSome && !server.polling
  | .wake | .drainTimeout => decide (server.timer ≤ server.clock)
  | .drain => server.loop.phase != .settling || decide (server.timer ≤ server.clock)
  | .serve index =>
      match server.connections[index]? with
      | some (.handling state) => state.loop.exited.isSome
      | _ => false
  | _ => true

def close (server : Lifecycle) (index : Nat) : Lifecycle :=
  match server.connections[index]? with
  | some (.handling state) =>
      { server with
        connections := server.connections.set index (.returned state)
        shutdown := server.shutdown.unsubscribe }
  | _ => server

def abandon (server : Lifecycle) (index : Nat) : Lifecycle :=
  match server.connections[index]? with
  | some (.spawned _) =>
      { server with
        connections := server.connections.set index .failed
        shutdown := server.shutdown.unsubscribe }
  | _ => server

def subscribe (server : Lifecycle) : Lifecycle :=
  { server with
    connections := server.connections ++ [.spawned server.shutdownRx]
    shutdown := server.shutdown.subscribe }

def drain (settings : Settings) (server : Lifecycle) : Lifecycle :=
  match server.loop.phase with
  | .stopped => { server with timer := server.clock + fromMillis 100 }
  | .signalling =>
      { server with shutdown := server.shutdown.send true, sentAt := some server.clock }
  | .rechecking => { server with timer := server.clock + fromSecs settings.shutdownDrainSecs }
  | _ => server

/-- What a step of the accept loop or of a task does beside it. -/
def beside (settings : Settings) (server : Lifecycle) (loop : AcceptLoop) :
    AcceptLoop.Event → Lifecycle
  | .accept _ =>
      let server := { server with polling := false }
      if server.loop.tasks.length < loop.tasks.length then server.subscribe else server
  | .acceptError => { server with polling := false, timer := server.clock + fromMillis 10 }
  | .serve index => server.close index
  | .release index => server.abandon index
  | .drain => server.drain settings
  | _ => server

def loopStep (settings : Settings) (server : Lifecycle) (event : AcceptLoop.Event) :
    Option Lifecycle :=
  if server.ready event then
    (server.loop.step settings.toServerConfig event).map fun loop =>
      { server.beside settings loop event with loop }
  else none

def handle (settings : Settings) (server : Lifecycle) (index : Nat) : Option Lifecycle :=
  match server.loop.tasks[index]?, server.connections[index]? with
  | some ⟨_, .serving⟩, some (.spawned receiver) =>
      some { server with
        connections := server.connections.set index
          (.handling (Handling.start settings.toServerConfig receiver server.clock)) }
  | _, _ => none

def connectionStep (server : Lifecycle) (index : Nat) (event : Handling.Event) : Option Lifecycle :=
  match server.connections[index]? with
  | some (.handling state) =>
      (state.step server.clock server.shutdown event).map fun state =>
        { server with connections := server.connections.set index (.handling state) }
  | _ => none

def redirectStep (server : Lifecycle) (event : RedirectListener.Event) : Option Lifecycle :=
  server.redirect.bind fun listener =>
    (listener.step server.clock server.shutdown event).map fun listener =>
      { server with
        redirect := some listener
        shutdown :=
          if listener.phase = .stopped then server.shutdown.unsubscribe else server.shutdown }

/-- The steps of the server interleave in any order. -/
def step (settings : Settings) (server : Lifecycle) : Event → Option Lifecycle
  | .elapse nanos => some { server with clock := server.clock + nanos }
  | .signal =>
      if server.signalledAt = none then some { server with signalledAt := some server.clock }
      else none
  -- the shutdown future is polled first, so the socket is polled only while it is pending
  | .look =>
      if server.loop.phase = .accepting ∧ server.polling = false ∧ server.signalledAt = none then
        some { server with polling := true }
      else none
  | .park => if server.polling then some { server with polling := false } else none
  | .loop event => server.loopStep settings event
  | .handle index => server.handle settings index
  | .connection index event => server.connectionStep index event
  | .redirect event => server.redirectStep event

def machine (settings : Settings) (clock : Nat) : Machine Lifecycle Event where
  initial := start settings clock
  step := step settings

end Lifecycle

end HighperfServer
