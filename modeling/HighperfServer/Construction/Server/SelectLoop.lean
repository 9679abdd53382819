import HighperfServer.Construction.Config
import HighperfServer.Library.Execution

namespace HighperfServer
open Library

/-- Instants and durations count nanoseconds. -/
def fromSecs (seconds : Nat) : Nat := seconds * 1000000000

structure RequestSpan where
  start : Nat
  finish : Option Nat
  deriving DecidableEq, Repr

inductive LoopExit where
  | connection
  | keepAlive
  deriving DecidableEq, Repr

/-- The loop selects between its connection, the shutdown watch and the keep-alive timer.

The connection future runs the requests; the list of their spans records what it has done. -/
structure SelectLoop where
  clock : Nat
  established : Nat
  kaTimeout : Nat
  graceful : Bool
  shutdownValue : Bool
  shutdownChanged : Bool
  connReady : Bool
  requests : List RequestSpan
  exited : Option LoopExit
  deriving DecidableEq, Repr

namespace SelectLoop

inductive Event where
  | elapse (nanos : Nat)
  | requestStart
  | requestFinish (index : Nat)
  | connectionEnd
  | shutdownSend (value : Bool)
  | poll
  deriving DecidableEq, Repr

def start (config : ServerConfig) (established : Nat) : SelectLoop where
  clock := established
  established := established
  kaTimeout := established + fromSecs config.keepAliveTimeoutSecs
  graceful := false
  shutdownValue := false
  shutdownChanged := false
  connReady := false
  requests := []
  exited := none

/-- The biased select polls the connection, then the watch, then the timer. -/
def poll (loop : SelectLoop) : SelectLoop :=
  if loop.connReady then { loop with exited := some .connection }
  else if !loop.graceful && loop.shutdownChanged then
    { loop with shutdownChanged := false, graceful := loop.shutdownValue }
  else if !loop.graceful && loop.kaTimeout ≤ loop.clock then
    { loop with exited := some .keepAlive }
  else loop

def finish (loop : SelectLoop) (index : Nat) (request : RequestSpan) : Option SelectLoop :=
  match request.finish with
  | none =>
      some { loop with
        requests := loop.requests.set index { request with finish := some loop.clock } }
  | some _ => none

def advance (loop : SelectLoop) : Event → Option SelectLoop
  | .elapse nanos => some { loop with clock := loop.clock + nanos }
  | .requestStart =>
      if loop.connReady then none
      else some { loop with requests := loop.requests ++ [⟨loop.clock, none⟩] }
  | .requestFinish index =>
      if loop.connReady then none else (loop.requests[index]?).bind (loop.finish index)
  | .connectionEnd => some { loop with connReady := true }
  | .shutdownSend value => some { loop with shutdownValue := value, shutdownChanged := true }
  | .poll => some loop.poll

def step (loop : SelectLoop) (event : Event) : Option SelectLoop :=
  if loop.exited = none then loop.advance event else none

def machine (config : ServerConfig) (established : Nat) : Machine SelectLoop Event where
  initial := start config established
  step := step

end SelectLoop

end HighperfServer
