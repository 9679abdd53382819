import HighperfServer.Construction.Session
import HighperfServer.Library.Execution

namespace HighperfServer
open Library

/-- A call of the store waits at its next SQL statement or has returned. -/
inductive PendingCall where
  | inserting (row : SessionRow)
  | selecting (token : Str) (now : Int)
  | deleting (token : Str)
  | updating (token : Str) (now : Int) (session : Session)
  | removing (token : Str)
  | createReturned (token : Option Str)
  | getReturned (session : Option Session)
  | removeReturned
  deriving DecidableEq, Repr

/-- The replicas share one clock and one table while their calls interleave.

The two last fields record what the calls have done: the refreshed expiry of each lookup that
returned a session, and the tokens that were logged out. -/
structure Schedule where
  clock : Int
  sessions : Sessions
  calls : List PendingCall
  refreshed : List (Str × Int)
  removed : List Str

namespace Schedule

inductive Event where
  | tick (seconds : Nat)
  | create (username token csrfToken : Str)
  | get (token : Str)
  | remove (token : Str)
  | statement (index : Nat)
  deriving DecidableEq, Repr

def spawn (schedule : Schedule) (call : PendingCall) : Schedule :=
  { schedule with calls := schedule.calls ++ [call] }

def resume (schedule : Schedule) (index : Nat) (call : PendingCall) : Schedule :=
  { schedule with calls := schedule.calls.set index call }

/-- The next statement of a call takes effect and the call runs on to its following await. -/
def statement (schedule : Schedule) (index : Nat) : PendingCall → Option Schedule
  | .inserting row =>
      match schedule.sessions.insertRow row with
      | none => some (schedule.resume index (.createReturned none))
      | some sessions =>
          some { schedule.resume index (.createReturned (some row.token)) with sessions }
  | .selecting token now =>
      match schedule.sessions.selectLive token now with
      | none => some (schedule.resume index (.deleting token))
      | some session => some (schedule.resume index (.updating token now session))
  | .deleting token =>
      some { schedule.resume index (.getReturned none) with
        sessions := schedule.sessions.deleteToken token }
  | .updating token now session =>
      some { schedule.resume index (.getReturned (some session)) with
        sessions := schedule.sessions.updateExpiry (now + sessionTtlSecs) token
        refreshed := (token, now + sessionTtlSecs) :: schedule.refreshed }
  | .removing token =>
      some { schedule.resume index .removeReturned with
        sessions := schedule.sessions.deleteToken token
        removed := token :: schedule.removed }
  | .createReturned _ | .getReturned _ | .removeReturned => none

def step (schedule : Schedule) : Event → Option Schedule
  | .tick seconds => some { schedule with clock := schedule.clock + seconds }
  | .create username token csrfToken =>
      some (schedule.spawn
        (.inserting ⟨token, username, csrfToken, schedule.clock + sessionTtlSecs⟩))
  | .get token => some (schedule.spawn (.selecting token schedule.clock))
  | .remove token => some (schedule.spawn (.removing token))
  | .statement index => (schedule.calls[index]?).bind (schedule.statement index)

def machine (clock : Int) (sessions : Sessions) : Machine Schedule Event where
  initial := ⟨clock, sessions, [], [], []⟩
  step := step

end Schedule

end HighperfServer
