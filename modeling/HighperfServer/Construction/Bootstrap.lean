import HighperfServer.Construction.Models
import HighperfServer.Library.Execution

namespace HighperfServer
open Library

/-- A call of `create_user_with_hash_if_missing` waits at its next statement or has returned. -/
inductive BootstrapCall where
  | selecting (passwordHash : Str)
  | inserting (passwordHash : Str)
  | returned (result : Except SqlxError Unit)

structure Bootstrap where
  users : Users
  calls : List BootstrapCall

namespace Bootstrap

inductive Event where
  | start (passwordHash : Str)
  | statement (index : Nat)
  deriving DecidableEq, Repr

/-- The hash is parsed before the first statement. -/
def begin (argon2 : Argon2) (passwordHash : Str) : BootstrapCall :=
  match argon2.parseHash passwordHash with
  | .error error => .returned (.error (.protocol ("invalid Argon2 password hash: ".toList ++ error)))
  | .ok _ => .selecting passwordHash

def resume (bootstrap : Bootstrap) (index : Nat) (call : BootstrapCall) : Bootstrap :=
  { bootstrap with calls := bootstrap.calls.set index call }

def statement (username : Str) (bootstrap : Bootstrap) (index : Nat) :
    BootstrapCall → Option Bootstrap
  | .selecting passwordHash =>
      match bootstrap.users.lookup username with
      | some _ => some (bootstrap.resume index (.returned (.ok ())))
      | none => some (bootstrap.resume index (.inserting passwordHash))
  | .inserting passwordHash =>
      match bootstrap.users.insert ⟨username, passwordHash⟩ with
      | some users => some { bootstrap.resume index (.returned (.ok ())) with users }
      | none => some (bootstrap.resume index (.returned (.error .failed)))
  | .returned _ => none

def step (argon2 : Argon2) (username : Str) (bootstrap : Bootstrap) : Event → Option Bootstrap
  | .start passwordHash =>
      some { bootstrap with calls := bootstrap.calls ++ [begin argon2 passwordHash] }
  | .statement index => (bootstrap.calls[index]?).bind (statement username bootstrap index)

def machine (argon2 : Argon2) (username : Str) (users : Users) : Machine Bootstrap Event where
  initial := ⟨users, []⟩
  step := step argon2 username

end Bootstrap

end HighperfServer
