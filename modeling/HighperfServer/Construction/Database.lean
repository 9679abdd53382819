import HighperfServer.Construction.Config
import HighperfServer.Library.Action
import HighperfServer.Library.Table

namespace HighperfServer
open Library

structure ItemRow where
  id : Str
  name : Str
  description : Str
  createdAt : Int
  deriving DecidableEq, Repr

structure UserRow where
  username : Str
  passwordHash : Str
  deriving DecidableEq, Repr

structure SessionRow where
  token : Str
  username : Str
  csrfToken : Str
  expiresAt : Int
  deriving DecidableEq, Repr

abbrev Items := Table ItemRow.id
abbrev Users := Table UserRow.username
abbrev Sessions := Table SessionRow.token

structure Database where
  items : Items
  users : Users
  sessions : Sessions
  deriving DecidableEq

def Database.migrated : Database := ⟨Table.empty, Table.empty, Table.empty⟩

/-- A statement succeeds, is refused without effect, or loses its reply after its effect. -/
inductive Fault where
  | none
  | refused
  | lostReply
  deriving DecidableEq, Repr

/-- The environment fixes the clock, the database's own timestamp, the drawn UUIDs and the
statement faults of one request. -/
structure Env where
  now : Int
  currentTimestamp : Int
  uuid : Nat → Str
  fault : Nat → Fault

structure World where
  db : Database
  statements : Nat
  uuids : Nat

def World.start (db : Database) : World := ⟨db, 0, 0⟩

inductive SqlxError where
  | failed
  | protocol (message : Str)
  deriving DecidableEq, Repr

abbrev DbAction := Action Env World
abbrev DbQuery := Query Env World SqlxError

def nowSecs : DbAction Int := fun env world => (env.now, world)

def newUuid : DbAction Str := fun env world =>
  (env.uuid world.uuids, { world with uuids := world.uuids + 1 })

/-- A statement runs atomically on the pool and fails on a constraint violation or a fault. -/
def execute {A : Type} (statement : Database → Option (A × Database)) : DbQuery A :=
  fun env world =>
    let counted := { world with statements := world.statements + 1 }
    match env.fault world.statements, statement world.db with
    | .refused, _ => (.error .failed, counted)
    | _, none => (.error .failed, counted)
    | .none, some (value, db) => (.ok value, { counted with db })
    | .lostReply, some (_, db) => (.error .failed, { counted with db })

end HighperfServer
