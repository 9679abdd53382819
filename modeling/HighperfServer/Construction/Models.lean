import HighperfServer.Construction.Database
import Mathlib.Data.Char
import Mathlib.Data.List.Lex

namespace HighperfServer
open Library

structure Item where
  id : Str
  name : Str
  description : Str
  deriving DecidableEq, Repr

structure CreateItem where
  name : Str
  description : Str
  deriving DecidableEq, Repr

def ItemRow.item (row : ItemRow) : Item := ⟨row.id, row.name, row.description⟩

namespace Items

def precedes (first second : ItemRow) : Bool :=
  first.createdAt < second.createdAt ∨
    (first.createdAt = second.createdAt ∧ first.id ≤ second.id)

/-- `SELECT id, name, description FROM items ORDER BY created_at ASC, id ASC`. -/
def selectAll (items : Items) : List Item := (items.rows.mergeSort precedes).map ItemRow.item

def selectId (items : Items) (id : Str) : Option Item := (items.lookup id).map ItemRow.item

/-- `INSERT INTO items` fails on an id that exists. -/
def insertRow (items : Items) (row : ItemRow) : Option Items := items.insert row

/-- `DELETE FROM items WHERE id = $1` reports how many rows it affects. -/
def deleteId (items : Items) (id : Str) : Nat × Items :=
  (items.rows.countP fun row => row.id = id, items.erase id)

end Items

/-- `argon2` hashes a password with a salt, parses a hash and verifies a password against it. -/
structure Argon2 where
  hashPassword : Str → Str → Except Str Str
  parseHash : Str → Except Str Unit
  verifyPassword : Str → Str → Bool

def listItems : DbQuery (List Item) := execute fun db => some (db.items.selectAll, db)

def getItem (id : Str) : DbQuery (Option Item) := execute fun db => some (db.items.selectId id, db)

def createItem (name description : Str) : DbQuery Item := do
  let id ← Query.lift newUuid
  let env ← Query.lift Action.read
  execute fun db => (db.items.insertRow ⟨id, name, description, env.currentTimestamp⟩).map
    fun items => ((), { db with items })
  pure ⟨id, name, description⟩

def deleteItem (id : Str) : DbQuery Bool := do
  let rowsAffected ← execute fun db =>
    some ((db.items.deleteId id).1, { db with items := (db.items.deleteId id).2 })
  pure (decide (0 < rowsAffected))

def createUserWithHashIfMissing (argon2 : Argon2) (username passwordHash : Str) : DbQuery Unit :=
  match argon2.parseHash passwordHash with
  | .error error => Query.fail (.protocol ("invalid Argon2 password hash: ".toList ++ error))
  | .ok _ => do
      let existing ← execute fun db => some ((db.users.lookup username).map UserRow.username, db)
      if existing.isSome then pure ()
      else execute fun db => (db.users.insert ⟨username, passwordHash⟩).map fun users =>
        ((), { db with users })

def createUserIfMissing (argon2 : Argon2) (salt username bootstrapPassword : Str) : DbQuery Unit :=
  match argon2.hashPassword bootstrapPassword salt with
  | .error error => Query.fail (.protocol error)
  | .ok hash => createUserWithHashIfMissing argon2 username hash

/-- The start-up prefers the hash of the environment to the configured password. -/
def bootstrap (config : ServerConfig) (argon2 : Argon2) (authPasswordHash : Option Str)
    (salt : Str) : DbQuery Unit :=
  match authPasswordHash with
  | some hash => createUserWithHashIfMissing argon2 config.authUsername hash
  | none => createUserIfMissing argon2 salt config.authUsername config.authPassword

def verifyUser (argon2 : Argon2) (username password : Str) : DbQuery Bool := do
  let stored ← execute fun db => some ((db.users.lookup username).map UserRow.passwordHash, db)
  match stored with
  | none => pure false
  | some hash =>
      match argon2.parseHash hash with
      | .error _ => pure false
      | .ok _ => pure (argon2.verifyPassword password hash)

end HighperfServer
