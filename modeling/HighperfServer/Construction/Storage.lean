import HighperfServer.Construction.Models
import HighperfServer.Construction.Session
import HighperfServer.Library.Execution

namespace HighperfServer
open Library

namespace Storage

/-- The statements by which the server writes its tables, in the order in which any number of
requests and start-ups on the same database execute them. -/
inductive Statement where
  | insertItem (row : ItemRow)
  | deleteItem (id : Str)
  | insertUser (row : UserRow)
  | insertSession (row : SessionRow)
  | updateExpiry (expiresAt : Int) (token : Str)
  | deleteSession (token : Str)
  deriving DecidableEq, Repr

/-- A session is inserted with two drawn UUIDs, which are not empty. -/
def step (db : Database) : Statement → Option Database
  | .insertItem row => (db.items.insertRow row).map fun items => { db with items }
  | .deleteItem id => some { db with items := (db.items.deleteId id).2 }
  | .insertUser row => (db.users.insert row).map fun users => { db with users }
  | .insertSession row =>
      if row.token ≠ [] ∧ row.csrfToken ≠ [] then
        (db.sessions.insertRow row).map fun sessions => { db with sessions }
      else none
  | .updateExpiry expiresAt token =>
      some { db with sessions := db.sessions.updateExpiry expiresAt token }
  | .deleteSession token => some { db with sessions := db.sessions.deleteToken token }

def machine : Machine Database Statement := ⟨Database.migrated, step⟩

end Storage

end HighperfServer
