import HighperfServer.Construction.Server.Routes
import HighperfServer.Proof.Storage

namespace HighperfServer
open Library

section Statements
variable {A : Type} {env : Env} {db : Database} {drawn : Nat}

end Statements

section Operations
variable {env : Env} {db : Database} {drawn : Nat}

/-- A lookup refreshes a live session and deletes any other row of the token. -/
def lookedUp (env : Env) (token : Str) (db : Database) : Database :=
  { db with sessions := match db.sessions.selectLive token env.now with
    | some _ => db.sessions.updateExpiry (env.now + sessionTtlSecs) token
    | none => db.sessions.deleteToken token }

/-- A request without a token looks nothing up. -/
def visited (env : Env) (token : Option Str) (db : Database) : Database :=
  token.elim db fun token => lookedUp env token db

end Operations

end HighperfServer
