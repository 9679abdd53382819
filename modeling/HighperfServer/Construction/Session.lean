import HighperfServer.Construction.Database
import HighperfServer.Library.Text

namespace HighperfServer
open Library

def sessionTtlSecs : Int := 3600

structure Session where
  username : Str
  csrfToken : Str
  deriving DecidableEq, Repr

namespace Sessions

def insertRow (sessions : Sessions) (row : SessionRow) : Option Sessions := sessions.insert row

/-- `SELECT username, csrf_token FROM sessions WHERE token = $1 AND expires_at > $2`. -/
def selectLive (sessions : Sessions) (token : Str) (now : Int) : Option Session :=
  (sessions.rows.find? fun row => row.token = token ∧ row.expiresAt > now).map fun row =>
    ⟨row.username, row.csrfToken⟩

def deleteToken (sessions : Sessions) (token : Str) : Sessions := sessions.erase token

def updateExpiry (sessions : Sessions) (expiresAt : Int) (token : Str) : Sessions :=
  sessions.rewrite (fun row => if row.token = token then { row with expiresAt } else row) (by
    intro row
    split <;> rfl)

end Sessions

namespace SessionStore

def create (username : Str) : DbQuery Str := do
  let token ← Query.lift newUuid
  let csrfToken ← Query.lift newUuid
  let now ← Query.lift nowSecs
  let row : SessionRow := ⟨token, username, csrfToken, now + sessionTtlSecs⟩
  execute fun db => (db.sessions.insertRow row).map fun sessions => ((), { db with sessions })
  pure token

/-- A lookup refreshes a live session and deletes the row of any other token. -/
def get (token : Str) : DbQuery (Option Session) := do
  let now ← Query.lift nowSecs
  let session ← execute fun db => some (db.sessions.selectLive token now, db)
  match session with
  | none =>
      execute fun db => some ((), { db with sessions := db.sessions.deleteToken token })
      pure none
  | some session =>
      execute fun db => some ((), { db with
        sessions := db.sessions.updateExpiry (now + sessionTtlSecs) token })
      pure (some session)

def remove (token : Str) : DbQuery Unit :=
  execute fun db => some ((), { db with sessions := db.sessions.deleteToken token })

end SessionStore

def extractSessionCookie (cookieHeader : Option Str) : Option Str :=
  cookieHeader.bind fun header =>
    (header.splitOn ';').findSome? fun part => "session=".toList.isPrefixOf? (trim part)

end HighperfServer
