import HighperfServer.Construction.Session.Schedule

namespace HighperfServer
open Library

namespace Sessions

/-- A select finds exactly the unexpired row of the token. -/
theorem selectLive_eq_some_iff {sessions : Sessions} {token : Str} {now : Int} {session : Session} :
    sessions.selectLive token now = some session ↔
      ∃ row, sessions.lookup token = some row ∧ now < row.expiresAt ∧
        session = ⟨row.username, row.csrfToken⟩ := by
  rw [selectLive, Table.find_keyed, Option.map_eq_some_iff]
  constructor
  · rintro ⟨row, found, rfl⟩
    obtain ⟨present, live⟩ := Option.filter_eq_some_iff.mp found
    exact ⟨row, present, by simpa using live, rfl⟩
  · rintro ⟨row, present, live, rfl⟩
    exact ⟨row, Option.filter_eq_some_iff.mpr ⟨present, by simpa using live⟩, rfl⟩

/-- A select misses exactly when the row is absent or has expired. -/
theorem selectLive_eq_none_iff {sessions : Sessions} {token : Str} {now : Int} :
    sessions.selectLive token now = none ↔
      ∀ row, sessions.lookup token = some row → row.expiresAt ≤ now := by
  rw [selectLive, Table.find_keyed, Option.map_eq_none_iff, Option.filter_eq_none_iff]
  simp

@[simp] theorem lookup_deleteToken_self (sessions : Sessions) (token : Str) :
    (sessions.deleteToken token).lookup token = none := Table.lookup_erase_self _ _

/-- A deletion leaves the rows of other tokens. -/
theorem lookup_deleteToken_of_ne (sessions : Sessions) {token other : Str}
    (different : other ≠ token) :
    (sessions.deleteToken token).lookup other = sessions.lookup other :=
  Table.lookup_erase_of_ne _ different

/-- An update moves the expiry of the token's row. -/
@[simp] theorem lookup_updateExpiry_self (sessions : Sessions) (expiresAt : Int) (token : Str) :
    (sessions.updateExpiry expiresAt token).lookup token =
      (sessions.lookup token).map fun row => { row with expiresAt } := by
  rw [updateExpiry, Table.lookup_rewrite]
  apply Option.map_congr
  intro row found
  rw [if_pos (Table.key_of_lookup found)]

/-- A refresh leaves the rows of other tokens. -/
theorem lookup_updateExpiry_of_ne (sessions : Sessions) (expiresAt : Int) {token other : Str}
    (different : other ≠ token) :
    (sessions.updateExpiry expiresAt token).lookup other = sessions.lookup other := by
  rw [updateExpiry, Table.lookup_rewrite]
  cases found : sessions.lookup other with
  | none => rfl
  | some row =>
      have keyed : row.token = other := Table.key_of_lookup found
      rw [Option.map_some, if_neg (by rw [keyed]; exact different)]

end Sessions

namespace SessionStore

/-- No statement of the request fails. -/
def Faultless (env : Env) : Prop := ∀ statement, env.fault statement = .none

/-- Without a fault a statement has its effect. -/
theorem execute_faultless {A : Type} {env : Env} (faultless : Faultless env)
    (statement : Database → Option (A × Database)) (world : World) :
    execute statement env world =
      match statement world.db with
      | none => (.error .failed, { world with statements := world.statements + 1 })
      | some (value, db) => (.ok value, { world with db, statements := world.statements + 1 }) := by
  simp only [execute, faultless world.statements]
  cases statement world.db <;> rfl

/-- The rows after an undisturbed lookup. -/
def afterGet (sessions : Sessions) (token : Str) (now : Int) : Sessions :=
  match sessions.selectLive token now with
  | none => sessions.deleteToken token
  | some _ => sessions.updateExpiry (now + sessionTtlSecs) token

/-- Without faults a lookup answers its select and then deletes or refreshes the row. -/
theorem get_faultless {env : Env} (faultless : Faultless env) (token : Str) (world : World) :
    (get token env world).1 = .ok (world.db.sessions.selectLive token env.now) ∧
      (get token env world).2.db =
        { world.db with sessions := afterGet world.db.sessions token env.now } := by
  simp only [get, Query.bind_apply, Query.lift_apply, execute_faultless faultless, nowSecs,
    afterGet]
  cases world.db.sessions.selectLive token env.now <;>
    simp [Query.bind_apply, execute_faultless faultless]

/-- Without a fault a logout deletes the row. -/
theorem remove_faultless {env : Env} (faultless : Faultless env) (token : Str) (world : World) :
    (remove token env world).2.db =
      { world.db with sessions := world.db.sessions.deleteToken token } := by
  simp [remove, execute_faultless faultless]

/-- Without faults a creation returns its token exactly when the row is inserted. -/
theorem create_faultless {env : Env} (faultless : Faultless env) (username : Str) (world : World) :
    let row : SessionRow := ⟨env.uuid world.uuids, username, env.uuid (world.uuids + 1),
      env.now + sessionTtlSecs⟩
    match world.db.sessions.insertRow row with
    | none => (create username env world).1 = .error .failed ∧
        (create username env world).2.db = world.db
    | some sessions => (create username env world).1 = .ok row.token ∧
        (create username env world).2.db = { world.db with sessions } := by
  simp only [create, Query.bind_apply, Query.lift_apply, execute_faultless faultless, nowSecs,
    newUuid]
  cases world.db.sessions.insertRow _ <;> simp

end SessionStore

namespace Schedule

/-- What the statement of a pending call does to the table and to its call. -/
inductive Executes (schedule : Schedule) (index : Nat) : PendingCall → Schedule → Prop where
  | refused {row : SessionRow} (taken : schedule.sessions.insertRow row = none) :
      Executes schedule index (.inserting row) (schedule.resume index (.createReturned none))
  | inserted {row : SessionRow} {sessions : Sessions}
      (done : schedule.sessions.insertRow row = some sessions) :
      Executes schedule index (.inserting row)
        { schedule.resume index (.createReturned (some row.token)) with sessions }
  | missed {token : Str} {now : Int} (absent : schedule.sessions.selectLive token now = none) :
      Executes schedule index (.selecting token now) (schedule.resume index (.deleting token))
  | found {token : Str} {now : Int} {session : Session}
      (live : schedule.sessions.selectLive token now = some session) :
      Executes schedule index (.selecting token now)
        (schedule.resume index (.updating token now session))
  | deleted (token : Str) :
      Executes schedule index (.deleting token)
        { schedule.resume index (.getReturned none) with
          sessions := schedule.sessions.deleteToken token }
  | updated (token : Str) (now : Int) (session : Session) :
      Executes schedule index (.updating token now session)
        { schedule.resume index (.getReturned (some session)) with
          sessions := schedule.sessions.updateExpiry (now + sessionTtlSecs) token
          refreshed := (token, now + sessionTtlSecs) :: schedule.refreshed }
  | removed (token : Str) :
      Executes schedule index (.removing token)
        { schedule.resume index .removeReturned with
          sessions := schedule.sessions.deleteToken token
          removed := token :: schedule.removed }

/-- A returned call has no statement left, and every other call executes one. -/
theorem executes_of_statement {schedule next : Schedule} {index : Nat} {call : PendingCall}
    (executed : schedule.statement index call = some next) : schedule.Executes index call next := by
  cases call with
  | inserting row =>
      simp only [statement] at executed
      cases done : schedule.sessions.insertRow row with
      | none =>
          rw [done] at executed
          obtain rfl := Option.some.inj executed
          exact .refused done
      | some sessions =>
          rw [done] at executed
          obtain rfl := Option.some.inj executed
          exact .inserted done
  | selecting token now =>
      simp only [statement] at executed
      cases selected : schedule.sessions.selectLive token now with
      | none =>
          rw [selected] at executed
          obtain rfl := Option.some.inj executed
          exact .missed selected
      | some session =>
          rw [selected] at executed
          obtain rfl := Option.some.inj executed
          exact .found selected
  | deleting token =>
      obtain rfl := Option.some.inj executed
      exact .deleted token
  | updating token now session =>
      obtain rfl := Option.some.inj executed
      exact .updated token now session
  | removing token =>
      obtain rfl := Option.some.inj executed
      exact .removed token
  | createReturned _ | getReturned _ | removeReturned =>
      exact absurd executed (by simp [statement])

end Schedule

end HighperfServer
