import HighperfServer.Construction.Storage
import HighperfServer.Proof.Session.Statements

namespace HighperfServer
open Library

namespace Sessions

/-- A deletion keeps the rows of the other tokens. -/
theorem mem_deleteToken {sessions : Sessions} {token : Str} {row : SessionRow} :
    row ∈ (sessions.deleteToken token).rows ↔ row ∈ sessions.rows ∧ row.token ≠ token := by
  simp [deleteToken, Table.erase, Table.keep]

/-- An insertion adds its row alone. -/
theorem mem_insertRow {sessions next : Sessions} {row other : SessionRow}
    (inserted : sessions.insertRow row = some next) :
    other ∈ next.rows ↔ other ∈ sessions.rows ∨ other = row := by
  rw [(Table.insert_eq_some_iff.mp inserted).2, List.mem_append, List.mem_singleton]

end Sessions

namespace Storage

/-- No stored CSRF token is empty. -/
def TokensFilled (db : Database) : Prop := ∀ row ∈ db.sessions.rows, row.csrfToken ≠ []

/-- No drawn UUID is empty. -/
def UuidsFilled (env : Env) : Prop := ∀ index, env.uuid index ≠ []

/-- Every statement keeps the CSRF tokens filled. -/
theorem step_tokensFilled {db next : Database} {statement : Statement} (filled : TokensFilled db)
    (executed : step db statement = some next) : TokensFilled next := by
  cases statement with
  | insertItem row =>
      obtain ⟨items, _, rfl⟩ := Option.map_eq_some_iff.mp executed
      exact filled
  | deleteItem id =>
      obtain rfl := Option.some.inj executed
      exact filled
  | insertUser row =>
      obtain ⟨users, _, rfl⟩ := Option.map_eq_some_iff.mp executed
      exact filled
  | insertSession row =>
      obtain ⟨drawn, inserted⟩ := Option.ite_none_right_eq_some.mp executed
      obtain ⟨sessions, added, rfl⟩ := Option.map_eq_some_iff.mp inserted
      intro other member
      rcases (Sessions.mem_insertRow added).mp member with old | new
      · exact filled other old
      · rw [new]
        exact drawn.2
  | updateExpiry expiresAt token =>
      obtain rfl := Option.some.inj executed
      intro row member
      obtain ⟨old, present, rfl⟩ := List.mem_map.mp member
      have kept := filled old present
      split <;> exact kept
  | deleteSession token =>
      obtain rfl := Option.some.inj executed
      intro row member
      exact filled row (Sessions.mem_deleteToken.mp member).1

/-- Every reachable session row has a token and a CSRF token. -/
theorem reachable_tokensFilled {db : Database} (reachable : machine.Reachable db) :
    TokensFilled db := by
  refine machine.reachable_invariant ?_ ?_ reachable
  · intro row member
    exact absurd member List.not_mem_nil
  · intro state statement next filled executed
    exact step_tokensFilled filled executed

/-- Some statements lead from one database to another. -/
def Runs (before after : Database) : Prop :=
  ∃ statements, machine.run before statements = some after

theorem Runs.refl (db : Database) : Runs db db := ⟨[], rfl⟩

theorem Runs.trans {first second third : Database} (start : Runs first second)
    (rest : Runs second third) : Runs first third := by
  obtain ⟨before, reached⟩ := start
  obtain ⟨after, ended⟩ := rest
  refine ⟨before ++ after, ?_⟩
  rw [Machine.run_append, reached]
  exact ended

/-- One statement is a run. -/
theorem Runs.single {before after : Database} (statement : Statement)
    (executed : step before statement = some after) : Runs before after :=
  ⟨[statement], machine.run_step executed rfl⟩

/-- Two rows stand for one session, whose expiry may have moved. -/
def SameSession (first second : SessionRow) : Prop :=
  first.token = second.token ∧ first.username = second.username ∧
    first.csrfToken = second.csrfToken

theorem SameSession.refl (row : SessionRow) : SameSession row row := ⟨rfl, rfl, rfl⟩

/-- A request that only looks at its session keeps the items, the users and every live session,
and adds no session. -/
structure Kept (env : Env) (before after : Database) : Prop where
  items : after.items = before.items
  users : after.users = before.users
  old : ∀ row ∈ after.sessions.rows, ∃ earlier ∈ before.sessions.rows, SameSession earlier row
  live : ∀ row ∈ before.sessions.rows, env.now < row.expiresAt →
    ∃ later ∈ after.sessions.rows, SameSession row later ∧ env.now < later.expiresAt
  runs : Runs before after

theorem Kept.refl (env : Env) (db : Database) : Kept env db db where
  items := rfl
  users := rfl
  old := fun row member => ⟨row, member, SameSession.refl row⟩
  live := fun row member unexpired => ⟨row, member, SameSession.refl row, unexpired⟩
  runs := Runs.refl db

section Lookup
variable {env : Env} {db : Database} {token : Str}

/-- The deletion of a token without a live row keeps every live session. -/
theorem kept_deleteToken (missed : db.sessions.selectLive token env.now = none) :
    Kept env db { db with sessions := db.sessions.deleteToken token } where
  items := rfl
  users := rfl
  old := fun row member => ⟨row, (Sessions.mem_deleteToken.mp member).1, SameSession.refl row⟩
  live := by
    intro row member unexpired
    have different : row.token ≠ token := by
      intro same
      have found : db.sessions.lookup token = some row :=
        Table.lookup_eq_some_iff.mpr ⟨member, same⟩
      have expired := Sessions.selectLive_eq_none_iff.mp missed row found
      omega
    exact ⟨row, Sessions.mem_deleteToken.mpr ⟨member, different⟩, SameSession.refl row, unexpired⟩
  runs := Runs.single (.deleteSession token) rfl

/-- A refresh moves the expiry of one session and keeps every session. -/
theorem kept_updateExpiry :
    Kept env db { db with
      sessions := db.sessions.updateExpiry (env.now + sessionTtlSecs) token } where
  items := rfl
  users := rfl
  old := by
    intro row member
    obtain ⟨earlier, present, rfl⟩ := List.mem_map.mp member
    refine ⟨earlier, present, ?_⟩
    split <;> exact SameSession.refl _
  live := by
    intro row member unexpired
    refine ⟨_, List.mem_map_of_mem member, ?_⟩
    split
    · refine ⟨SameSession.refl _, ?_⟩
      show env.now < env.now + sessionTtlSecs
      have positive : 0 < sessionTtlSecs := by decide
      omega
    · exact ⟨SameSession.refl row, unexpired⟩
  runs := Runs.single (.updateExpiry (env.now + sessionTtlSecs) token) rfl

end Lookup

section Execute
variable {A : Type} {env : Env} {db : Database}

/-- A statement answers with its effect, and a failed one has no effect or its whole effect. -/
theorem execute_triple (statement : Database → Option (A × Database)) :
    Query.Triple env (fun world => world.db = db) (execute statement)
      (fun value world => statement db = some (value, world.db))
      (fun world => world.db = db ∨ ∃ value, statement db = some (value, world.db)) := by
  intro world same
  subst same
  unfold execute
  rcases executed : statement world.db with _ | ⟨value, after⟩ <;>
    cases env.fault world.statements <;> simp

/-- What holds before a statement and after its effect holds however it ends. -/
theorem execute_ensures {statement : Database → Option (A × Database)}
    {ensured : Database → Prop} (unchanged : ensured db)
    (effect : ∀ value after, statement db = some (value, after) → ensured after) :
    Query.Triple env (fun world => world.db = db) (execute statement)
      (fun _ world => ensured world.db) (fun world => ensured world.db) := by
  refine (execute_triple statement).consequence (fun _ same => same) ?_ ?_
  · intro value world executed
    exact effect value world.db executed
  · intro world failed
    rcases failed with same | ⟨value, executed⟩
    · rw [same]
      exact unchanged
    · exact effect value world.db executed

/-- A select answers with the rows and never changes the database. -/
theorem execute_select (select : Database → A) :
    Query.Triple env (fun world => world.db = db) (execute fun db => some (select db, db))
      (fun value world => value = select db ∧ world.db = db) (fun world => world.db = db) := by
  refine (execute_triple _).consequence (fun _ same => same) ?_ ?_
  · intro value world executed
    obtain ⟨same, unchanged⟩ := Prod.mk.inj (Option.some.inj executed)
    exact ⟨same.symm, unchanged.symm⟩
  · intro world failed
    rcases failed with unchanged | ⟨value, executed⟩
    · exact unchanged
    · exact (Prod.mk.inj (Option.some.inj executed)).2.symm

/-- A select keeps whatever holds of the database. -/
theorem select_keeps (select : Database → A) (ensured : Database → Prop) :
    Action.Triple env (fun world => ensured world.db)
      (execute fun db => some (select db, db)).result (fun _ world => ensured world.db) := by
  intro world holds
  have kept : Query.Triple env (fun other => other.db = world.db)
      (execute fun db => some (select db, db)) (fun _ other => other.db = world.db)
      (fun other => other.db = world.db) :=
    (execute_select select).consequence (fun _ same => same) (fun _ _ ended => ended.2) fun _ => id
  rw [kept.settled world rfl]
  exact holds

/-- Reading the clock changes nothing. -/
theorem nowSecs_triple : Action.Triple env (fun world => world.db = db) nowSecs
    (fun now world => now = env.now ∧ world.db = db) :=
  fun _ same => ⟨rfl, same⟩

/-- A drawn UUID leaves the database alone. -/
theorem newUuid_triple : Action.Triple env (fun world => world.db = db) newUuid
    (fun drawn world => (∃ index, drawn = env.uuid index) ∧ world.db = db) :=
  fun world same => ⟨⟨world.uuids, rfl⟩, same⟩

end Execute

section Operations
variable {env : Env} {db : Database}

/-- A lookup answers its select and keeps every live session, whichever statement fails. -/
theorem get_triple (token : Str) :
    Query.Triple env (fun world => world.db = db) (SessionStore.get token)
      (fun session world => session = db.sessions.selectLive token env.now ∧
        Kept env db world.db)
      (fun world => Kept env db world.db) := by
  have unchanged (world : World) (same : world.db = db) : Kept env db world.db := by
    rw [same]
    exact Kept.refl env db
  refine Query.Triple.bind (Query.Triple.lift nowSecs_triple) fun now => ?_
  refine Query.Triple.assuming fun clock => ?_
  subst clock
  refine Query.Triple.bind ((execute_select _).failing unchanged) fun session => ?_
  refine Query.Triple.assuming fun answer => ?_
  cases session with
  | none =>
      refine Query.Triple.bind (execute_ensures (Kept.refl env db) ?_) fun _ => ?_
      · intro value after executed
        rw [← (Prod.mk.inj (Option.some.inj executed)).2]
        exact kept_deleteToken answer.symm
      · exact Query.Triple.pure fun _ kept => ⟨answer, kept⟩
  | some session =>
      refine Query.Triple.bind (execute_ensures (Kept.refl env db) ?_) fun _ => ?_
      · intro value after executed
        rw [← (Prod.mk.inj (Option.some.inj executed)).2]
        exact kept_updateExpiry
      · exact Query.Triple.pure fun _ kept => ⟨answer, kept⟩

/-- At most one session of the user is inserted, with two drawn UUIDs. -/
def SessionCreated (env : Env) (username : Str) (before after : Database) : Prop :=
  after = before ∨ ∃ row sessions, row.username = username ∧
    (∃ index, row.token = env.uuid index) ∧ (∃ index, row.csrfToken = env.uuid index) ∧
    before.sessions.insertRow row = some sessions ∧ after = { before with sessions }

/-- A creation inserts a session, also when its reply is lost. -/
theorem create_triple (username : Str) :
    Query.Triple env (fun world => world.db = db) (SessionStore.create username)
      (fun _ world => SessionCreated env username db world.db)
      (fun world => SessionCreated env username db world.db) := by
  refine Query.Triple.bind (Query.Triple.lift newUuid_triple) fun token => ?_
  refine Query.Triple.assuming fun tokenDrawn => ?_
  refine Query.Triple.bind (Query.Triple.lift newUuid_triple) fun csrfToken => ?_
  refine Query.Triple.assuming fun csrfDrawn => ?_
  refine Query.Triple.bind (Query.Triple.lift nowSecs_triple) fun now => ?_
  refine Query.Triple.assuming fun _ => ?_
  refine Query.Triple.bind (execute_ensures (.inl rfl) ?_) fun _ =>
    Query.Triple.pure fun _ ensured => ensured
  intro value after executed
  obtain ⟨sessions, inserted, same⟩ := Option.map_eq_some_iff.mp executed
  exact .inr ⟨_, sessions, rfl, tokenDrawn, csrfDrawn, inserted, (Prod.mk.inj same).2.symm⟩

/-- The row of the token is deleted, or a failed statement has no effect. -/
def SessionRemoved (token : Str) (before after : Database) : Prop :=
  after = before ∨ after = { before with sessions := before.sessions.deleteToken token }

/-- A logout removes the row, also when its reply is lost. -/
theorem remove_triple (token : Str) :
    Query.Triple env (fun world => world.db = db) (SessionStore.remove token)
      (fun _ world => SessionRemoved token db world.db)
      (fun world => SessionRemoved token db world.db) := by
  refine execute_ensures (.inl rfl) ?_
  intro value after executed
  exact .inr (Prod.mk.inj (Option.some.inj executed)).2.symm

/-- The list of items changes nothing. -/
theorem listItems_keeps (ensured : Database → Prop) :
    Action.Triple env (fun world => ensured world.db) listItems.result
      (fun _ world => ensured world.db) := select_keeps _ ensured

/-- The view of an item changes nothing. -/
theorem getItem_keeps (id : Str) (ensured : Database → Prop) :
    Action.Triple env (fun world => ensured world.db) (getItem id).result
      (fun _ world => ensured world.db) := select_keeps _ ensured

/-- At most one item is inserted. -/
def ItemCreated (before after : Database) : Prop :=
  after = before ∨ ∃ row items, before.items.insertRow row = some items ∧
    after = { before with items }

/-- A creation inserts an item, also when its reply is lost. -/
theorem createItem_triple (name description : Str) :
    Query.Triple env (fun world => world.db = db) (createItem name description)
      (fun _ world => ItemCreated db world.db) (fun world => ItemCreated db world.db) := by
  have readEnv : Action.Triple env (fun world : World => world.db = db) Action.read
      (fun _ world => world.db = db) := fun _ same => same
  refine Query.Triple.bind (Query.Triple.lift newUuid_triple) fun id => ?_
  refine Query.Triple.assuming fun _ => ?_
  refine Query.Triple.bind (Query.Triple.lift readEnv) fun seen => ?_
  refine Query.Triple.bind (execute_ensures (.inl rfl) ?_) fun _ =>
    Query.Triple.pure fun _ ensured => ensured
  intro value after executed
  obtain ⟨items, inserted, same⟩ := Option.map_eq_some_iff.mp executed
  exact .inr ⟨_, items, inserted, (Prod.mk.inj same).2.symm⟩

/-- The item of the id is deleted, or a failed statement has no effect. -/
def ItemDeleted (id : Str) (before after : Database) : Prop :=
  after = before ∨ after = { before with items := before.items.erase id }

/-- A deletion removes the item, also when its reply is lost. -/
theorem deleteItem_triple (id : Str) :
    Query.Triple env (fun world => world.db = db) (deleteItem id)
      (fun _ world => ItemDeleted id db world.db) (fun world => ItemDeleted id db world.db) := by
  refine Query.Triple.bind (execute_ensures (.inl rfl) ?_) fun _ =>
    Query.Triple.pure fun _ ensured => ensured
  intro value after executed
  exact .inr (Prod.mk.inj (Option.some.inj executed)).2.symm

/-- A verification never changes the database. -/
theorem verifyUser_triple (argon2 : Argon2) (username password : Str) :
    Query.Triple env (fun world => world.db = db) (verifyUser argon2 username password)
      (fun _ world => world.db = db) (fun world => world.db = db) := by
  refine Query.Triple.bind (execute_select _) fun stored => ?_
  refine Query.Triple.assuming fun _ => ?_
  cases stored with
  | none => exact Query.Triple.pure fun _ same => same
  | some hash =>
      dsimp only
      cases argon2.parseHash hash with
      | error error => exact Query.Triple.pure fun _ same => same
      | ok parsed => exact Query.Triple.pure fun _ same => same

/-- A bootstrap inserts at most the missing account. -/
theorem createUserWithHashIfMissing_triple (argon2 : Argon2) (username passwordHash : Str) :
    Query.Triple env (fun world => world.db = db)
      (createUserWithHashIfMissing argon2 username passwordHash)
      (fun _ world => Runs db world.db) (fun world => Runs db world.db) := by
  have unchanged (world : World) (same : world.db = db) : Runs db world.db := by
    rw [same]
    exact Runs.refl db
  unfold createUserWithHashIfMissing
  cases argon2.parseHash passwordHash with
  | error error => exact Query.Triple.fail unchanged
  | ok parsed =>
      refine Query.Triple.bind ((execute_select _).failing unchanged) fun existing => ?_
      refine Query.Triple.assuming fun _ => ?_
      split
      · exact Query.Triple.pure unchanged
      · refine execute_ensures (Runs.refl db) ?_
        intro value after executed
        obtain ⟨users, inserted, same⟩ := Option.map_eq_some_iff.mp executed
        refine Runs.single (.insertUser ⟨username, passwordHash⟩) ?_
        rw [step, inserted, ← (Prod.mk.inj same).2]
        rfl

/-- A start-up leads from a reachable database to a reachable one. -/
theorem bootstrap_reachable (config : ServerConfig) (argon2 : Argon2)
    (authPasswordHash : Option Str) (salt : Str) (env : Env)
    (reachable : machine.Reachable db) :
    machine.Reachable (bootstrap config argon2 authPasswordHash salt env (World.start db)).2.db := by
  have stored (hash : Str) : Action.Triple env (fun world => world.db = db)
      (createUserWithHashIfMissing argon2 config.authUsername hash).result
      (fun _ world => Runs db world.db) :=
    (createUserWithHashIfMissing_triple argon2 config.authUsername hash).settled
  cases authPasswordHash with
  | some hash =>
      obtain ⟨statements, ran⟩ := stored hash (World.start db) rfl
      exact reachable.run ran
  | none =>
      unfold bootstrap createUserIfMissing
      dsimp only
      cases argon2.hashPassword config.authPassword salt with
      | error error => exact reachable
      | ok hash =>
          obtain ⟨statements, ran⟩ := stored hash (World.start db) rfl
          exact reachable.run ran

end Operations

end Storage

end HighperfServer
