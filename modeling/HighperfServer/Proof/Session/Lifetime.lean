import HighperfServer.Proof.Session.Statements
import Mathlib.Data.List.Chain
import Mathlib.Data.List.Induction

namespace HighperfServer
open Library

/-- The history of a store lists its calls with their clock readings. -/
inductive StoreCall where
  | create (username token csrfToken : Str)
  | get (token : Str)
  | remove (token : Str)
  deriving DecidableEq, Repr

/-- A call runs to completion at one clock second. -/
structure TimedCall where
  call : StoreCall
  time : Int
  deriving DecidableEq, Repr

/-- The token that a call concerns. -/
def StoreCall.token : StoreCall → Str
  | .create _ token _ => token
  | .get token => token
  | .remove token => token

/-- A creation draws its two UUIDs and no statement fails. -/
def TimedCall.env (timed : TimedCall) : Env where
  now := timed.time
  currentTimestamp := timed.time
  uuid := match timed.call with
    | .create _ token csrfToken => fun index => if index = 0 then token else csrfToken
    | _ => fun _ => []
  fault := fun _ => .none

/-- The database after one call. -/
def TimedCall.apply (timed : TimedCall) (db : Database) : Database :=
  match timed.call with
  | .create username _ _ => (SessionStore.create username timed.env (World.start db)).2.db
  | .get token => (SessionStore.get token timed.env (World.start db)).2.db
  | .remove token => (SessionStore.remove token timed.env (World.start db)).2.db

/-- The database after a history of calls. -/
def runCalls (db : Database) (calls : List TimedCall) : Database :=
  calls.foldl (fun db timed => timed.apply db) db

/-- The tokens that the creations of a history draw. -/
def createdTokens (calls : List TimedCall) : List Str :=
  calls.filterMap fun timed =>
    match timed.call with
    | .create _ token _ => some token
    | _ => none

/-- The times of the lookups of one token. -/
def getTimes (token : Str) (calls : List TimedCall) : List Int :=
  calls.filterMap fun timed => if timed.call = .get token then some timed.time else none

/-- Consecutive accesses are closer than the session lifetime. -/
def WithinTtl (earlier later : Int) : Prop := later - earlier < sessionTtlSecs

/-- The accesses since the creation of the token, when no removal follows it. -/
def Accessed (calls : List TimedCall) (token username csrfToken : Str) (times : List Int) : Prop :=
  ∃ before created after, calls = before ++ ⟨.create username token csrfToken, created⟩ :: after ∧
    (∀ timed ∈ after, timed.call ≠ .remove token) ∧ times = created :: getTimes token after

/-- The row of a token records its creation and its last access. -/
def Stored (calls : List TimedCall) (token : Str) (row : SessionRow) : Prop :=
  row.token = token ∧ ∃ times, Accessed calls token row.username row.csrfToken times ∧
    times.IsChain WithinTtl ∧ times.getLast? = some (row.expiresAt - sessionTtlSecs)

theorem getTimes_append (token : Str) (first second : List TimedCall) :
    getTimes token (first ++ second) = getTimes token first ++ getTimes token second :=
  List.filterMap_append

/-- One more call either creates the token or extends its accesses. -/
theorem accessed_snoc {calls : List TimedCall} {timed : TimedCall} {token username csrfToken : Str}
    {times : List Int} :
    Accessed (calls ++ [timed]) token username csrfToken times ↔
      (timed.call = .create username token csrfToken ∧ times = [timed.time]) ∨
      (timed.call ≠ .remove token ∧ ∃ earlier, Accessed calls token username csrfToken earlier ∧
        times = earlier ++ getTimes token [timed]) := by
  constructor
  · rintro ⟨before, created, after, same, kept, rfl⟩
    rcases List.eq_nil_or_concat after with rfl | ⟨initial, last, rfl⟩
    · obtain ⟨_, lastSame⟩ := List.append_inj' same rfl
      obtain rfl := List.cons.inj lastSame |>.1
      exact .inl ⟨rfl, rfl⟩
    · rw [List.concat_eq_append, ← List.cons_append, ← List.append_assoc] at same
      obtain ⟨callsSame, lastSame⟩ := List.append_inj' same rfl
      obtain rfl := List.cons.inj lastSame |>.1
      rw [List.concat_eq_append] at kept
      refine .inr ⟨kept timed (by simp), _, ⟨before, created, initial, callsSame, ?_, rfl⟩, ?_⟩
      · intro other member
        exact kept other (List.mem_append_left _ member)
      · rw [List.concat_eq_append, getTimes_append, List.cons_append]
  · rintro (⟨creates, rfl⟩ | ⟨notRemoved, _, ⟨before, created, after, rfl, kept, rfl⟩, rfl⟩)
    · refine ⟨calls, timed.time, [], ?_, by simp, rfl⟩
      rw [← creates]
    · refine ⟨before, created, after ++ [timed], by simp, ?_, ?_⟩
      · intro other member
        rcases List.mem_append.mp member with earlier | last
        · exact kept other earlier
        · rw [List.mem_singleton.mp last]
          exact notRemoved
      · rw [getTimes_append, List.cons_append]

/-- An accessed token was created. -/
theorem Accessed.created {calls : List TimedCall} {token username csrfToken : Str} {times : List Int}
    (accessed : Accessed calls token username csrfToken times) : token ∈ createdTokens calls := by
  obtain ⟨before, created, after, rfl, _, _⟩ := accessed
  simp [createdTokens]

theorem TimedCall.env_faultless (timed : TimedCall) : SessionStore.Faultless timed.env := fun _ => rfl

/-- A timed lookup has the effect of a lookup on the table. -/
theorem TimedCall.apply_get (token : Str) (time : Int) (db : Database) :
    (TimedCall.apply ⟨.get token, time⟩ db).sessions =
      SessionStore.afterGet db.sessions token time := by
  have effect := (SessionStore.get_faultless (TimedCall.env_faultless ⟨.get token, time⟩) token
    (World.start db)).2
  exact congrArg Database.sessions effect

/-- A timed logout deletes the row of its token. -/
theorem TimedCall.apply_remove (token : Str) (time : Int) (db : Database) :
    (TimedCall.apply ⟨.remove token, time⟩ db).sessions = db.sessions.deleteToken token := by
  have effect := SessionStore.remove_faultless (TimedCall.env_faultless ⟨.remove token, time⟩) token
    (World.start db)
  exact congrArg Database.sessions effect

/-- The row that a creation inserts. -/
def createdRow (username token csrfToken : Str) (time : Int) : SessionRow :=
  ⟨token, username, csrfToken, time + sessionTtlSecs⟩

/-- A creation returns its token and inserts its row unless the token exists. -/
theorem TimedCall.apply_create (username token csrfToken : Str) (time : Int) (db : Database) :
    let timed : TimedCall := ⟨.create username token csrfToken, time⟩
    match db.sessions.insertRow (createdRow username token csrfToken time) with
    | none => (timed.apply db).sessions = db.sessions
    | some sessions => (timed.apply db).sessions = sessions ∧
        (SessionStore.create username timed.env (World.start db)).1 = .ok token := by
  have effect := SessionStore.create_faultless
    (TimedCall.env_faultless ⟨.create username token csrfToken, time⟩) username (World.start db)
  change (match db.sessions.insertRow (createdRow username token csrfToken time) with
    | none => _
    | some sessions => _) at effect
  dsimp only
  cases inserted : db.sessions.insertRow (createdRow username token csrfToken time) with
  | none =>
      rw [inserted] at effect
      exact congrArg Database.sessions effect.2
  | some sessions =>
      rw [inserted] at effect
      exact ⟨congrArg Database.sessions effect.2, effect.1⟩

/-- A creation with an unused token stores its row and returns the token. -/
theorem TimedCall.apply_create_fresh (username token csrfToken : Str) (time : Int) (db : Database)
    (missing : db.sessions.lookup token = none) :
    let timed : TimedCall := ⟨.create username token csrfToken, time⟩
    (timed.apply db).sessions.lookup token = some (createdRow username token csrfToken time) ∧
      (SessionStore.create username timed.env (World.start db)).1 = .ok token := by
  have effect := TimedCall.apply_create username token csrfToken time db
  cases inserted : db.sessions.insertRow (createdRow username token csrfToken time) with
  | none => exact absurd inserted (Table.insert_ne_none missing)
  | some sessions =>
      simp only [inserted] at effect
      refine ⟨?_, effect.2⟩
      rw [effect.1]
      exact Table.lookup_insert_self inserted

/-- A lookup leaves the rows of other tokens. -/
theorem lookup_afterGet_of_ne (sessions : Sessions) {token other : Str} (now : Int)
    (different : other ≠ token) :
    (SessionStore.afterGet sessions token now).lookup other = sessions.lookup other := by
  unfold SessionStore.afterGet
  split
  · exact Sessions.lookup_deleteToken_of_ne sessions different
  · exact Sessions.lookup_updateExpiry_of_ne sessions _ different

/-- A call leaves the rows of all other tokens unchanged. -/
theorem TimedCall.apply_lookup_of_ne (timed : TimedCall) (db : Database) {other : Str}
    (different : other ≠ timed.call.token) :
    (timed.apply db).sessions.lookup other = db.sessions.lookup other := by
  obtain ⟨call, time⟩ := timed
  cases call with
  | create username token csrfToken =>
      have effect := TimedCall.apply_create username token csrfToken time db
      cases inserted : db.sessions.insertRow (createdRow username token csrfToken time) with
      | none =>
          simp only [inserted] at effect
          rw [effect]
      | some sessions =>
          simp only [inserted] at effect
          rw [effect.1]
          exact Table.lookup_insert_of_ne inserted different
  | get token =>
      rw [TimedCall.apply_get]
      exact lookup_afterGet_of_ne db.sessions time different
  | remove token =>
      rw [TimedCall.apply_remove]
      exact Sessions.lookup_deleteToken_of_ne db.sessions different

/-- A call on another token does not change what the history says about this one. -/
theorem stored_snoc_of_ne {calls : List TimedCall} {timed : TimedCall} {token : Str}
    {row : SessionRow} (different : token ≠ timed.call.token) :
    Stored (calls ++ [timed]) token row ↔ Stored calls token row := by
  have notGet : timed.call ≠ .get token := by
    intro same
    exact different (congrArg StoreCall.token same).symm
  have noTimes : getTimes token [timed] = [] := by simp [getTimes, notGet]
  have accessedSame (times : List Int) :
      Accessed (calls ++ [timed]) token row.username row.csrfToken times ↔
        Accessed calls token row.username row.csrfToken times := by
    rw [accessed_snoc, noTimes]
    constructor
    · intro accessed
      rcases accessed with ⟨creates, _⟩ | ⟨_, earlier, accessed, same⟩
      · exact absurd (congrArg StoreCall.token creates).symm different
      · rw [same, List.append_nil]
        exact accessed
    · intro accessed
      refine .inr ⟨?_, times, accessed, (List.append_nil times).symm⟩
      intro same
      exact different (congrArg StoreCall.token same).symm
  unfold Stored
  simp only [accessedSame]

/-- A token that was never created has no accesses. -/
theorem not_stored_of_fresh {calls : List TimedCall} {token : Str} {row : SessionRow}
    (fresh : token ∉ createdTokens calls) : ¬ Stored calls token row := by
  intro stored
  obtain ⟨_, _, accessed, _⟩ := stored
  exact fresh accessed.created

/-- A creation in a history of distinct tokens draws a token unknown before it. -/
theorem fresh_of_nodup {before after : List TimedCall} {username token csrfToken : Str} {time : Int}
    (distinct : (createdTokens (before ++ ⟨.create username token csrfToken, time⟩ :: after)).Nodup) :
    token ∉ createdTokens before := by
  intro present
  rw [createdTokens, List.filterMap_append, List.nodup_append] at distinct
  exact distinct.2.2 token present token (by simp) rfl

/-- A longer chain is a chain whose last step is within the lifetime. -/
theorem isChain_snoc {times : List Int} {last time : Int} (ends : times.getLast? = some last) :
    (times ++ [time]).IsChain WithinTtl ↔ times.IsChain WithinTtl ∧ WithinTtl last time := by
  rw [List.isChain_append]
  simp [ends]

/-- A fresh creation stores exactly its own row. -/
theorem stored_snoc_create {calls : List TimedCall} {username token csrfToken : Str} {time : Int}
    {row : SessionRow} (fresh : token ∉ createdTokens calls) :
    Stored (calls ++ [⟨.create username token csrfToken, time⟩]) token row ↔
      row = createdRow username token csrfToken time := by
  constructor
  · intro stored
    obtain ⟨keyed, times, accessed, _, ends⟩ := stored
    rcases accessed_snoc.mp accessed with ⟨creates, single⟩ | ⟨_, _, earlier, _⟩
    · obtain ⟨sameUser, _, sameCsrf⟩ := StoreCall.create.inj creates
      rw [single, List.getLast?_singleton, Option.some.injEq] at ends
      obtain ⟨rowToken, rowUser, rowCsrf, rowExpires⟩ := row
      simp only at keyed sameUser sameCsrf ends
      simp only [createdRow, SessionRow.mk.injEq]
      exact ⟨keyed, sameUser.symm, sameCsrf.symm, by omega⟩
    · exact absurd earlier.created fresh
  · intro same
    subst same
    refine ⟨rfl, [time], accessed_snoc.mpr (.inl ⟨rfl, rfl⟩), List.isChain_singleton _, ?_⟩
    simp [createdRow]

/-- A lookup keeps the row exactly when it comes in time, and then moves its expiry. -/
theorem stored_snoc_get {calls : List TimedCall} {token : Str} {time : Int} {row : SessionRow} :
    Stored (calls ++ [⟨.get token, time⟩]) token row ↔
      ∃ earlier, Stored calls token earlier ∧ time < earlier.expiresAt ∧
        row = { earlier with expiresAt := time + sessionTtlSecs } := by
  have oneTime : getTimes token [⟨.get token, time⟩] = [time] := by simp [getTimes]
  constructor
  · intro stored
    obtain ⟨keyed, times, accessed, chain, ends⟩ := stored
    rcases accessed_snoc.mp accessed with ⟨creates, _⟩ | ⟨_, before, accessedBefore, same⟩
    · exact absurd creates (by simp)
    · rw [oneTime] at same
      rw [same] at chain ends
      rw [List.getLast?_concat, Option.some.injEq] at ends
      have nonempty : before ≠ [] := by
        obtain ⟨_, _, _, _, _, rfl⟩ := accessedBefore
        simp
      have beforeEnds := List.getLast?_eq_getLast_of_ne_nil nonempty
      obtain ⟨chainBefore, inTime⟩ := (isChain_snoc beforeEnds).mp chain
      refine ⟨{ row with expiresAt := before.getLast nonempty + sessionTtlSecs }, ⟨keyed, before,
        accessedBefore, chainBefore, ?_⟩, ?_, ?_⟩
      · rw [beforeEnds]
        simp
      · simp only [WithinTtl] at inTime
        simp only
        omega
      · obtain ⟨rowToken, rowUser, rowCsrf, rowExpires⟩ := row
        simp only at ends
        simp only [SessionRow.mk.injEq, true_and]
        omega
  · intro earlierStored
    obtain ⟨earlier, ⟨keyed, before, accessed, chain, ends⟩, inTime, same⟩ := earlierStored
    subst same
    refine ⟨keyed, before ++ [time], accessed_snoc.mpr (.inr ⟨by simp, before, accessed, ?_⟩),
      (isChain_snoc ends).mpr ⟨chain, ?_⟩, ?_⟩
    · rw [oneTime]
    · simp only [WithinTtl]
      omega
    · rw [List.getLast?_concat]
      simp

/-- A removal leaves nothing stored under its token. -/
theorem not_stored_snoc_remove {calls : List TimedCall} {token : Str} {time : Int}
    {row : SessionRow} : ¬ Stored (calls ++ [⟨.remove token, time⟩]) token row := by
  intro stored
  obtain ⟨_, _, accessed, _⟩ := stored
  rcases accessed_snoc.mp accessed with ⟨creates, _⟩ | ⟨notRemoved, _⟩
  · exact absurd creates (by simp)
  · exact notRemoved rfl

/-- A lookup of the token itself keeps the live row with its new expiry. -/
theorem lookup_afterGet_self {sessions : Sessions} {token : Str} {now : Int} {row : SessionRow} :
    (SessionStore.afterGet sessions token now).lookup token = some row ↔
      ∃ earlier, sessions.lookup token = some earlier ∧ now < earlier.expiresAt ∧
        row = { earlier with expiresAt := now + sessionTtlSecs } := by
  unfold SessionStore.afterGet
  cases selected : sessions.selectLive token now with
  | none =>
      have expired := Sessions.selectLive_eq_none_iff.mp selected
      simp only [Sessions.lookup_deleteToken_self, reduceCtorEq, false_iff]
      intro kept
      obtain ⟨earlier, found, live, _⟩ := kept
      have late := expired earlier found
      omega
  | some session =>
      obtain ⟨earlier, found, live, _⟩ := Sessions.selectLive_eq_some_iff.mp selected
      simp only [Sessions.lookup_updateExpiry_self, found, Option.map_some, Option.some.injEq]
      constructor
      · intro same
        exact ⟨earlier, rfl, live, same.symm⟩
      · intro kept
        obtain ⟨other, same, _, rowSame⟩ := kept
        rw [rowSame, same]

theorem runCalls_snoc (db : Database) (calls : List TimedCall) (timed : TimedCall) :
    runCalls db (calls ++ [timed]) = timed.apply (runCalls db calls) := by
  simp [runCalls]

theorem createdTokens_append (first second : List TimedCall) :
    createdTokens (first ++ second) = createdTokens first ++ createdTokens second :=
  List.filterMap_append

/-- The table holds exactly the rows that the history of fresh creations stores. -/
theorem lookup_runCalls (db : Database) (noSession : db.sessions = Table.empty)
    (calls : List TimedCall) (fresh : (createdTokens calls).Nodup) (token : Str) (row : SessionRow) :
    (runCalls db calls).sessions.lookup token = some row ↔ Stored calls token row := by
  induction calls using List.reverseRecOn generalizing row with
  | nil =>
      have nothing : ¬ Stored [] token row := not_stored_of_fresh (by simp [createdTokens])
      simp [runCalls, noSession, nothing]
  | append_singleton calls timed ih =>
      have freshBefore : (createdTokens calls).Nodup := by
        rw [createdTokens_append, List.nodup_append] at fresh
        exact fresh.1
      rw [runCalls_snoc]
      by_cases same : token = timed.call.token
      · obtain ⟨call, time⟩ := timed
        cases call with
        | create username created csrfToken =>
            change token = created at same
            subst same
            have absent : token ∉ createdTokens calls := fresh_of_nodup fresh
            have missing : (runCalls db calls).sessions.lookup token = none := by
              rw [Option.eq_none_iff_forall_ne_some]
              intro other found
              exact not_stored_of_fresh absent ((ih freshBefore other).mp found)
            rw [stored_snoc_create absent, (TimedCall.apply_create_fresh username token csrfToken time
              (runCalls db calls) missing).1, Option.some.injEq, eq_comm]
        | get looked =>
            change token = looked at same
            subst same
            rw [TimedCall.apply_get, lookup_afterGet_self, stored_snoc_get]
            simp only [ih freshBefore]
        | remove removed =>
            change token = removed at same
            subst same
            rw [TimedCall.apply_remove, Sessions.lookup_deleteToken_self]
            simp [not_stored_snoc_remove]
      · rw [TimedCall.apply_lookup_of_ne timed _ same, ih freshBefore row, stored_snoc_of_ne same]

/-- The answer of a lookup at one clock second. -/
def getAnswer (db : Database) (token : Str) (time : Int) : Except SqlxError (Option Session) :=
  (SessionStore.get token (TimedCall.env ⟨.get token, time⟩) (World.start db)).1

/-- The answer of a creation at one clock second. -/
def createAnswer (db : Database) (username token csrfToken : Str) (time : Int) :
    Except SqlxError Str :=
  (SessionStore.create username (TimedCall.env ⟨.create username token csrfToken, time⟩)
    (World.start db)).1

/-- A lookup answers exactly with the live row of its token. -/
theorem getAnswer_eq_some_iff {db : Database} {token : Str} {time : Int} {session : Session} :
    getAnswer db token time = .ok (some session) ↔
      ∃ row, db.sessions.lookup token = some row ∧ time < row.expiresAt ∧
        session = ⟨row.username, row.csrfToken⟩ := by
  have answer := (SessionStore.get_faultless (TimedCall.env_faultless ⟨.get token, time⟩) token
    (World.start db)).1
  rw [← Sessions.selectLive_eq_some_iff, getAnswer, answer, Except.ok.injEq]
  rfl

/-- An answered lookup extends the chain of accesses that began with the creation. -/
theorem stored_live_iff {calls : List TimedCall} {token : Str} {time : Int} {session : Session} :
    (∃ row, Stored calls token row ∧ time < row.expiresAt ∧
        session = ⟨row.username, row.csrfToken⟩) ↔
      ∃ times, Accessed calls token session.username session.csrfToken times ∧
        (times ++ [time]).IsChain WithinTtl := by
  constructor
  · intro live
    obtain ⟨row, ⟨_, times, accessed, chain, ends⟩, inTime, same⟩ := live
    subst same
    refine ⟨times, accessed, (isChain_snoc ends).mpr ⟨chain, ?_⟩⟩
    simp only [WithinTtl]
    omega
  · intro accesses
    obtain ⟨times, accessed, chain⟩ := accesses
    have nonempty : times ≠ [] := by
      obtain ⟨_, _, _, _, _, same⟩ := accessed
      rw [same]
      exact List.cons_ne_nil _ _
    have ends := List.getLast?_eq_getLast_of_ne_nil nonempty
    obtain ⟨earlier, inTime⟩ := (isChain_snoc ends).mp chain
    refine ⟨⟨token, session.username, session.csrfToken, times.getLast nonempty + sessionTtlSecs⟩,
      ⟨rfl, times, accessed, earlier, ?_⟩, ?_, rfl⟩
    · rw [ends]
      simp
    · simp only [WithinTtl] at inTime
      simp only
      omega

/-- A creation of a run whose tokens are distinct returns its token. -/
theorem createAnswer_of_fresh (db : Database) (noSession : db.sessions = Table.empty)
    {before after : List TimedCall} {username token csrf : Str} {created : Int}
    (fresh : (createdTokens (before ++ ⟨.create username token csrf, created⟩ :: after)).Nodup) :
    createAnswer (runCalls db before) username token csrf created = .ok token := by
  have absent : token ∉ createdTokens before := fresh_of_nodup fresh
  rw [createdTokens_append, List.nodup_append] at fresh
  have missing : (runCalls db before).sessions.lookup token = none := by
    rw [Option.eq_none_iff_forall_ne_some]
    intro other found
    exact not_stored_of_fresh absent
      ((lookup_runCalls db noSession before fresh.1 token other).mp found)
  exact (TimedCall.apply_create_fresh username token csrf created _ missing).2

/-- A session answers a lookup exactly while its accesses stay within the lifetime of each other,
and no call touches the row of another token. -/
theorem session_lifetime (db : Database) (noSession : db.sessions = Table.empty)
    (calls : List TimedCall) (fresh : (createdTokens calls).Nodup) :
    (∀ token time session, getAnswer (runCalls db calls) token time = .ok (some session) ↔
      ∃ before created after,
        calls = before ++ ⟨.create session.username token session.csrfToken, created⟩ :: after ∧
        createAnswer (runCalls db before) session.username token session.csrfToken created =
          .ok token ∧
        (∀ timed ∈ after, timed.call ≠ .remove token) ∧
        (created :: getTimes token after ++ [time]).IsChain WithinTtl) ∧
    (∀ before timed after, calls = before ++ timed :: after → ∀ other, other ≠ timed.call.token →
      (timed.apply (runCalls db before)).sessions.lookup other =
        (runCalls db before).sessions.lookup other) := by
  constructor
  · intro token time session
    simp only [getAnswer_eq_some_iff, lookup_runCalls db noSession calls fresh, stored_live_iff]
    constructor
    · intro accesses
      obtain ⟨_, ⟨before, created, after, same, kept, rfl⟩, chain⟩ := accesses
      rw [same] at fresh
      exact ⟨before, created, after, same, createAnswer_of_fresh db noSession fresh, kept, chain⟩
    · intro accesses
      obtain ⟨before, created, after, same, _, kept, chain⟩ := accesses
      exact ⟨_, ⟨before, created, after, same, kept, rfl⟩, chain⟩
  · intro before timed after _ other different
    exact TimedCall.apply_lookup_of_ne timed _ different

/-- A session is created, looked up one second before its expiry, and outlives another user's. -/
def slidingHistory : List TimedCall :=
  [⟨.create "ann".toList "first".toList "nonce".toList, 100⟩,
    ⟨.get "first".toList, 3699⟩,
    ⟨.create "bob".toList "second".toList "other".toList, 3700⟩,
    ⟨.remove "second".toList, 3800⟩]

/-- Two lookups carry a session past its first expiry. -/
theorem session_lifetime_sliding :
    (createdTokens slidingHistory).Nodup ∧
      getAnswer (runCalls Database.migrated slidingHistory) "first".toList 7298 =
        .ok (some ⟨"ann".toList, "nonce".toList⟩) := by
  have distinct : (createdTokens slidingHistory).Nodup := by decide
  refine ⟨distinct, ((session_lifetime Database.migrated rfl slidingHistory distinct).1
    "first".toList 7298 ⟨"ann".toList, "nonce".toList⟩).mpr ?_⟩
  refine ⟨[], 100, slidingHistory.tail, rfl, rfl, by decide, ?_⟩
  have accesses : getTimes "first".toList slidingHistory.tail = [3699] := by decide
  rw [accesses]
  simp [WithinTtl, sessionTtlSecs]

end HighperfServer
