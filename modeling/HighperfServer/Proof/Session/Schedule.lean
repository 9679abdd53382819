import HighperfServer.Proof.Session.Statements

namespace HighperfServer
open Library

namespace Schedule

/-- A lookup at any second before a refreshed expiry finds the session, unless it was logged out. -/
def Preserved (schedule : Schedule) : Prop :=
  ∀ token expiry, (token, expiry) ∈ schedule.refreshed → token ∉ schedule.removed →
    ∀ time, schedule.clock ≤ time → time < expiry → (schedule.sessions.selectLive token time).isSome

/-- The row of the token lasts until the expiry. -/
def Covers (sessions : Sessions) (token : Str) (expiry : Int) : Prop :=
  ∃ row, sessions.lookup token = some row ∧ expiry ≤ row.expiresAt

/-- A live session is one whose row outlives the clock. -/
theorem selectLive_isSome_iff {sessions : Sessions} {token : Str} {now : Int} :
    (sessions.selectLive token now).isSome ↔ Covers sessions token (now + 1) := by
  rw [Option.isSome_iff_exists]
  simp only [Sessions.selectLive_eq_some_iff, Covers]
  constructor
  · intro selected
    obtain ⟨_, row, found, live, _⟩ := selected
    exact ⟨row, found, by omega⟩
  · intro covered
    obtain ⟨row, found, live⟩ := covered
    exact ⟨_, row, found, by omega, rfl⟩

/-- The lookups before an expiry succeed exactly when the row lasts until it. -/
theorem preserved_iff {schedule : Schedule} :
    schedule.Preserved ↔ ∀ token expiry, (token, expiry) ∈ schedule.refreshed →
      token ∉ schedule.removed → schedule.clock < expiry → Covers schedule.sessions token expiry := by
  constructor
  · intro preserved token expiry refreshed kept early
    have last := preserved token expiry refreshed kept (expiry - 1) (by omega) (by omega)
    rw [selectLive_isSome_iff, Int.sub_add_cancel] at last
    exact last
  · intro covers token expiry refreshed kept time reached early
    obtain ⟨row, found, lasts⟩ := covers token expiry refreshed kept (by omega)
    exact selectLive_isSome_iff.mpr ⟨row, found, by omega⟩

/-- A deletion waits until every refreshed expiry of its token has passed, and a refresh finds its
row and lowers no expiry that still lies ahead. -/
def KeepsRefreshed (schedule : Schedule) : Event → Prop
  | .statement index =>
      match schedule.calls[index]? with
      | some (.deleting token) => token ∉ schedule.removed →
          ∀ expiry, (token, expiry) ∈ schedule.refreshed → expiry ≤ schedule.clock
      | some (.updating token now _) => token ∉ schedule.removed →
          (schedule.clock < now + sessionTtlSecs → schedule.sessions.lookup token ≠ none) ∧
          ∀ expiry, (token, expiry) ∈ schedule.refreshed → schedule.clock < expiry →
            expiry ≤ now + sessionTtlSecs
      | _ => True
  | _ => True

/-- A deletion leaves the other tokens covered. -/
theorem covers_deleteToken_of_ne {sessions : Sessions} {token other : Str} {expiry : Int}
    (different : other ≠ token) :
    Covers (sessions.deleteToken token) other expiry ↔ Covers sessions other expiry := by
  unfold Covers
  rw [Sessions.lookup_deleteToken_of_ne sessions different]

/-- A deleted token is not covered. -/
theorem not_covers_deleteToken {sessions : Sessions} {token : Str} {expiry : Int} :
    ¬ Covers (sessions.deleteToken token) token expiry := by
  simp [Covers]

/-- A refresh leaves the other tokens as they are. -/
theorem covers_updateExpiry_of_ne {sessions : Sessions} {token other : Str} {expiresAt expiry : Int}
    (different : other ≠ token) :
    Covers (sessions.updateExpiry expiresAt token) other expiry ↔ Covers sessions other expiry := by
  unfold Covers
  rw [Sessions.lookup_updateExpiry_of_ne sessions expiresAt different]

/-- A refreshed token is covered up to its new expiry. -/
theorem covers_updateExpiry_self {sessions : Sessions} {token : Str} {expiresAt expiry : Int} :
    Covers (sessions.updateExpiry expiresAt token) token expiry ↔
      sessions.lookup token ≠ none ∧ expiry ≤ expiresAt := by
  unfold Covers
  rw [Sessions.lookup_updateExpiry_self]
  cases sessions.lookup token <;> simp

/-- An insertion never shortens the life of a row. -/
theorem Covers.insertRow {sessions next : Sessions} {row : SessionRow} {token : Str} {expiry : Int}
    (inserted : sessions.insertRow row = some next) (covers : Covers sessions token expiry) :
    Covers next token expiry := by
  obtain ⟨found, present, lasts⟩ := covers
  have absent := (Table.insert_eq_some_iff.mp inserted).1
  have different : token ≠ row.token := by
    intro same
    rw [same] at present
    exact Option.some_ne_none found (present.symm.trans absent)
  exact ⟨found, (Table.lookup_insert_of_ne inserted different).trans present, lasts⟩

section Statements
variable {schedule : Schedule} (holds : schedule.Preserved) (index : Nat)
include holds

/-- A cleanup keeps the refreshed sessions exactly when they have all lapsed. -/
theorem preserved_deleting_iff (token : Str) :
    Preserved { schedule.resume index (.getReturned none) with
        sessions := schedule.sessions.deleteToken token } ↔
      (token ∉ schedule.removed →
        ∀ expiry, (token, expiry) ∈ schedule.refreshed → expiry ≤ schedule.clock) := by
  rw [preserved_iff] at holds ⊢
  simp only [resume]
  constructor
  · intro covers kept expiry refreshed
    by_contra ahead
    exact not_covers_deleteToken (covers token expiry refreshed kept (by omega))
  · intro lapsed other expiry refreshed kept early
    have different : other ≠ token := by
      intro same
      subst same
      have late := lapsed kept expiry refreshed
      omega
    rw [covers_deleteToken_of_ne different]
    exact holds other expiry refreshed kept early

/-- A refresh keeps the refreshed sessions exactly when it finds its row and lowers no expiry. -/
theorem preserved_updating_iff (token : Str) (now : Int) (session : Session) :
    Preserved { schedule.resume index (.getReturned (some session)) with
        sessions := schedule.sessions.updateExpiry (now + sessionTtlSecs) token
        refreshed := (token, now + sessionTtlSecs) :: schedule.refreshed } ↔
      (token ∉ schedule.removed →
        (schedule.clock < now + sessionTtlSecs → schedule.sessions.lookup token ≠ none) ∧
        ∀ expiry, (token, expiry) ∈ schedule.refreshed → schedule.clock < expiry →
          expiry ≤ now + sessionTtlSecs) := by
  rw [preserved_iff] at holds ⊢
  simp only [resume, List.mem_cons, Prod.mk.injEq]
  constructor
  · intro covers kept
    constructor
    · intro early
      exact (covers_updateExpiry_self.mp (covers token _ (.inl ⟨rfl, rfl⟩) kept early)).1
    · intro expiry refreshed early
      exact (covers_updateExpiry_self.mp (covers token expiry (.inr refreshed) kept early)).2
  · intro keeps other expiry refreshed kept early
    by_cases same : other = token
    · subst same
      obtain ⟨found, lowered⟩ := keeps kept
      rw [covers_updateExpiry_self]
      rcases refreshed with ⟨_, new⟩ | earlier
      · exact ⟨found (by omega), by omega⟩
      · have bound := lowered expiry earlier early
        exact ⟨found (by omega), bound⟩
    · rw [covers_updateExpiry_of_ne same]
      rcases refreshed with ⟨new, _⟩ | earlier
      · exact absurd new same
      · exact holds other expiry earlier kept early

/-- A logout ends the promise for its own token only. -/
theorem preserved_removing (token : Str) :
    Preserved { schedule.resume index .removeReturned with
      sessions := schedule.sessions.deleteToken token
      removed := token :: schedule.removed } := by
  rw [preserved_iff] at holds ⊢
  simp only [resume, List.mem_cons, not_or]
  intro other expiry refreshed kept early
  rw [covers_deleteToken_of_ne kept.1]
  exact holds other expiry refreshed kept.2 early

/-- An insertion preserves the recorded lookups. -/
theorem preserved_inserting {row : SessionRow} {next : Sessions} (call : PendingCall)
    (inserted : schedule.sessions.insertRow row = some next) :
    Preserved { schedule.resume index call with sessions := next } := by
  rw [preserved_iff] at holds ⊢
  intro token expiry refreshed kept early
  exact (holds token expiry refreshed kept early).insertRow inserted

theorem preserved_resume (call : PendingCall) : (schedule.resume index call).Preserved := holds

end Statements

/-- The guard decides at every step whether the refreshed sessions survive it. -/
theorem keepsRefreshed_iff {schedule next : Schedule} {event : Event} (holds : schedule.Preserved)
    (enabled : schedule.step event = some next) :
    schedule.KeepsRefreshed event ↔ next.Preserved := by
  cases event with
  | tick seconds =>
      obtain rfl := Option.some.inj enabled
      refine iff_of_true trivial ?_
      intro token expiry refreshed kept time reached early
      exact holds token expiry refreshed kept time (by simp only at reached; omega) early
  | create username token csrfToken =>
      obtain rfl := Option.some.inj enabled
      exact iff_of_true trivial holds
  | get token =>
      obtain rfl := Option.some.inj enabled
      exact iff_of_true trivial holds
  | remove token =>
      obtain rfl := Option.some.inj enabled
      exact iff_of_true trivial holds
  | statement index =>
      obtain ⟨call, pending, executed⟩ := Option.bind_eq_some_iff.mp enabled
      simp only [KeepsRefreshed, pending]
      cases executes_of_statement executed with
      | refused | missed | found => exact iff_of_true trivial (preserved_resume holds index _)
      | inserted done => exact iff_of_true trivial (preserved_inserting holds index _ done)
      | deleted token => exact (preserved_deleting_iff holds index token).symm
      | updated token now session =>
          exact (preserved_updating_iff holds index token now session).symm
      | removed token => exact iff_of_true trivial (preserved_removing holds index token)

/-- Every pending lookup read the clock in the past. -/
def ClockRead (schedule : Schedule) : Prop :=
  ∀ token now, .selecting token now ∈ schedule.calls → now ≤ schedule.clock

/-- A new call has read the clock. -/
theorem ClockRead.spawn {schedule : Schedule} (holds : schedule.ClockRead) {call : PendingCall}
    (read : ∀ token now, call = .selecting token now → now ≤ schedule.clock) :
    (schedule.spawn call).ClockRead := by
  intro token now member
  rcases List.mem_append.mp member with earlier | last
  · exact holds token now earlier
  · exact read token now (List.mem_singleton.mp last).symm

/-- A resumed call reads no clock. -/
theorem ClockRead.resume {schedule : Schedule} (holds : schedule.ClockRead) (index : Nat)
    {call : PendingCall} (other : ∀ token now, call ≠ .selecting token now) :
    (schedule.resume index call).ClockRead := by
  intro token now member
  rcases List.mem_or_eq_of_mem_set member with earlier | new
  · exact holds token now earlier
  · exact absurd new.symm (other token now)

/-- A statement continues its call past the clock reading and leaves the clock alone. -/
theorem ClockRead.statement {schedule next : Schedule} (holds : schedule.ClockRead) {index : Nat}
    {call : PendingCall} (executed : schedule.statement index call = some next) :
    next.ClockRead := by
  have resumed (later : PendingCall) (other : ∀ token now, later ≠ .selecting token now) :
      (schedule.resume index later).ClockRead := holds.resume index other
  cases executes_of_statement executed with
  | refused | inserted | missed | found | deleted | updated | removed => exact resumed _ (by simp)

/-- Every step keeps the clock readings in the past. -/
theorem ClockRead.step {schedule next : Schedule} {event : Event} (holds : schedule.ClockRead)
    (enabled : schedule.step event = some next) : next.ClockRead := by
  cases event with
  | tick seconds =>
      obtain rfl := Option.some.inj enabled
      intro token now member
      have past := holds token now member
      simp only
      omega
  | create username token csrfToken =>
      obtain rfl := Option.some.inj enabled
      exact holds.spawn (by simp)
  | get token =>
      obtain rfl := Option.some.inj enabled
      refine holds.spawn ?_
      intro looked now same
      obtain ⟨_, rfl⟩ := PendingCall.selecting.inj same
      exact Int.le_refl _
  | remove token =>
      obtain rfl := Option.some.inj enabled
      exact holds.spawn (by simp)
  | statement index =>
      obtain ⟨call, _, executed⟩ := Option.bind_eq_some_iff.mp enabled
      exact holds.statement executed

/-- A lookup whose select runs before a refreshed expiry of its token finds the session. -/
def Answered (schedule : Schedule) : Event → Prop
  | .statement index => ∀ token now expiry,
      schedule.calls[index]? = some (.selecting token now) → token ∉ schedule.removed →
      (token, expiry) ∈ schedule.refreshed → schedule.clock < expiry →
      (schedule.sessions.selectLive token now).isSome
  | _ => True

/-- A preserved schedule answers every lookup of a refreshed session. -/
theorem answered_of_preserved {schedule : Schedule} (preserved : schedule.Preserved)
    (read : schedule.ClockRead) (event : Event) : schedule.Answered event := by
  cases event with
  | statement index =>
      intro token now expiry pending kept refreshed early
      have past := read token now (List.mem_of_getElem? pending)
      obtain ⟨row, found, lasts⟩ := preserved_iff.mp preserved token expiry refreshed kept early
      exact selectLive_isSome_iff.mpr ⟨row, found, by omega⟩
  | _ => trivial

/-- Refreshed sessions survive a run exactly when each of its steps keeps them, and then every
lookup before a refreshed expiry is answered. -/
theorem refreshed_survive_iff (clock : Int) (sessions : Sessions) (events : List Event) :
    let machine := Schedule.machine clock sessions
    (machine.Always Preserved machine.initial events ↔
      machine.Meets KeepsRefreshed machine.initial events) ∧
    (machine.Meets KeepsRefreshed machine.initial events →
      machine.Meets Answered machine.initial events) := by
  intro machine
  have start : machine.initial.Preserved := by
    intro token expiry refreshed
    exact absurd refreshed List.not_mem_nil
  have startRead : machine.initial.ClockRead := by
    intro token now member
    exact absurd member List.not_mem_nil
  constructor
  · exact machine.always_iff_meets (fun _ _ _ read enabled => read.step enabled)
      (fun _ _ _ _ holds enabled => keepsRefreshed_iff holds enabled) startRead start events
  · intro meets
    have preserved (schedule : Schedule) (event : Event) (next : Schedule)
        (holds : schedule.Preserved ∧ schedule.ClockRead) (guarded : schedule.KeepsRefreshed event)
        (enabled : schedule.step event = some next) :
        schedule.Answered event ∧ next.Preserved ∧ next.ClockRead :=
      ⟨answered_of_preserved holds.1 holds.2 event,
        (keepsRefreshed_iff holds.1 enabled).mp guarded, holds.2.step enabled⟩
    exact meets.consequence preserved ⟨start, startRead⟩

/-- Two lookups straddle the expiry second, and the later one deletes what the earlier one has
refreshed. -/
def straddledExpiry : List Event :=
  [.create "ann".toList "token".toList "nonce".toList, .statement 0,
    .tick 3599, .get "token".toList, .tick 1, .get "token".toList,
    .statement 2, .statement 1, .statement 1, .statement 2]

/-- A third lookup, begun in the second of the refresh, finds no session. -/
theorem refreshed_session_lost :
    let machine := Schedule.machine 0 Table.empty
    let lookup := [Event.get "token".toList, .statement 3, .statement 3]
    (machine.run machine.initial straddledExpiry).map
        (fun schedule => (schedule.clock, schedule.refreshed, schedule.removed)) =
      some (3600, [("token".toList, 7199)], []) ∧
    (machine.run machine.initial (straddledExpiry ++ lookup)).map Schedule.calls =
      some [.createReturned (some "token".toList),
        .getReturned (some ⟨"ann".toList, "nonce".toList⟩), .getReturned none,
        .getReturned none] := by
  decide

/-- The uninterrupted schedule of a lookup is the lookup of the store. -/
theorem run_get (schedule : Schedule) (token : Str) (env : Env) (db : Database)
    (faultless : SessionStore.Faultless env) (clock : env.now = schedule.clock)
    (shared : db.sessions = schedule.sessions) (start : Int) (initial : Sessions) :
    let index := schedule.calls.length
    let (answer, world) := SessionStore.get token env (World.start db)
    ((Schedule.machine start initial).run schedule
        [.get token, .statement index, .statement index]).map
      (fun final => (final.calls[index]?, final.sessions)) =
        some (answer.toOption.map .getReturned, world.db.sessions) := by
  obtain ⟨answer, effect⟩ := SessionStore.get_faultless faultless token (World.start db)
  simp only [World.start, shared, clock] at answer effect
  simp only [World.start, answer, effect, Machine.run_cons, Machine.run_nil, machine, step, spawn,
    SessionStore.afterGet]
  cases selected : schedule.sessions.selectLive token schedule.clock <;>
    simp [statement, selected, resume, Except.toOption]

end Schedule

end HighperfServer
