import HighperfServer.Construction.Bootstrap
import HighperfServer.Proof.Session.Statements

namespace HighperfServer
open Library

namespace Bootstrap

/-- The number of rows of the username. -/
def rowCount (bootstrap : Bootstrap) (username : Str) : Nat :=
  (bootstrap.users.rows.map UserRow.username).count username

/-- Every returned call is Ok, then exactly one row exists, and an earlier row is unchanged. -/
structure Safe (username : Str) (before : Users) (bootstrap : Bootstrap) : Prop where
  returns_ok : ∀ result, .returned result ∈ bootstrap.calls → result = .ok ()
  one_row : ∀ result, .returned result ∈ bootstrap.calls → bootstrap.rowCount username = 1
  keeps_row : ∀ row, before.lookup username = some row → bootstrap.users.lookup username = some row

/-- The started hash parses, and an insertion meets no row. -/
def Undisturbed (argon2 : Argon2) (username : Str) (bootstrap : Bootstrap) : Event → Prop
  | .start passwordHash => argon2.parseHash passwordHash = .ok ()
  | .statement index => ∀ passwordHash, bootstrap.calls[index]? = some (.inserting passwordHash) →
      bootstrap.users.lookup username = none

section Safe
variable {argon2 : Argon2} {username : Str} {before : Users} {bootstrap next : Bootstrap}

/-- A call that waits for a statement adds nothing to keep. -/
theorem Safe.of_pending (safe : Safe username before bootstrap) (users : next.users = bootstrap.users)
    (calls : ∀ result, .returned result ∈ next.calls → .returned result ∈ bootstrap.calls) :
    Safe username before next where
  returns_ok result member := safe.returns_ok result (calls result member)
  one_row result member := by
    rw [rowCount, users]
    exact safe.one_row result (calls result member)
  keeps_row := by
    rw [users]
    exact safe.keeps_row

/-- A call may return Ok once the row is there. -/
theorem Safe.of_returned (safe : Safe username before bootstrap)
    (calls : ∀ result, .returned result ∈ next.calls →
      .returned result ∈ bootstrap.calls ∨ result = .ok ())
    (present : next.users.lookup username ≠ none)
    (kept : ∀ row, before.lookup username = some row → next.users.lookup username = some row) :
    Safe username before next where
  returns_ok result member := (calls result member).elim (safe.returns_ok result) id
  one_row _ _ := Table.count_key_eq_one_iff.mpr present
  keeps_row := kept

/-- A result that a call of the next state holds was there before or is the new one. -/
theorem returned_of_resume {index : Nat} {call : BootstrapCall} {result : Except SqlxError Unit}
    (member : .returned result ∈ (bootstrap.resume index call).calls) :
    .returned result ∈ bootstrap.calls ∨ call = .returned result := by
  rcases List.mem_or_eq_of_mem_set member with earlier | new
  · exact .inl earlier
  · exact .inr new.symm

/-- A start is safe exactly when the hash parses. -/
theorem safe_start_iff (safe : Safe username before bootstrap) (passwordHash : Str) :
    argon2.parseHash passwordHash = .ok () ↔ Safe username before
      { bootstrap with calls := bootstrap.calls ++ [begin argon2 passwordHash] } := by
  cases parsed : argon2.parseHash passwordHash with
  | error message =>
      apply iff_of_false (by simp)
      intro wrong
      have returned := wrong.returns_ok (.error (.protocol
        ("invalid Argon2 password hash: ".toList ++ message))) (by simp [begin, parsed])
      simp at returned
  | ok value =>
      refine iff_of_true rfl (safe.of_pending rfl ?_)
      simp [begin, parsed]

/-- A select leaves the table alone and returns only past a row. -/
theorem Safe.selecting (safe : Safe username before bootstrap) {index : Nat} {passwordHash : Str}
    (moved : statement username bootstrap index (.selecting passwordHash) = some next) :
    Safe username before next := by
  cases found : bootstrap.users.lookup username with
  | none =>
      simp only [statement, found, Option.some.injEq] at moved
      subst moved
      refine safe.of_pending rfl ?_
      intro result member
      simpa using returned_of_resume member
  | some row =>
      simp only [statement, found, Option.some.injEq] at moved
      subst moved
      refine safe.of_returned ?_ (by simp [resume, found]) safe.keeps_row
      intro result member
      simpa [eq_comm] using returned_of_resume member

/-- An insertion is safe exactly when it meets no row. -/
theorem safe_inserting_iff (safe : Safe username before bootstrap) {index : Nat} {passwordHash : Str}
    (pending : bootstrap.calls[index]? = some (.inserting passwordHash))
    (moved : statement username bootstrap index (.inserting passwordHash) = some next) :
    bootstrap.users.lookup username = none ↔ Safe username before next := by
  cases inserted : bootstrap.users.insert ⟨username, passwordHash⟩ with
  | none =>
      simp only [statement, inserted, Option.some.injEq] at moved
      subst moved
      apply iff_of_false
      · intro absent
        exact Table.insert_ne_none absent inserted
      · intro wrong
        have bound := (List.getElem?_eq_some_iff.mp pending).1
        have returned := wrong.returns_ok _ (List.mem_set bound _)
        simp at returned
  | some users =>
      simp only [statement, inserted, Option.some.injEq] at moved
      subst moved
      have absent : bootstrap.users.lookup username = none := (Table.insert_eq_some_iff.mp inserted).1
      apply iff_of_true absent
      apply safe.of_returned
      · intro result member
        simpa [eq_comm] using returned_of_resume member
      · simp [Table.lookup_insert_self inserted]
      · intro row earlier
        have kept := safe.keeps_row row earlier
        simp [absent] at kept

/-- The steps that keep a safe state safe are the undisturbed ones. -/
theorem undisturbed_iff {event : Event} (safe : Safe username before bootstrap)
    (enabled : bootstrap.step argon2 username event = some next) :
    bootstrap.Undisturbed argon2 username event ↔ Safe username before next := by
  cases event with
  | start passwordHash =>
      obtain rfl := Option.some.inj enabled
      exact safe_start_iff safe passwordHash
  | statement index =>
      obtain ⟨call, pending, moved⟩ := Option.bind_eq_some_iff.mp enabled
      cases call with
      | returned result => simp [statement] at moved
      | selecting passwordHash => exact iff_of_true (by simp [Undisturbed, pending]) (safe.selecting moved)
      | inserting passwordHash =>
          rw [← safe_inserting_iff safe pending moved]
          simp [Undisturbed, pending]

end Safe

/-- Concurrent bootstraps are safe along a run exactly when every hash parses and no insertion
comes after another one. -/
theorem bootstraps_safe_iff (argon2 : Argon2) (username : Str) (before : Users) (events : List Event) :
    let machine := machine argon2 username before
    machine.Always (Safe username before) machine.initial events ↔
      machine.Meets (Undisturbed argon2 username) machine.initial events := by
  intro machine
  have start : Safe username before machine.initial := by
    constructor <;> simp [machine, Bootstrap.machine]
  exact machine.always_iff_meets (fun _ _ _ _ _ => trivial)
    (fun _ _ _ _ safe enabled => undisturbed_iff safe enabled) trivial start events

/-- Two replicas that start together both miss the row, and the second insertion aborts its start. -/
theorem bootstraps_race :
    let argon2 : Argon2 := ⟨fun _ _ => .ok [], fun _ => .ok (), fun _ _ => true⟩
    let machine := machine argon2 "admin".toList Table.empty
    let events := [Event.start "one".toList, .start "two".toList, .statement 0, .statement 1,
      .statement 0, .statement 1]
    (machine.run machine.initial events).map Bootstrap.calls =
        some [.returned (.ok ()), .returned (.error .failed)] ∧
      ¬ machine.Always (Safe "admin".toList Table.empty) machine.initial events := by
  intro argon2 machine events
  have ran : (machine.run machine.initial events).map Bootstrap.calls =
      some [.returned (.ok ()), .returned (.error .failed)] := rfl
  refine ⟨ran, fun always => ?_⟩
  obtain ⟨final, reached, calls⟩ := Option.map_eq_some_iff.mp ran
  have returned := (always.last reached).returns_ok (.error .failed) (by simp [calls])
  simp at returned

/-- The uninterrupted statements of a call make up `create_user_with_hash_if_missing`. -/
theorem run_call (argon2 : Argon2) (bootstrap : Bootstrap) (username passwordHash : Str) (env : Env)
    (db : Database) (faultless : SessionStore.Faultless env) (initial : Users) :
    let (result, world) := createUserWithHashIfMissing argon2 username passwordHash env
      (World.start { db with users := bootstrap.users })
    ∃ count, (machine argon2 username initial).run bootstrap
        (.start passwordHash :: List.replicate count (.statement bootstrap.calls.length)) =
      some ⟨world.db.users, bootstrap.calls ++ [.returned result]⟩ := by
  cases parsed : argon2.parseHash passwordHash with
  | error message =>
      simp only [createUserWithHashIfMissing, parsed]
      exact ⟨0, by simp [machine, step, begin, parsed, World.start, Query.fail]⟩
  | ok value =>
      simp only [createUserWithHashIfMissing, parsed, Query.bind_apply, World.start,
        SessionStore.execute_faultless faultless]
      cases found : bootstrap.users.lookup username with
      | some row =>
          exact ⟨1, by simp [machine, step, begin, parsed, statement, found, resume]⟩
      | none =>
          refine ⟨2, ?_⟩
          cases inserted : bootstrap.users.insert ⟨username, passwordHash⟩ with
          | none =>
              simp [machine, step, begin, parsed, statement, found, inserted, resume,
                SessionStore.execute_faultless faultless]
          | some users =>
              simp [machine, step, begin, parsed, statement, found, inserted, resume,
                SessionStore.execute_faultless faultless]

end Bootstrap

end HighperfServer
