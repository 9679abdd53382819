import HighperfServer.Library.Sync
import HighperfServer.Proof.Session.Statements

namespace HighperfServer
open Library

/-- The call has drawn the token and not yet inserted its row. -/
def PendingCall.inserts (token : Str) : PendingCall → Bool
  | .inserting row => row.token = token
  | _ => false

namespace Schedule

/-- A creation draws its token. -/
def Event.drawn : Event → Option Str
  | .create _ token _ => some token
  | _ => none

/-- The tokens that the creations of a run draw, in order. -/
def drawnTokens (events : List Event) : List Str := events.filterMap Event.drawn

/-- `Uuid::new_v4` repeats no token of the table and none that it has drawn. -/
def NeverRepeats (sessions : Sessions) (events : List Event) : Prop :=
  (sessions.rows.map SessionRow.token ++ drawnTokens events).Nodup

/-- The row of the token was in the table at some point of the run. -/
def Issued (machine : Machine Schedule Event) (events : List Event) (token : Str) : Prop :=
  ∃ earlier later schedule, events = earlier ++ later ∧
    machine.run machine.initial earlier = some schedule ∧ schedule.sessions.lookup token ≠ none

/-- The number of rows of the token. -/
def rowCount (schedule : Schedule) (token : Str) : Nat :=
  (schedule.sessions.rows.map SessionRow.token).count token

/-- The number of pending insertions of the token. -/
def insertions (schedule : Schedule) (token : Str) : Nat :=
  schedule.calls.countP (·.inserts token)

/-- A token has no row exactly when the lookup finds none. -/
theorem rowCount_eq_zero_iff {schedule : Schedule} {token : Str} :
    schedule.rowCount token = 0 ↔ schedule.sessions.lookup token = none :=
  Table.count_key_eq_zero_iff

section Counts
variable {schedule next : Schedule} {index : Nat} {call : PendingCall}

/-- A call that moves past its insertion may have turned it into a row. -/
theorem counts_of_resume (pending : schedule.calls[index]? = some call) {later : PendingCall}
    {token : Str} (moved : later.inserts token = false)
    (calls : next.calls = schedule.calls.set index later)
    (rows : next.rowCount token ≤
      schedule.rowCount token + (if call.inserts token then 1 else 0)) :
    next.insertions token ≤ schedule.insertions token ∧
      next.rowCount token + next.insertions token ≤
        schedule.rowCount token + schedule.insertions token := by
  have count := countP_set_add (fun call : PendingCall => call.inserts token) pending later
  rw [moved, if_neg Bool.false_ne_true] at count
  unfold insertions
  rw [calls]
  omega

/-- An insertion adds one row of its own token. -/
theorem count_insertRow {sessions inserted : Sessions} {row : SessionRow}
    (done : sessions.insertRow row = some inserted) (token : Str) :
    (inserted.rows.map SessionRow.token).count token =
      (sessions.rows.map SessionRow.token).count token + (if row.token = token then 1 else 0) := by
  have rows := (Table.insert_eq_some_iff.mp done).2
  rw [rows, List.map_append, List.count_append]
  simp [List.count_cons]

/-- A deletion adds no row. -/
theorem count_deleteToken_le (sessions : Sessions) (deleted token : Str) :
    ((sessions.deleteToken deleted).rows.map SessionRow.token).count token ≤
      (sessions.rows.map SessionRow.token).count token :=
  (List.filter_sublist.map SessionRow.token).count_le token

/-- A refresh keeps the number of rows. -/
theorem count_updateExpiry (sessions : Sessions) (expiresAt : Int) (updated token : Str) :
    ((sessions.updateExpiry expiresAt updated).rows.map SessionRow.token).count token =
      (sessions.rows.map SessionRow.token).count token := by
  have same : (sessions.updateExpiry expiresAt updated).rows.map SessionRow.token =
      sessions.rows.map SessionRow.token := by
    simp only [Sessions.updateExpiry, Table.rewrite, List.map_map]
    apply List.map_congr_left
    intro row _
    dsimp only [Function.comp]
    split <;> rfl
  rw [same]

/-- A statement creates no insertion, and a row only out of an insertion. -/
theorem counts_statement (pending : schedule.calls[index]? = some call)
    (executed : schedule.statement index call = some next) (token : Str) :
    next.insertions token ≤ schedule.insertions token ∧
      next.rowCount token + next.insertions token ≤
        schedule.rowCount token + schedule.insertions token := by
  cases executes_of_statement executed with
  | refused | missed | found => exact counts_of_resume pending rfl rfl (Nat.le_add_right _ _)
  | inserted done =>
      apply counts_of_resume pending rfl rfl
      simp only [PendingCall.inserts, decide_eq_true_eq]
      exact (count_insertRow done token).le
  | deleted deleted =>
      exact counts_of_resume pending rfl rfl (count_deleteToken_le schedule.sessions deleted token)
  | updated updated now session =>
      apply counts_of_resume pending rfl rfl
      exact (count_updateExpiry schedule.sessions (now + sessionTtlSecs) updated token).le
  | removed removed =>
      exact counts_of_resume pending rfl rfl (count_deleteToken_le schedule.sessions removed token)

/-- A new call adds its own insertion, if it makes one. -/
theorem insertions_spawn (schedule : Schedule) (call : PendingCall) (token : Str) :
    (schedule.spawn call).insertions token =
      schedule.insertions token + (if call.inserts token then 1 else 0) := by
  simp only [insertions, spawn, List.countP_append, List.countP_singleton]

/-- Only a creation that draws the token adds an insertion of it. -/
theorem counts_step {event : Event} (enabled : schedule.step event = some next) (token : Str) :
    next.insertions token ≤ schedule.insertions token + (drawnTokens [event]).count token ∧
      next.rowCount token + next.insertions token ≤
        schedule.rowCount token + schedule.insertions token + (drawnTokens [event]).count token := by
  cases event with
  | tick seconds =>
      obtain rfl := Option.some.inj enabled
      exact ⟨Nat.le_add_right _ _, Nat.le_add_right _ _⟩
  | create username drawn csrfToken =>
      obtain rfl := Option.some.inj enabled
      have count : (drawnTokens [.create username drawn csrfToken]).count token =
          if drawn = token then 1 else 0 := by
        simp [drawnTokens, Event.drawn, List.count_cons]
      rw [count, insertions_spawn]
      simp only [PendingCall.inserts, decide_eq_true_eq]
      change _ ∧ schedule.rowCount token + _ ≤ _
      omega
  | get looked =>
      obtain rfl := Option.some.inj enabled
      rw [insertions_spawn]
      exact ⟨Nat.le_add_right _ _, Nat.le_add_right _ _⟩
  | remove removed =>
      obtain rfl := Option.some.inj enabled
      rw [insertions_spawn]
      exact ⟨Nat.le_add_right _ _, Nat.le_add_right _ _⟩
  | statement index =>
      obtain ⟨call, pending, executed⟩ := Option.bind_eq_some_iff.mp enabled
      have counts := counts_statement pending executed token
      omega

/-- Along a run the token gains at most one row or insertion for each time it is drawn. -/
theorem counts_run {clock : Int} {sessions : Sessions} {events : List Event} {final : Schedule}
    (ran : (machine clock sessions).run schedule events = some final) (token : Str) :
    final.insertions token ≤ schedule.insertions token + (drawnTokens events).count token ∧
      final.rowCount token + final.insertions token ≤
        schedule.rowCount token + schedule.insertions token + (drawnTokens events).count token := by
  induction events generalizing schedule with
  | nil =>
      obtain rfl := Option.some.inj ran
      exact ⟨Nat.le_add_right _ _, Nat.le_add_right _ _⟩
  | cons event rest ih =>
      obtain ⟨next, enabled, tail⟩ := Option.bind_eq_some_iff.mp ran
      have first := counts_step enabled token
      have later := ih tail
      have split : (drawnTokens (event :: rest)).count token =
          (drawnTokens [event]).count token + (drawnTokens rest).count token := by
        rw [← List.count_append, drawnTokens, drawnTokens, drawnTokens, ← List.filterMap_append]
        rfl
      omega

end Counts

/-- A token that was issued before, or is never drawn, has no insertion left to come. -/
theorem no_insertions {clock : Int} {sessions : Sessions} {before after : List Event}
    {schedule : Schedule} {token : Str} (unique : NeverRepeats sessions (before ++ after))
    (issued : token ∈ drawnTokens (before ++ after) → Issued (machine clock sessions) before token)
    (reached : (machine clock sessions).run (machine clock sessions).initial before =
      some schedule) :
    schedule.insertions token = 0 ∧ (drawnTokens after).count token = 0 := by
  have appended (first second : List Event) : (drawnTokens (first ++ second)).count token =
      (drawnTokens first).count token + (drawnTokens second).count token := by
    simp only [drawnTokens, List.filterMap_append, List.count_append]
  have bound : (machine clock sessions).initial.rowCount token +
      (drawnTokens (before ++ after)).count token ≤ 1 := by
    have count := List.nodup_iff_count_le_one.mp unique token
    rw [List.count_append] at count
    exact count
  have none : (machine clock sessions).initial.insertions token = 0 := rfl
  by_cases drawn : token ∈ drawnTokens (before ++ after)
  · obtain ⟨earlier, later, seen, rfl, visited, row⟩ := issued drawn
    rw [Machine.run_append, visited] at reached
    have first := counts_run visited token
    have second := counts_run reached token
    have positive : seen.rowCount token ≠ 0 := fun zero => row (rowCount_eq_zero_iff.mp zero)
    rw [appended, appended] at bound
    omega
  · have absent := List.count_eq_zero.mpr drawn
    have whole := counts_run reached token
    rw [appended] at absent
    omega

/-- The deletion of a logout leaves neither a row nor an insertion of its token. -/
theorem erased_of_removing {schedule deleted : Schedule} {index : Nat} {token : Str}
    (noInsertion : schedule.insertions token = 0)
    (removing : schedule.calls[index]? = some (.removing token))
    (enabled : schedule.step (.statement index) = some deleted) :
    deleted.rowCount token = 0 ∧ deleted.insertions token = 0 := by
  have insertions : deleted.insertions token ≤ 0 := by
    have counts := (counts_step enabled token).1
    rw [noInsertion] at counts
    exact counts
  obtain ⟨call, pending, executed⟩ := Option.bind_eq_some_iff.mp enabled
  obtain rfl := Option.some.inj (removing.symm.trans pending)
  obtain rfl := Option.some.inj executed
  exact ⟨rowCount_eq_zero_iff.mpr (Sessions.lookup_deleteToken_self _ _),
    Nat.eq_zero_of_le_zero insertions⟩

/-- An erased token that is not drawn again gets no row. -/
theorem absent_of_erased {clock : Int} {sessions : Sessions} {deleted state : Schedule}
    {token : Str} {events : List Event}
    (erased : deleted.rowCount token = 0 ∧ deleted.insertions token = 0)
    (notDrawn : (drawnTokens events).count token = 0)
    (visited : (machine clock sessions).run deleted events = some state) :
    state.sessions.lookup token = none := by
  have counts := (counts_run visited token).2
  apply rowCount_eq_zero_iff.mp
  omega

/-- The lookup has missed and returns nothing. -/
def Missed (schedule : Schedule) (index : Nat) (token : Str) : Prop :=
  schedule.calls[index]? = some (.deleting token) ∨
    schedule.calls[index]? = some (.getReturned none)

section Missed
variable {schedule next : Schedule} {index : Nat} {token : Str}

/-- A new call leaves a missed lookup missed. -/
theorem Missed.spawn (holds : schedule.Missed index token) (call : PendingCall) :
    (schedule.spawn call).Missed index token := by
  have kept {pending : PendingCall} (present : schedule.calls[index]? = some pending) :
      (schedule.calls ++ [call])[index]? = some pending := by
    rw [List.getElem?_append_left (List.getElem?_eq_some_iff.mp present).1, present]
  rcases holds with deleting | returned
  · exact .inl (kept deleting)
  · exact .inr (kept returned)

/-- A statement of another call leaves the miss alone. -/
theorem Missed.resume (holds : schedule.Missed index token) {other : Nat} (apart : other ≠ index)
    (call : PendingCall) : (schedule.resume other call).Missed index token := by
  unfold Missed Schedule.resume
  rw [List.getElem?_set_ne apart]
  exact holds

/-- A statement moves one call on. -/
theorem calls_statement {other : Nat} {call : PendingCall}
    (executed : schedule.statement other call = some next) :
    ∃ later, next.calls = (schedule.resume other later).calls := by
  cases executes_of_statement executed with
  | refused | inserted | missed | found | deleted | updated | removed => exact ⟨_, rfl⟩

/-- A missed lookup only runs its cleanup. -/
theorem Missed.step (holds : schedule.Missed index token) {event : Event}
    (enabled : schedule.step event = some next) : next.Missed index token := by
  cases event with
  | tick seconds =>
      obtain rfl := Option.some.inj enabled
      exact holds
  | create username drawn csrfToken =>
      obtain rfl := Option.some.inj enabled
      exact holds.spawn _
  | get looked =>
      obtain rfl := Option.some.inj enabled
      exact holds.spawn _
  | remove removed =>
      obtain rfl := Option.some.inj enabled
      exact holds.spawn _
  | statement other =>
      obtain ⟨call, pending, executed⟩ := Option.bind_eq_some_iff.mp enabled
      by_cases same : other = index
      · subst same
        rcases holds with deleting | returned
        · obtain rfl := Option.some.inj (deleting.symm.trans pending)
          obtain rfl := Option.some.inj executed
          right
          exact List.getElem?_set_self (List.getElem?_eq_some_iff.mp pending).1
        · obtain rfl := Option.some.inj (returned.symm.trans pending)
          exact absurd executed (by simp [statement])
      · obtain ⟨later, calls⟩ := calls_statement executed
        have kept := holds.resume same later
        unfold Missed at kept ⊢
        rw [calls]
        exact kept

/-- A select of an absent token misses. -/
theorem missed_of_select {now : Int} (absent : schedule.sessions.lookup token = none)
    (selecting : schedule.calls[index]? = some (.selecting token now))
    (enabled : schedule.step (.statement index) = some next) : next.Missed index token := by
  obtain ⟨call, pending, executed⟩ := Option.bind_eq_some_iff.mp enabled
  obtain rfl := Option.some.inj (selecting.symm.trans pending)
  have none : schedule.sessions.selectLive token now = none := by
    rw [Sessions.selectLive_eq_none_iff, absent]
    exact fun row found => absurd found (by simp)
  simp only [statement, none] at executed
  obtain rfl := Option.some.inj executed
  left
  exact List.getElem?_set_self (List.getElem?_eq_some_iff.mp pending).1

end Missed

section Looked
variable {schedule next : Schedule} {index : Nat} {token : Str}

/-- The lookup has not found its row. -/
def Unfound (schedule : Schedule) (index : Nat) (token : Str) : Prop :=
  (∃ now, schedule.calls[index]? = some (.selecting token now)) ∨ schedule.Missed index token

/-- A new call leaves a pending lookup alone. -/
theorem Unfound.spawn (holds : schedule.Unfound index token) (call : PendingCall) :
    (schedule.spawn call).Unfound index token := by
  rcases holds with ⟨now, selecting⟩ | missed
  · refine .inl ⟨now, ?_⟩
    rw [Schedule.spawn, List.getElem?_append_left (List.getElem?_eq_some_iff.mp selecting).1,
      selecting]
  · exact .inr (missed.spawn call)

/-- A select finds no row unless the table has one. -/
theorem Unfound.step (holds : schedule.Unfound index token)
    (absent : schedule.sessions.lookup token = none) {event : Event}
    (enabled : schedule.step event = some next) : next.Unfound index token := by
  rcases holds with ⟨now, selecting⟩ | missed
  · cases event with
    | tick seconds =>
        obtain rfl := Option.some.inj enabled
        exact .inl ⟨now, selecting⟩
    | create username drawn csrfToken =>
        obtain rfl := Option.some.inj enabled
        exact Unfound.spawn (.inl ⟨now, selecting⟩) _
    | get looked =>
        obtain rfl := Option.some.inj enabled
        exact Unfound.spawn (.inl ⟨now, selecting⟩) _
    | remove removed =>
        obtain rfl := Option.some.inj enabled
        exact Unfound.spawn (.inl ⟨now, selecting⟩) _
    | statement other =>
        by_cases same : other = index
        · subst same
          exact .inr (missed_of_select absent selecting enabled)
        · obtain ⟨call, pending, executed⟩ := Option.bind_eq_some_iff.mp enabled
          obtain ⟨later, calls⟩ := calls_statement executed
          refine .inl ⟨now, ?_⟩
          rw [calls, Schedule.resume, List.getElem?_set_ne same, selecting]
  · exact .inr (missed.step enabled)

/-- A lookup finds its row only where the table has one. -/
theorem exists_row_of_found {clock : Int} {sessions : Sessions} {events : List Event}
    {final : Schedule} (holds : schedule.Unfound index token)
    (ran : (machine clock sessions).run schedule events = some final)
    (found : ¬ final.Unfound index token) :
    ∃ front back seen, events = front ++ back ∧
      (machine clock sessions).run schedule front = some seen ∧
      seen.sessions.lookup token ≠ none := by
  induction events generalizing schedule with
  | nil =>
      obtain rfl := Option.some.inj ran
      exact absurd holds found
  | cons event rest ih =>
      by_cases absent : schedule.sessions.lookup token = none
      · obtain ⟨next, enabled, tail⟩ := Option.bind_eq_some_iff.mp ran
        obtain ⟨front, back, seen, rfl, visited, row⟩ := ih (holds.step absent enabled) tail
        exact ⟨event :: front, back, seen, rfl, Machine.run_step _ enabled visited, row⟩
      · exact ⟨[], event :: rest, schedule, rfl, rfl, absent⟩

/-- A lookup that has returned a session proves that its token was issued. -/
theorem issued_of_returned {clock : Int} {sessions : Sessions} {earlier later : List Event}
    {start : Schedule} {session : Session}
    (started : (machine clock sessions).run (machine clock sessions).initial earlier = some start)
    (reached : (machine clock sessions).run (machine clock sessions).initial
      (earlier ++ .get token :: later) = some schedule)
    (returned : schedule.calls[start.calls.length]? = some (.getReturned (some session))) :
    Issued (machine clock sessions) (earlier ++ .get token :: later) token := by
  rw [Machine.run_append, started] at reached
  have looking : (start.spawn (.selecting token start.clock)).Unfound start.calls.length token :=
    .inl ⟨start.clock, List.getElem?_concat_length⟩
  have found : ¬ schedule.Unfound start.calls.length token := by
    unfold Unfound Missed
    rw [returned]
    simp
  obtain ⟨front, back, seen, split, visited, row⟩ := exists_row_of_found looking reached found
  refine ⟨earlier ++ .get token :: front, back, seen, by simp [split], ?_, row⟩
  rw [Machine.run_append, started]
  exact visited

end Looked

/-- From a state without a pending insertion of the token its removal is final. -/
theorem final_of_no_insertions {clock : Int} {sessions : Sessions} {after : List Event}
    {schedule final : Schedule} {index : Nat} {token : Str}
    (uninserted : schedule.insertions token = 0 ∧ (drawnTokens after).count token = 0)
    (removing : schedule.calls[index]? = some (.removing token))
    (ran : (machine clock sessions).run schedule (.statement index :: after) = some final) :
    final.sessions.lookup token = none ∧
      ∀ between rest middle other now, after = between ++ .statement other :: rest →
        (machine clock sessions).run schedule (.statement index :: between) = some middle →
        middle.calls[other]? = some (.selecting token now) → final.Missed other token := by
  obtain ⟨noInsertion, notDrawn⟩ := uninserted
  obtain ⟨deleted, enabled, tail⟩ := Option.bind_eq_some_iff.mp ran
  change schedule.step (.statement index) = some deleted at enabled
  have erased := erased_of_removing noInsertion removing enabled
  refine ⟨absent_of_erased erased notDrawn tail, ?_⟩
  intro between rest middle other now split visited selecting
  obtain ⟨first, firstStep, visitedRest⟩ := Option.bind_eq_some_iff.mp visited
  obtain rfl := Option.some.inj (enabled.symm.trans firstStep)
  subst split
  have notDrawnBetween : (drawnTokens between).count token = 0 := by
    rw [drawnTokens, List.filterMap_append, List.count_append] at notDrawn
    exact (Nat.add_eq_zero_iff.mp notDrawn).1
  rw [Machine.run_append, visitedRest, Option.bind_some] at tail
  obtain ⟨selected, moved, ended⟩ := Option.bind_eq_some_iff.mp tail
  have missed : selected.Missed other token :=
    missed_of_select (absent_of_erased erased notDrawnBetween visitedRest) selecting moved
  exact (machine clock sessions).run_invariant (fun _ _ _ holds step => Missed.step holds step)
    missed ended

/-- The logout handler removes what its own lookup has returned, and that removal is final. -/
theorem handler_logout_final (clock : Int) (sessions : Sessions)
    (earlier later after : List Event) (start schedule final : Schedule) (session : Session)
    (index : Nat) (token : Str)
    (unique : NeverRepeats sessions ((earlier ++ .get token :: later) ++ after))
    (started : (machine clock sessions).run (machine clock sessions).initial earlier = some start)
    (reached : (machine clock sessions).run (machine clock sessions).initial
      (earlier ++ .get token :: later) = some schedule)
    (returned : schedule.calls[start.calls.length]? = some (.getReturned (some session)))
    (removing : schedule.calls[index]? = some (.removing token))
    (ran : (machine clock sessions).run schedule (.statement index :: after) = some final) :
    final.sessions.lookup token = none ∧
      ∀ between rest middle other now, after = between ++ .statement other :: rest →
        (machine clock sessions).run schedule (.statement index :: between) = some middle →
        middle.calls[other]? = some (.selecting token now) → final.Missed other token := by
  have issued := issued_of_returned started reached returned
  exact final_of_no_insertions (no_insertions unique (fun _ => issued) reached) removing ran

/-- Once the removal of a token that was issued has run, the row of the token stays away and every
later select of the token ends in no session. -/
theorem logout_final (clock : Int) (sessions : Sessions) (before after : List Event)
    (schedule final : Schedule) (index : Nat) (token : Str)
    (unique : NeverRepeats sessions (before ++ after))
    (issued : token ∈ drawnTokens (before ++ after) → Issued (machine clock sessions) before token)
    (reached : (machine clock sessions).run (machine clock sessions).initial before = some schedule)
    (removing : schedule.calls[index]? = some (.removing token))
    (ran : (machine clock sessions).run schedule (.statement index :: after) = some final) :
    final.sessions.lookup token = none ∧
      ∀ between rest middle other now, after = between ++ .statement other :: rest →
        (machine clock sessions).run schedule (.statement index :: between) = some middle →
        middle.calls[other]? = some (.selecting token now) → final.Missed other token :=
  final_of_no_insertions (no_insertions unique issued reached) removing ran

/-- A lookup stands between its select and its refresh when the logout deletes the row. -/
def overtakenRefresh : List Event :=
  [.create "ann".toList "token".toList "nonce".toList, .statement 0, .get "token".toList,
    .statement 1, .remove "token".toList]

/-- The overtaken refresh brings no row back and a new lookup misses. -/
theorem logout_final_overtaken :
    let machine := Schedule.machine 0 Table.empty
    let after := [Event.get "token".toList, .statement 1, .statement 3]
    ∃ schedule final, machine.run machine.initial overtakenRefresh = some schedule ∧
      schedule.calls[1]? = some (.updating "token".toList 0 ⟨"ann".toList, "nonce".toList⟩) ∧
      machine.run schedule (.statement 2 :: after) = some final ∧
      final.sessions.lookup "token".toList = none ∧ final.Missed 3 "token".toList := by
  intro machine after
  have issuedRun : (machine.run machine.initial (overtakenRefresh.take 2)).map
      (fun schedule => (schedule.sessions.lookup "token".toList).isSome) = some true := by
    decide
  obtain ⟨seen, visited, row⟩ := Option.map_eq_some_iff.mp issuedRun
  have firstRun : (machine.run machine.initial overtakenRefresh).map
      (fun schedule => (schedule.calls[1]?, schedule.calls[2]?)) =
        some (some (.updating "token".toList 0 ⟨"ann".toList, "nonce".toList⟩),
          some (.removing "token".toList)) := by
    decide
  obtain ⟨schedule, reached, calls⟩ := Option.map_eq_some_iff.mp firstRun
  obtain ⟨updating, removing⟩ := Prod.mk.inj calls
  have secondRun : (machine.run machine.initial (overtakenRefresh ++ .statement 2 :: after)).isSome =
      true := by
    decide
  obtain ⟨final, whole⟩ := Option.isSome_iff_exists.mp secondRun
  rw [Machine.run_append, reached] at whole
  have selectRun : (machine.run machine.initial
      (overtakenRefresh ++ [.statement 2, .get "token".toList, .statement 1])).map
        (fun schedule => schedule.calls[3]?) = some (some (.selecting "token".toList 0)) := by
    decide
  obtain ⟨middle, ranMiddle, selecting⟩ := Option.map_eq_some_iff.mp selectRun
  rw [Machine.run_append, reached] at ranMiddle
  have issued : Issued machine overtakenRefresh "token".toList := by
    refine ⟨overtakenRefresh.take 2, overtakenRefresh.drop 2, seen, rfl, visited, ?_⟩
    intro absent
    rw [absent] at row
    exact absurd row (by simp)
  have outcome := logout_final 0 Table.empty overtakenRefresh after schedule final 2
    "token".toList (by unfold NeverRepeats; decide) (fun _ => issued) reached removing whole
  exact ⟨schedule, final, reached, updating, whole, outcome.1,
    outcome.2 _ [] middle 3 0 rfl ranMiddle selecting⟩

/-- A removal runs between the drawing of its token and the insertion of the row. -/
def prematureRemoval : List Event :=
  [.create "ann".toList "token".toList "nonce".toList, .remove "token".toList, .statement 1,
    .statement 0]

/-- The insertion comes after the deletion, and a later lookup finds the session. -/
theorem logout_overtaken_insertion :
    let machine := Schedule.machine 0 Table.empty
    let lookup := [Event.get "token".toList, .statement 2, .statement 2]
    NeverRepeats Table.empty (prematureRemoval ++ lookup) ∧
    (machine.run machine.initial (prematureRemoval.take 3)).map
        (fun schedule => (schedule.removed, schedule.sessions.lookup "token".toList)) =
      some (["token".toList], none) ∧
    (machine.run machine.initial prematureRemoval).map
        (fun schedule => (schedule.sessions.lookup "token".toList).isSome) = some true ∧
    (machine.run machine.initial (prematureRemoval ++ lookup)).map
        (fun schedule => schedule.calls[2]?) =
      some (some (.getReturned (some ⟨"ann".toList, "nonce".toList⟩))) := by
  refine ⟨?_, by decide, by decide, by decide⟩
  unfold NeverRepeats
  decide

end Schedule

end HighperfServer
