import HighperfServer.Construction.Models
import HighperfServer.Proof.Session.Statements
import Mathlib.Data.Int.Order.Basic

namespace HighperfServer
open Library

namespace Items

/-- A call that writes the items. -/
inductive ItemAction where
  | create (name description : Str)
  | delete (id : Str)
  deriving DecidableEq, Repr

/-- Every call runs in its own environment. -/
structure ItemCall where
  action : ItemAction
  env : Env

namespace ItemCall

/-- The database after the call. -/
def apply (call : ItemCall) (db : Database) : Database :=
  match call.action with
  | .create name description => (createItem name description call.env (World.start db)).2.db
  | .delete id => (deleteItem id call.env (World.start db)).2.db

/-- The statement of the call takes effect, even if its reply is lost. -/
def Effective (call : ItemCall) : Prop := call.env.fault 0 ≠ .refused

instance (call : ItemCall) : Decidable call.Effective :=
  inferInstanceAs (Decidable (_ ≠ _))

/-- The row that the call creates. -/
def created (call : ItemCall) : Option ItemRow :=
  match call.action with
  | .create name description =>
      if call.Effective then
        some ⟨call.env.uuid 0, name, description, call.env.currentTimestamp⟩
      else none
  | .delete _ => none

/-- The id that the call deletes. -/
def deleted (call : ItemCall) : Option Str :=
  match call.action with
  | .create _ _ => none
  | .delete id => if call.Effective then some id else none

/-- The items created and not since deleted, in the order of their creation. -/
def remaining (rows : List ItemRow) (call : ItemCall) : List ItemRow :=
  (rows.filter fun row => some row.id ≠ call.deleted) ++ call.created.toList

end ItemCall

/-- The database after a history of calls. -/
def runItemCalls (db : Database) (calls : List ItemCall) : Database :=
  calls.foldl (fun db call => call.apply db) db

/-- The items created and not since deleted, in the order of their creation. -/
def survivors (calls : List ItemCall) : List ItemRow := calls.foldl ItemCall.remaining []

/-- The ids that the creations of a history draw. -/
def createdIds (calls : List ItemCall) : List Str :=
  (calls.filterMap ItemCall.created).map ItemRow.id

/-- Two rows of one second are in the order of their ids. -/
def TieOrdered (first second : ItemRow) : Prop :=
  first.createdAt = second.createdAt → first.id ≤ second.id

/-- A statement changes the database unless it is refused. -/
theorem execute_db {A : Type} (statement : Database → Option (A × Database)) (env : Env)
    (world : World) :
    (execute statement env world).2.db =
      if env.fault world.statements = .refused then world.db
      else ((statement world.db).map Prod.snd).getD world.db := by
  unfold execute
  cases env.fault world.statements <;> cases statement world.db <;> rfl

/-- A creation inserts one row unless its statement is refused. -/
theorem createItem_items (name description : Str) (env : Env) (db : Database) :
    (createItem name description env (World.start db)).2.db.items =
      if env.fault 0 = .refused then db.items
      else (db.items.insertRow ⟨env.uuid 0, name, description, env.currentTimestamp⟩).getD
        db.items := by
  let insert (db : Database) : Option (Unit × Database) :=
    (db.items.insertRow ⟨env.uuid 0, name, description, env.currentTimestamp⟩).map
      fun items => ((), { db with items })
  have inserted : (createItem name description env (World.start db)).2 =
      (execute insert env ⟨db, 0, 1⟩).2 := Query.bind_pure_world _ _ env (⟨db, 0, 1⟩ : World)
  rw [inserted, execute_db, apply_ite Database.items]
  congr 1
  simp only [insert]
  cases db.items.insertRow _ <;> rfl

/-- A deletion erases the row unless its statement is refused. -/
theorem deleteItem_items (id : Str) (env : Env) (db : Database) :
    (deleteItem id env (World.start db)).2.db.items =
      if env.fault 0 = .refused then db.items else db.items.erase id := by
  let erase (db : Database) : Option (Nat × Database) :=
    some ((db.items.deleteId id).1, { db with items := (db.items.deleteId id).2 })
  have erased : (deleteItem id env (World.start db)).2 = (execute erase env (World.start db)).2 :=
    Query.bind_pure_world _ _ env (World.start db)
  rw [erased, execute_db, apply_ite Database.items]
  rfl

/-- A call with a fresh id leaves the remaining rows. -/
theorem apply_rows {call : ItemCall} {db : Database}
    (fresh : ∀ row ∈ call.created, db.items.lookup row.id = none) :
    (call.apply db).items.rows = call.remaining db.items.rows := by
  obtain ⟨action, env⟩ := call
  by_cases refused : env.fault 0 = .refused
  · cases action <;>
      simp [ItemCall.apply, createItem_items, deleteItem_items, ItemCall.remaining,
        ItemCall.created, ItemCall.deleted, ItemCall.Effective, refused]
  · cases action with
    | create name description =>
        have drawn : (⟨.create name description, env⟩ : ItemCall).created =
            some ⟨env.uuid 0, name, description, env.currentTimestamp⟩ := if_pos refused
        have absent := fresh _ drawn
        obtain ⟨items, inserted⟩ := Option.ne_none_iff_exists'.mp (Table.insert_ne_none absent)
        have grown := (Table.insert_eq_some_iff.mp inserted).2
        rw [ItemCall.apply, createItem_items, if_neg refused, insertRow, inserted, Option.getD_some,
          grown, ItemCall.remaining, drawn]
        simp [ItemCall.deleted]
    | delete id =>
        simp [ItemCall.apply, deleteItem_items, ItemCall.remaining, ItemCall.created,
          ItemCall.deleted, ItemCall.Effective, refused, Table.erase, Table.keep]

/-- Rows are ordered by creation time and then by id. -/
theorem precedes_iff {first second : ItemRow} : precedes first second = true ↔
    first.createdAt < second.createdAt ∨
      (first.createdAt = second.createdAt ∧ first.id ≤ second.id) := decide_eq_true_iff

/-- The order of the rows is transitive. -/
theorem precedes_trans (first second third : ItemRow) (one : precedes first second = true)
    (two : precedes second third = true) : precedes first third = true := by
  rw [precedes_iff] at one two ⊢
  rcases one with earlier | ⟨same, ids⟩ <;> rcases two with later | ⟨sameNext, idsNext⟩
  · exact .inl (earlier.trans later)
  · exact .inl (sameNext ▸ earlier)
  · exact .inl (same ▸ later)
  · exact .inr ⟨same.trans sameNext, le_trans ids idsNext⟩

/-- The order of the rows is total. -/
theorem precedes_total (first second : ItemRow) :
    (precedes first second || precedes second first) = true := by
  rw [Bool.or_eq_true, precedes_iff, precedes_iff]
  rcases lt_trichotomy first.createdAt second.createdAt with earlier | same | later
  · exact .inl (.inl earlier)
  · exact (le_total first.id second.id).imp (fun ids => .inr ⟨same, ids⟩)
      fun ids => .inr ⟨same.symm, ids⟩
  · exact .inr (.inl later)

theorem createdIds_cons (call : ItemCall) (rest : List ItemCall) :
    createdIds (call :: rest) = call.created.toList.map ItemRow.id ++ createdIds rest := by
  unfold createdIds
  cases made : call.created <;> simp [made]

/-- A remaining row was there before or is the created one. -/
theorem mem_remaining {rows : List ItemRow} {call : ItemCall} {row : ItemRow}
    (member : row ∈ call.remaining rows) : row ∈ rows ∨ call.created = some row := by
  rcases List.mem_append.mp member with kept | made
  · exact .inl (List.mem_filter.mp kept).1
  · exact .inr (Option.mem_toList.mp made)

/-- A history with fresh ids leaves the remaining rows. -/
theorem runItemCalls_rows {calls : List ItemCall} {db : Database}
    (fresh : ∀ id ∈ createdIds calls, db.items.lookup id = none)
    (distinct : (createdIds calls).Nodup) :
    (runItemCalls db calls).items.rows = calls.foldl ItemCall.remaining db.items.rows := by
  induction calls generalizing db with
  | nil => rfl
  | cons call rest ih =>
      rw [createdIds_cons] at fresh distinct
      have step : (call.apply db).items.rows = call.remaining db.items.rows := by
        apply apply_rows
        intro row made
        exact fresh row.id (List.mem_append_left _
          (List.mem_map_of_mem (Option.mem_toList.mpr made)))
      have freshRest (id : Str) (member : id ∈ createdIds rest) :
          (call.apply db).items.lookup id = none := by
        have absent := Table.lookup_eq_none_iff.mp (fresh id (List.mem_append_right _ member))
        rw [Table.lookup_eq_none_iff, step]
        intro row inside
        rcases mem_remaining inside with earlier | made
        · exact absent row earlier
        · exact (List.nodup_append.mp distinct).2.2 _
            (List.mem_map_of_mem (Option.mem_toList.mpr made)) _ member
      rw [List.foldl_cons, ← step]
      exact ih freshRest (List.nodup_append.mp distinct).2.1

/-- The database stamps a row with its own clock. -/
theorem created_createdAt {call : ItemCall} {row : ItemRow} (made : call.created = some row) :
    row.createdAt = call.env.currentTimestamp := by
  obtain ⟨action, env⟩ := call
  cases action with
  | create name description =>
      obtain ⟨_, same⟩ := Option.ite_none_right_eq_some.mp made
      rw [← Option.some.inj same]
  | delete id => exact absurd made (by simp [ItemCall.created])

/-- The remaining rows are in the order of their timestamps. -/
theorem survivors_ordered {calls : List ItemCall} {rows : List ItemRow}
    (times : (calls.map fun call => call.env.currentTimestamp).Pairwise (· ≤ ·))
    (before : ∀ row ∈ rows, ∀ call ∈ calls, row.createdAt ≤ call.env.currentTimestamp)
    (ordered : rows.Pairwise fun first second => first.createdAt ≤ second.createdAt) :
    (calls.foldl ItemCall.remaining rows).Pairwise fun first second =>
      first.createdAt ≤ second.createdAt := by
  induction calls generalizing rows with
  | nil => exact ordered
  | cons call rest ih =>
      rw [List.map_cons, List.pairwise_cons] at times
      apply ih times.2
      · intro row member later among
        rcases mem_remaining member with earlier | made
        · exact before row earlier later (List.mem_cons_of_mem _ among)
        · rw [created_createdAt made]
          exact times.1 _ (List.mem_map_of_mem among)
      · apply List.pairwise_append.mpr
        refine ⟨ordered.filter _, ?_, ?_⟩
        · cases call.created <;> simp
        · intro row kept other made
          rw [created_createdAt (Option.mem_toList.mp made)]
          exact before row (List.mem_filter.mp kept).1 call List.mem_cons_self

/-- The listing is in the order of the rows when ties are. -/
theorem selectAll_eq_iff {items : Items}
    (ordered : items.rows.Pairwise fun first second => first.createdAt ≤ second.createdAt) :
    items.selectAll = items.rows.map ItemRow.item ↔ items.rows.Pairwise TieOrdered := by
  have permuted := List.mergeSort_perm items.rows precedes
  constructor
  · intro listed
    have ids : (items.rows.mergeSort precedes).map ItemRow.id = items.rows.map ItemRow.id := by
      have names := congrArg (List.map Item.id) listed
      rwa [selectAll, List.map_map, List.map_map] at names
    have same : items.rows.mergeSort precedes = items.rows :=
      Table.eq_of_map_key (fun row member => permuted.mem_iff.mp member) (fun _ member => member) ids
    have sorted := List.pairwise_mergeSort precedes_trans precedes_total items.rows
    rw [same] at sorted
    apply sorted.imp
    intro first second before tied
    rcases precedes_iff.mp before with earlier | ⟨_, ids⟩
    · exact absurd tied earlier.ne
    · exact ids
  · intro ties
    have sorted : items.rows.Pairwise fun first second => precedes first second = true := by
      apply (ordered.and ties).imp
      rintro first second ⟨before, tie⟩
      apply precedes_iff.mpr
      rcases before.lt_or_eq with earlier | tied
      · exact .inl earlier
      · exact .inr ⟨tied, tie tied⟩
    rw [selectAll, List.mergeSort_of_pairwise sorted]

/-- The listing holds the items created and not since deleted, in the order of their creation
exactly when those of one second were created in the order of their ids. -/
theorem listItems_created_iff (calls : List ItemCall) (env : Env)
    (times : (calls.map fun call => call.env.currentTimestamp).Pairwise (· ≤ ·))
    (fresh : (createdIds calls).Nodup) (answered : env.fault 0 = .none) :
    ∃ listed, (listItems env (World.start (runItemCalls Database.migrated calls))).1 = .ok listed ∧
      listed.Perm ((survivors calls).map ItemRow.item) ∧
      (listed = (survivors calls).map ItemRow.item ↔ (survivors calls).Pairwise TieOrdered) := by
  have rows : (runItemCalls Database.migrated calls).items.rows = survivors calls :=
    runItemCalls_rows (fun id _ => Table.lookup_empty id) fresh
  have ordered : (survivors calls).Pairwise fun first second => first.createdAt ≤ second.createdAt :=
    survivors_ordered times (by simp) .nil
  rw [← rows] at ordered ⊢
  refine ⟨(runItemCalls Database.migrated calls).items.selectAll, ?_, ?_, selectAll_eq_iff ordered⟩
  · simp [listItems, execute, World.start, answered]
  · exact (List.mergeSort_perm _ precedes).map ItemRow.item

/-- An undisturbed environment with one id to draw. -/
def quietEnv (currentTimestamp : Int) (id : Str) : Env := ⟨0, currentTimestamp, fun _ => id, fun _ => .none⟩

/-- A deletion between two creations leaves the order of the rest. -/
theorem listItems_created_iff_deletion :
    let calls : List ItemCall := [⟨.create ['x'] [], quietEnv 1 ['b']⟩,
      ⟨.create ['y'] [], quietEnv 1 ['c']⟩, ⟨.delete ['b'], quietEnv 1 []⟩,
      ⟨.create ['z'] [], quietEnv 2 ['a']⟩]
    (listItems (quietEnv 2 []) (World.start (runItemCalls Database.migrated calls))).1 =
      .ok [⟨['c'], ['y'], []⟩, ⟨['a'], ['z'], []⟩] := by
  intro calls
  obtain ⟨listed, answer, _, inOrder⟩ :=
    listItems_created_iff calls (quietEnv 2 []) (by decide) (by decide) rfl
  have kept : survivors calls = [⟨['c'], ['y'], [], 1⟩, ⟨['a'], ['z'], [], 2⟩] := by decide
  have same : listed = (survivors calls).map ItemRow.item := by
    rw [inOrder, kept]
    simp [TieOrdered]
  rw [answer, same, kept]
  rfl

/-- Two items of one second are listed by their ids. -/
theorem listItems_swaps_second :
    let calls : List ItemCall := [⟨.create ['x'] [], quietEnv 1 ['b']⟩,
      ⟨.create ['y'] [], quietEnv 1 ['a']⟩]
    (listItems (quietEnv 1 []) (World.start (runItemCalls Database.migrated calls))).1 =
      .ok [⟨['a'], ['y'], []⟩, ⟨['b'], ['x'], []⟩] ∧
    (survivors calls).map ItemRow.item = [⟨['b'], ['x'], []⟩, ⟨['a'], ['y'], []⟩] := by
  intro calls
  refine ⟨?_, by decide⟩
  have rows : (runItemCalls Database.migrated calls).items.rows =
      [⟨['b'], ['x'], [], 1⟩, ⟨['a'], ['y'], [], 1⟩] := by decide
  have listed : (listItems (quietEnv 1 []) (World.start (runItemCalls Database.migrated calls))).1 =
      .ok (runItemCalls Database.migrated calls).items.selectAll := rfl
  rw [listed, selectAll, rows]
  have swapped : precedes ⟨['b'], ['x'], [], 1⟩ ⟨['a'], ['y'], [], 1⟩ = false := by decide
  simp [List.mergeSort, swapped, ItemRow.item]

end Items

end HighperfServer
