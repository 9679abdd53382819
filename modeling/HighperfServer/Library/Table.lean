import Mathlib.Data.List.Nodup

namespace HighperfServer.Library

/-- A table keeps a list of rows whose keys are distinct. -/
structure Table {Row Key : Type} (key : Row → Key) where
  rows : List Row
  distinct : (rows.map key).Nodup

namespace Table
variable {Row Key : Type} {key : Row → Key}

@[ext] theorem ext {first second : Table key} (same : first.rows = second.rows) :
    first = second := by
  cases first
  cases second
  cases same
  rfl

instance [DecidableEq Row] : DecidableEq (Table key) := fun first second =>
  decidable_of_iff (first.rows = second.rows) ⟨ext, congrArg rows⟩

/-- The empty table has no rows. -/
def empty : Table key := ⟨[], List.nodup_nil⟩

/-- A filter keeps the selected rows. -/
def keep (table : Table key) (selected : Row → Bool) : Table key where
  rows := table.rows.filter selected
  distinct := table.distinct.sublist (List.filter_sublist.map key)

/-- A key-preserving function rewrites every row. -/
def rewrite (table : Table key) (change : Row → Row) (same : ∀ row, key (change row) = key row) :
    Table key where
  rows := table.rows.map change
  distinct := by
    have keys : (key ∘ change) = key := funext same
    rw [List.map_map, keys]
    exact table.distinct

variable [DecidableEq Key]

/-- A lookup finds the row with the given key. -/
def lookup (table : Table key) (wanted : Key) : Option Row :=
  table.rows.find? fun row => key row = wanted

/-- An insertion fails when the key is already present. -/
def insert (table : Table key) (row : Row) : Option (Table key) :=
  if absent : key row ∉ table.rows.map key then
    some ⟨table.rows ++ [row], by
      rw [List.map_append, List.nodup_append]
      refine ⟨table.distinct, List.nodup_singleton _, ?_⟩
      rintro _ present _ last rfl
      simp only [List.map_cons, List.map_nil, List.mem_singleton] at last
      exact absent (last ▸ present)⟩
  else none

/-- A deletion drops the row with the given key. -/
def erase (table : Table key) (wanted : Key) : Table key :=
  table.keep fun row => key row ≠ wanted

/-- A replacement leaves exactly the given row under its key. -/
def put (table : Table key) (row : Row) : Table key where
  rows := (table.erase (key row)).rows ++ [row]
  distinct := by
    rw [List.map_append, List.nodup_append]
    refine ⟨(table.erase (key row)).distinct, List.nodup_singleton _, ?_⟩
    rintro _ present _ last rfl
    simp only [List.map_cons, List.map_nil, List.mem_singleton] at last
    obtain ⟨other, member, same⟩ := List.mem_map.mp present
    simp only [erase, keep, List.mem_filter, decide_eq_true_eq] at member
    exact member.2 (same.trans last)

/-- A lookup succeeds exactly on the rows of the table. -/
theorem lookup_eq_some_iff {table : Table key} {wanted : Key} {row : Row} :
    table.lookup wanted = some row ↔ row ∈ table.rows ∧ key row = wanted := by
  constructor
  · intro found
    exact ⟨List.mem_of_find?_eq_some found, by simpa using List.find?_some found⟩
  · rintro ⟨member, same⟩
    cases found : table.lookup wanted with
    | none =>
        have missing := List.find?_eq_none.mp found row member
        simp [same] at missing
    | some other =>
        have otherSame : key other = wanted := by simpa using List.find?_some found
        have equal := List.inj_on_of_nodup_map table.distinct
          (List.mem_of_find?_eq_some found) member (otherSame.trans same.symm)
        rw [equal]

/-- A lookup fails exactly when no row has the key. -/
theorem lookup_eq_none_iff {table : Table key} {wanted : Key} :
    table.lookup wanted = none ↔ ∀ row ∈ table.rows, key row ≠ wanted := by
  simp [lookup, List.find?_eq_none]

/-- A key is counted in no row exactly when its lookup fails. -/
theorem count_key_eq_zero_iff [BEq Key] [LawfulBEq Key] {table : Table key} {wanted : Key} :
    (table.rows.map key).count wanted = 0 ↔ table.lookup wanted = none := by
  rw [lookup_eq_none_iff, List.count_eq_zero]
  simp

/-- A key is counted in one row exactly when its lookup succeeds. -/
theorem count_key_eq_one_iff [BEq Key] [LawfulBEq Key] {table : Table key} {wanted : Key} :
    (table.rows.map key).count wanted = 1 ↔ table.lookup wanted ≠ none := by
  have unique : (table.rows.map key).count wanted ≤ 1 :=
    List.nodup_iff_count_le_one.mp table.distinct wanted
  rw [ne_eq, ← count_key_eq_zero_iff]
  omega

/-- The row found under a key has that key. -/
theorem key_of_lookup {table : Table key} {wanted : Key} {row : Row}
    (found : table.lookup wanted = some row) : key row = wanted :=
  (lookup_eq_some_iff.mp found).2

/-- Two tables with the same row under a key answer its lookup alike. -/
theorem lookup_congr {first second : Table key} {wanted : Key}
    (same : ∀ row, key row = wanted → (row ∈ first.rows ↔ row ∈ second.rows)) :
    first.lookup wanted = second.lookup wanted := by
  apply Option.ext
  intro row
  rw [lookup_eq_some_iff, lookup_eq_some_iff]
  constructor
  · rintro ⟨member, keyed⟩
    exact ⟨(same row keyed).mp member, keyed⟩
  · rintro ⟨member, keyed⟩
    exact ⟨(same row keyed).mpr member, keyed⟩

@[simp] theorem lookup_empty (wanted : Key) : (empty : Table key).lookup wanted = none := rfl

/-- Rows of one table are known by their keys. -/
theorem eq_of_map_key {table : Table key} {first second : List Row}
    (among : ∀ row ∈ first, row ∈ table.rows) (others : ∀ row ∈ second, row ∈ table.rows)
    (keys : first.map key = second.map key) : first = second := by
  have found {rows : List Row} (inside : ∀ row ∈ rows, row ∈ table.rows) :
      (rows.map key).map table.lookup = rows.map some := by
    rw [List.map_map]
    apply List.map_congr_left
    intro row member
    exact lookup_eq_some_iff.mpr ⟨inside row member, rfl⟩
  have same : first.map some = second.map some := by
    rw [← found among, keys, found others]
  exact List.map_injective_iff.mpr (fun _ _ equal => Option.some.inj equal) same

/-- A filter filters the answer of every lookup. -/
theorem lookup_keep (table : Table key) (selected : Row → Bool) (wanted : Key) :
    (table.keep selected).lookup wanted = (table.lookup wanted).filter selected := by
  apply Option.ext
  intro row
  rw [lookup_eq_some_iff, Option.filter_eq_some_iff, lookup_eq_some_iff]
  simp only [keep, List.mem_filter]
  tauto

/-- A keyed search with a condition filters the answer of the lookup. -/
theorem find_keyed (table : Table key) (condition : Row → Prop) [DecidablePred condition]
    (wanted : Key) :
    (table.rows.find? fun row => key row = wanted ∧ condition row) =
      (table.lookup wanted).filter (fun row => condition row) := by
  rw [← lookup_keep]
  simp only [lookup, keep, List.find?_filter]
  congr 1
  funext row
  simp [and_comm]

@[simp] theorem lookup_erase_self (table : Table key) (wanted : Key) :
    (table.erase wanted).lookup wanted = none := by
  rw [lookup_eq_none_iff]
  intro row member
  simp only [erase, keep, List.mem_filter, decide_eq_true_eq] at member
  exact member.2

/-- Erasing one key leaves the rows of the others. -/
theorem lookup_erase_of_ne (table : Table key) {erased wanted : Key} (different : wanted ≠ erased) :
    (table.erase erased).lookup wanted = table.lookup wanted := by
  apply lookup_congr
  intro row keyed
  simp [erase, keep, keyed, different]

/-- A rewriting changes the answer of every lookup in place. -/
theorem lookup_rewrite (table : Table key) (change : Row → Row)
    (same : ∀ row, key (change row) = key row) (wanted : Key) :
    (table.rewrite change same).lookup wanted = (table.lookup wanted).map change := by
  simp only [lookup, rewrite, List.find?_map, Function.comp_def, same]

@[simp] theorem lookup_put_self (table : Table key) (row : Row) :
    (table.put row).lookup (key row) = some row := by
  rw [lookup_eq_some_iff]
  exact ⟨by simp [put], rfl⟩

/-- Putting a row leaves the rows of other keys. -/
theorem lookup_put_of_ne (table : Table key) (row : Row) {wanted : Key}
    (different : wanted ≠ key row) : (table.put row).lookup wanted = table.lookup wanted := by
  apply lookup_congr
  intro other keyed
  have notRow : other ≠ row := by
    rintro rfl
    exact different keyed.symm
  simp [put, erase, keep, keyed, different, notRow]

/-- An insertion succeeds exactly when the key is absent, and then appends the row. -/
theorem insert_eq_some_iff {table next : Table key} {row : Row} :
    table.insert row = some next ↔
      table.lookup (key row) = none ∧ next.rows = table.rows ++ [row] := by
  have absentIff : key row ∉ table.rows.map key ↔ table.lookup (key row) = none := by
    rw [lookup_eq_none_iff]
    simp
  unfold insert
  split
  · rename_i absent
    rw [Option.some.injEq]
    constructor
    · rintro rfl
      exact ⟨absentIff.mp absent, rfl⟩
    · rintro ⟨_, same⟩
      exact ext same.symm
  · rename_i present
    rw [absentIff] at present
    simp [present]

/-- An absent key never blocks an insertion. -/
theorem insert_ne_none {table : Table key} {row : Row} (absent : table.lookup (key row) = none) :
    table.insert row ≠ none := by
  have fresh : key row ∉ table.rows.map key := by
    rw [lookup_eq_none_iff] at absent
    simpa using absent
  simp [insert, fresh]

/-- The inserted row answers its own key. -/
theorem lookup_insert_self {table next : Table key} {row : Row}
    (inserted : table.insert row = some next) : next.lookup (key row) = some row := by
  rw [lookup_eq_some_iff, (insert_eq_some_iff.mp inserted).2]
  exact ⟨by simp, rfl⟩

/-- An insertion leaves the rows of all other keys unchanged. -/
theorem lookup_insert_of_ne {table next : Table key} {row : Row} {wanted : Key}
    (inserted : table.insert row = some next) (different : wanted ≠ key row) :
    next.lookup wanted = table.lookup wanted := by
  apply lookup_congr
  intro other keyed
  have notRow : other ≠ row := by
    rintro rfl
    exact different keyed.symm
  rw [(insert_eq_some_iff.mp inserted).2]
  simp [notRow]

end Table

end HighperfServer.Library
