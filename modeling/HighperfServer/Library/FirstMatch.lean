import Mathlib.Data.List.Basic

namespace HighperfServer.Library

/-- A table of entries takes a key, refuses it, or has no entry that fits. -/
inductive Decision (Entry Captured : Type) where
  | taken (index : Nat) (entry : Entry) (captured : Captured)
  | refused
  | unmatched

namespace Decision
variable {Entry Other Captured : Type}

/-- The decision of the table with one more entry in front that does not take the key. -/
def shift : Decision Entry Captured → Decision Entry Captured
  | .taken index entry captured => .taken (index + 1) entry captured
  | .refused => .refused
  | .unmatched => .unmatched

/-- An earlier entry that fits turns a miss into a refusal. -/
def refuse : Decision Entry Captured → Decision Entry Captured
  | .taken index entry captured => .taken index entry captured
  | .refused => .refused
  | .unmatched => .refused

/-- The entry of a decision is replaced. -/
def map (change : Entry → Other) : Decision Entry Captured → Decision Other Captured
  | .taken index entry captured => .taken index (change entry) captured
  | .refused => .refused
  | .unmatched => .unmatched

/-- A second refusal changes nothing. -/
@[simp] theorem refuse_refuse (decision : Decision Entry Captured) :
    decision.refuse.refuse = decision.refuse := by
  cases decision <;> rfl

end Decision

section
variable {Entry Captured : Type}

/-- The first entry that fits and accepts takes the key.

A key that some entry fits and none accepts is refused. -/
inductive Decides (fits : Entry → Captured → Prop) (accepts : Entry → Prop)
    (entries : List Entry) : Decision Entry Captured → Prop where
  | taken {index : Nat} {entry : Entry} {captured : Captured}
      (present : entries[index]? = some entry) (fitting : fits entry captured)
      (accepted : accepts entry)
      (least : ∀ earlier other value, earlier < index → entries[earlier]? = some other →
        fits other value → ¬ accepts other) :
      Decides fits accepts entries (.taken index entry captured)
  | refused (matched : ∃ entry ∈ entries, ∃ captured, fits entry captured)
      (refusing : ∀ entry ∈ entries, ∀ captured, fits entry captured → ¬ accepts entry) :
      Decides fits accepts entries .refused
  | unmatched (unfit : ∀ entry ∈ entries, ∀ captured, ¬ fits entry captured) :
      Decides fits accepts entries .unmatched

variable {fits : Entry → Captured → Prop} {accepts : Entry → Prop} {entries : List Entry}

theorem decides_nil : Decides fits accepts [] .unmatched :=
  .unmatched (fun _ member => absurd member List.not_mem_nil)

/-- The front entry takes what it fits and accepts. -/
theorem decides_front {entry : Entry} {captured : Captured} (fitting : fits entry captured)
    (accepted : accepts entry) :
    Decides fits accepts (entry :: entries) (.taken 0 entry captured) := by
  apply Decides.taken rfl fitting accepted
  intro earlier other value before
  exact absurd before (Nat.not_lt_zero earlier)

/-- A front entry that does not accept what it fits leaves a taken key to the rest. -/
theorem Decides.taken_behind {front entry : Entry} {index : Nat} {captured : Captured}
    (passes : ∀ value, fits front value → ¬ accepts front)
    (decided : Decides fits accepts entries (.taken index entry captured)) :
    Decides fits accepts (front :: entries) (.taken (index + 1) entry captured) := by
  cases decided with
  | taken present fitting accepted least =>
      have moved : (front :: entries)[index + 1]? = some entry := by
        rw [List.getElem?_cons_succ, present]
      apply Decides.taken moved fitting accepted
      intro earlier other value before found
      cases earlier with
      | zero =>
          obtain rfl := Option.some.inj found
          exact passes value
      | succ earlier => exact least earlier other value (by omega) found

/-- A front entry that fits nothing shifts the decision. -/
theorem Decides.behind_unfit {front : Entry} {decision : Decision Entry Captured}
    (unfit : ∀ value, ¬ fits front value) (decided : Decides fits accepts entries decision) :
    Decides fits accepts (front :: entries) decision.shift := by
  cases decided with
  | taken present fitting accepted least =>
      apply Decides.taken_behind
      · intro value fitted
        exact absurd fitted (unfit value)
      · exact .taken present fitting accepted least
  | refused matched refusing =>
      obtain ⟨entry, member, captured, fitting⟩ := matched
      apply Decides.refused
      · exact ⟨entry, List.mem_cons_of_mem _ member, captured, fitting⟩
      · intro other among value fitted
        rcases List.mem_cons.mp among with rfl | later
        · exact absurd fitted (unfit value)
        · exact refusing other later value fitted
  | unmatched none =>
      apply Decides.unmatched
      intro other among value fitted
      rcases List.mem_cons.mp among with rfl | later
      · exact unfit value fitted
      · exact none other later value fitted

/-- A front entry that fits and refuses shifts the decision and rules out a miss. -/
theorem Decides.behind_refusing {front : Entry} {captured : Captured}
    {decision : Decision Entry Captured} (fitting : fits front captured)
    (refuses : ¬ accepts front) (decided : Decides fits accepts entries decision) :
    Decides fits accepts (front :: entries) decision.shift.refuse := by
  have refused (refusing : ∀ entry ∈ entries, ∀ value, fits entry value → ¬ accepts entry) :
      Decides fits accepts (front :: entries) .refused := by
    apply Decides.refused
    · exact ⟨front, List.mem_cons_self, captured, fitting⟩
    · intro other among value fitted
      rcases List.mem_cons.mp among with rfl | later
      · exact refuses
      · exact refusing other later value fitted
  cases decided with
  | taken present fitted accepted least =>
      apply Decides.taken_behind
      · exact fun _ _ => refuses
      · exact .taken present fitted accepted least
  | refused matched refusing => exact refused refusing
  | unmatched none =>
      apply refused
      intro entry member value fitted
      exact absurd fitted (none entry member value)

/-- Entries that capture one value decide every key in one way. -/
theorem Decides.unique
    (functional : ∀ entry first second, fits entry first → fits entry second → first = second)
    {first second : Decision Entry Captured} (one : Decides fits accepts entries first)
    (other : Decides fits accepts entries second) : first = second := by
  cases one with
  | @taken index entry captured present fitting accepted least =>
      cases other with
      | @taken otherIndex otherEntry otherCaptured found fitted taken before =>
          have same : index = otherIndex := by
            rcases Nat.lt_trichotomy index otherIndex with less | equal | greater
            · exact absurd accepted (before index entry captured less present fitting)
            · exact equal
            · exact absurd taken (least otherIndex otherEntry otherCaptured greater found fitted)
          subst same
          obtain rfl := Option.some.inj (present.symm.trans found)
          rw [functional entry captured otherCaptured fitting fitted]
      | refused _ refusing =>
          exact absurd accepted (refusing entry (List.mem_of_getElem? present) captured fitting)
      | unmatched none =>
          exact absurd fitting (none entry (List.mem_of_getElem? present) captured)
  | refused matched refusing =>
      obtain ⟨entry, member, captured, fitting⟩ := matched
      cases other with
      | taken found fitted taken before =>
          exact absurd taken (refusing _ (List.mem_of_getElem? found) _ fitted)
      | refused _ _ => rfl
      | unmatched none => exact absurd fitting (none entry member captured)
  | unmatched none =>
      cases other with
      | taken found fitted taken before =>
          exact absurd fitted (none _ (List.mem_of_getElem? found) _)
      | refused matched _ =>
          obtain ⟨entry, member, captured, fitting⟩ := matched
          exact absurd fitting (none entry member captured)
      | unmatched _ => rfl

/-- More entries at the end leave a taken key alone. -/
theorem Decides.append_taken {entry : Entry} {index : Nat} {captured : Captured}
    (decided : Decides fits accepts entries (.taken index entry captured)) (more : List Entry) :
    Decides fits accepts (entries ++ more) (.taken index entry captured) := by
  cases decided with
  | taken present fitting accepted least =>
      have bound := (List.getElem?_eq_some_iff.mp present).1
      apply Decides.taken _ fitting accepted
      · intro earlier other value before found
        rw [List.getElem?_append_left (by omega)] at found
        exact least earlier other value before found
      · rw [List.getElem?_append_left bound, present]

/-- A last entry takes what it fits and accepts and nobody before it has taken. -/
theorem decides_append_last {entry : Entry} {captured : Captured}
    (passed : ∀ other ∈ entries, ∀ value, fits other value → ¬ accepts other)
    (fitting : fits entry captured) (accepted : accepts entry) :
    Decides fits accepts (entries ++ [entry]) (.taken entries.length entry captured) := by
  apply Decides.taken _ fitting accepted
  · intro earlier other value before found
    rw [List.getElem?_append_left before] at found
    exact passed other (List.mem_of_getElem? found) value
  · exact List.getElem?_concat_length

/-- At most one entry fits and accepts the key. -/
def Exclusive (fits : Entry → Captured → Prop) (accepts : Entry → Prop) (entries : List Entry) :
    Prop :=
  entries.Pairwise fun first second => ∀ one other, fits first one → accepts first →
    fits second other → ¬ accepts second

/-- Exclusive entries stay exclusive in any order. -/
theorem Exclusive.perm {others : List Entry} (exclusive : Exclusive fits accepts entries)
    (permuted : entries.Perm others) : Exclusive fits accepts others := by
  have symmetric {first second : Entry}
      (apart : ∀ one other, fits first one → accepts first → fits second other → ¬ accepts second)
      (one other : Captured) (fitting : fits second one) (accepted : accepts second)
      (fitted : fits first other) : ¬ accepts first := by
    intro taken
    exact apart other one fitted taken fitting accepted
  exact (permuted.pairwise_iff symmetric).mp exclusive

/-- Two positions of an exclusive table that take a key are the same. -/
theorem Exclusive.index_unique (exclusive : Exclusive fits accepts entries) {first second : Nat}
    {one other : Entry} {left right : Captured} (present : entries[first]? = some one)
    (found : entries[second]? = some other) (fitting : fits one left) (accepted : accepts one)
    (fitted : fits other right) (taken : accepts other) : first = second := by
  obtain ⟨firstBound, rfl⟩ := List.getElem?_eq_some_iff.mp present
  obtain ⟨secondBound, rfl⟩ := List.getElem?_eq_some_iff.mp found
  have apart := List.pairwise_iff_getElem.mp exclusive
  rcases Nat.lt_trichotomy first second with less | equal | greater
  · exact absurd taken (apart first second firstBound secondBound less _ _ fitting accepted fitted)
  · exact equal
  · exact absurd accepted (apart second first secondBound firstBound greater _ _ fitted taken fitting)

/-- An exclusive table takes a key with the entry that fits and accepts it. -/
theorem Exclusive.taken_iff (exclusive : Exclusive fits accepts entries) {entry : Entry}
    {captured : Captured} :
    (∃ index, Decides fits accepts entries (.taken index entry captured)) ↔
      entry ∈ entries ∧ fits entry captured ∧ accepts entry := by
  constructor
  · rintro ⟨index, decided⟩
    cases decided with
    | taken present fitting accepted least =>
        exact ⟨List.mem_of_getElem? present, fitting, accepted⟩
  · rintro ⟨member, fitting, accepted⟩
    obtain ⟨index, present⟩ := List.mem_iff_getElem?.mp member
    refine ⟨index, .taken present fitting accepted ?_⟩
    intro earlier other value before found fitted taken
    have same := exclusive.index_unique found present fitted taken fitting accepted
    omega

/-- A key that is not taken is accepted by no entry that fits. -/
theorem Decides.passes {decision : Decision Entry Captured}
    (decided : Decides fits accepts entries decision)
    (untaken : ∀ index entry captured, ¬ Decides fits accepts entries (.taken index entry captured)) :
    ∀ entry ∈ entries, ∀ captured, fits entry captured → ¬ accepts entry := by
  intro entry member captured fitted
  cases decided with
  | taken present fitting accepted least =>
      exact absurd (.taken present fitting accepted least) (untaken _ _ _)
  | refused _ refusing => exact refusing entry member captured fitted
  | unmatched none => exact absurd fitted (none entry member captured)

/-- A list refuses exactly when entries fit and none of them accepts. -/
theorem decides_refused_iff : Decides fits accepts entries .refused ↔
    (∃ entry ∈ entries, ∃ captured, fits entry captured) ∧
      ∀ entry ∈ entries, ∀ captured, fits entry captured → ¬ accepts entry := by
  constructor
  · intro decided
    cases decided with
    | refused matched refusing => exact ⟨matched, refusing⟩
  · intro both
    exact .refused both.1 both.2

/-- A list is unmatched exactly when no entry fits. -/
theorem decides_unmatched_iff : Decides fits accepts entries .unmatched ↔
    ∀ entry ∈ entries, ∀ captured, ¬ fits entry captured := by
  constructor
  · intro decided
    cases decided with
    | unmatched none => exact none
  · exact .unmatched

end

/-- A decision over changed entries is the decision over the entries, with its entry changed. -/
theorem Decides.of_map {Entry Other Captured : Type} {fits : Entry → Captured → Prop}
    {accepts : Entry → Prop} {otherFits : Other → Captured → Prop} {otherAccepts : Other → Prop}
    {change : Entry → Other} {entries : List Entry} {decision : Decision Other Captured}
    (decided : Decides otherFits otherAccepts (entries.map change) decision)
    (sameFits : ∀ entry ∈ entries, ∀ captured, otherFits (change entry) captured ↔
      fits entry captured)
    (sameAccepts : ∀ entry ∈ entries, otherAccepts (change entry) ↔ accepts entry) :
    ∃ source, Decides fits accepts entries source ∧ decision = source.map change := by
  cases decided with
  | @taken index other captured present fitting accepted least =>
      rw [List.getElem?_map] at present
      obtain ⟨entry, found, rfl⟩ := Option.map_eq_some_iff.mp present
      have member := List.mem_of_getElem? found
      refine ⟨.taken index entry captured, ?_, rfl⟩
      apply Decides.taken found ((sameFits entry member captured).mp fitting)
        ((sameAccepts entry member).mp accepted)
      intro earlier before value less at_ fitted
      have among := List.mem_of_getElem? at_
      rw [← sameAccepts before among]
      apply least earlier (change before) value less
      · rw [List.getElem?_map, at_]
        rfl
      · exact (sameFits before among value).mpr fitted
  | refused matched refusing =>
      obtain ⟨other, member, captured, fitting⟩ := matched
      obtain ⟨entry, among, rfl⟩ := List.mem_map.mp member
      refine ⟨.refused, .refused ?_ ?_, rfl⟩
      · exact ⟨entry, among, captured, (sameFits entry among captured).mp fitting⟩
      · intro source present value fitted
        rw [← sameAccepts source present]
        exact refusing _ (List.mem_map_of_mem present) value
          ((sameFits source present value).mpr fitted)
  | unmatched none =>
      refine ⟨.unmatched, .unmatched ?_, rfl⟩
      intro source present value fitted
      exact none _ (List.mem_map_of_mem present) value
        ((sameFits source present value).mpr fitted)

end HighperfServer.Library
