import Mathlib.Data.List.Basic

namespace HighperfServer.Library

/-- The one future that waits on a notification is not registered, registered, or woken. -/
inductive Waiter where
  | idle
  | waiting
  | woken
  deriving DecidableEq, Repr

/-- A notification stores at most one permit for a future that does not wait yet. -/
structure Notify where
  permit : Bool
  waiter : Waiter
  deriving DecidableEq, Repr

namespace Notify

/-- A new notification has no permit and no waiter. -/
def new : Notify := ⟨false, .idle⟩

/-- `notify_one` wakes the waiter or stores the permit. -/
def notifyOne (notify : Notify) : Notify :=
  match notify.waiter with
  | .waiting => { notify with waiter := .woken }
  | _ => { notify with permit := true }

/-- A poll of the future is ready when it consumes the permit or was woken, else it registers. -/
def poll (notify : Notify) : Bool × Notify :=
  match notify.waiter with
  | .idle => if notify.permit then (true, ⟨false, .idle⟩) else (false, ⟨false, .waiting⟩)
  | .waiting => (false, notify)
  | .woken => (true, { notify with waiter := .idle })

/-- A stored permit or a woken future ends the wait. -/
def Signalled (notify : Notify) : Prop := notify.permit = true ∨ notify.waiter = .woken

@[simp] theorem new_not_signalled : ¬ Notify.new.Signalled := by simp [Signalled, new]

@[simp] theorem notifyOne_signalled (notify : Notify) : notify.notifyOne.Signalled := by
  unfold notifyOne Signalled
  split <;> simp

/-- Only a signal makes a poll ready. -/
theorem Signalled.of_poll {notify : Notify} (ready : notify.poll.1 = true) : notify.Signalled := by
  unfold poll at ready
  split at ready
  · split at ready
    · rename_i stored
      exact .inl stored
    · exact absurd ready (by simp)
  · exact absurd ready (by simp)
  · rename_i woken
    exact .inr woken

/-- A poll creates no signal. -/
theorem Signalled.before_poll {notify : Notify} (after : notify.poll.2.Signalled) :
    notify.Signalled := by
  unfold poll at after
  split at after
  · split at after
    · exact absurd after (by simp [Signalled])
    · exact absurd after (by simp [Signalled])
  · exact after
  · rename_i woken
    exact .inr woken

/-- A stored permit makes the first poll ready. -/
theorem poll_of_permit {notify : Notify} (stored : notify.permit = true)
    (idle : notify.waiter = .idle) : notify.poll.1 = true := by
  simp [poll, idle, stored]

/-- A registered future has found no permit. -/
def Coherent (notify : Notify) : Prop := notify.waiter = .waiting → notify.permit = false

/-- A notification keeps the permit and the waiter apart. -/
theorem notifyOne_coherent (notify : Notify) : notify.notifyOne.Coherent := by
  unfold notifyOne
  split
  · intro waiting
    exact absurd waiting (by simp)
  · rename_i different
    intro waiting
    exact absurd waiting different

/-- A poll keeps the notification coherent. -/
theorem Coherent.poll {notify : Notify} (holds : notify.Coherent) : notify.poll.2.Coherent := by
  unfold Notify.poll
  split
  · split <;> simp [Coherent]
  · exact holds
  · simp [Coherent]

/-- A signal makes the next poll ready. -/
theorem Coherent.poll_ready {notify : Notify} (holds : notify.Coherent)
    (signalled : notify.Signalled) : notify.poll.1 = true := by
  unfold Notify.poll
  cases waiter : notify.waiter with
  | idle =>
      rcases signalled with permit | woken
      · simp [permit]
      · exact absurd (waiter.symm.trans woken) (by simp)
  | waiting =>
      rcases signalled with permit | woken
      · exact absurd (permit.symm.trans (holds waiter)) (by simp)
      · exact absurd (waiter.symm.trans woken) (by simp)
  | woken => rfl

end Notify

/-- A semaphore counts its available permits. -/
structure Semaphore where
  permits : Nat
  deriving DecidableEq, Repr

/-- `try_acquire` takes a permit or fails without waiting. -/
def Semaphore.tryAcquire (semaphore : Semaphore) : Option Semaphore :=
  if semaphore.permits = 0 then none else some ⟨semaphore.permits - 1⟩

/-- A permit is acquired exactly when one is left. -/
theorem Semaphore.tryAcquire_eq_some_iff {semaphore taken : Semaphore} :
    semaphore.tryAcquire = some taken ↔
      0 < semaphore.permits ∧ taken = ⟨semaphore.permits - 1⟩ := by
  unfold tryAcquire
  split
  · rename_i empty
    simp [empty]
  · rename_i available
    simp only [Option.some.injEq]
    constructor
    · intro same
      exact ⟨by omega, same.symm⟩
    · intro taken
      exact taken.2.symm

/-- A dropped permit returns to the semaphore. -/
def Semaphore.release (semaphore : Semaphore) : Semaphore := ⟨semaphore.permits + 1⟩

/-- Replacing one entry moves a count by the difference of the two entries. -/
theorem countP_set_add {A : Type} (selected : A → Bool) {list : List A} {index : Nat} {old : A}
    (present : list[index]? = some old) (new : A) :
    (list.set index new).countP selected + (if selected old then 1 else 0) =
      list.countP selected + (if selected new then 1 else 0) := by
  obtain ⟨bound, same⟩ := List.getElem?_eq_some_iff.mp present
  have member : old ∈ list := List.mem_of_getElem? present
  have positive : selected old = true → 0 < list.countP selected := by
    intro chosen
    exact List.countP_pos_iff.mpr ⟨old, member, chosen⟩
  rw [List.countP_set bound, same]
  by_cases chosen : selected old = true
  · have one := positive chosen
    simp only [chosen, if_true]
    omega
  · simp [chosen]

/-- Two indicators agree exactly when their conditions do. -/
theorem indicator_eq_iff (first second : Prop) [Decidable first] [Decidable second] :
    ((if first then 1 else 0 : Nat) = if second then 1 else 0) ↔ (first ↔ second) := by
  by_cases one : first <;> by_cases other : second <;> simp [one, other]

end HighperfServer.Library
