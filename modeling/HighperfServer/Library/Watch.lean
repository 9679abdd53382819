import Mathlib.Data.Option.Basic

namespace HighperfServer.Library

/-- A watch channel keeps its last value, counts its changes, and counts its receivers. -/
structure Watch (A : Type) where
  value : A
  version : Nat
  receivers : Nat
  deriving DecidableEq, Repr

/-- A receiver remembers the version that it has seen. -/
structure Receiver where
  seen : Nat
  deriving DecidableEq, Repr

namespace Watch
variable {A : Type}

/-- A new channel has one receiver, which has seen the initial value. -/
def channel (value : A) : Watch A × Receiver := (⟨value, 0, 1⟩, ⟨0⟩)

/-- A cloned receiver has seen what the original has seen. -/
def subscribe (watch : Watch A) : Watch A := { watch with receivers := watch.receivers + 1 }

/-- A dropped receiver leaves the channel. -/
def unsubscribe (watch : Watch A) : Watch A := { watch with receivers := watch.receivers - 1 }

/-- A value that no receiver can see is not stored. -/
def send (watch : Watch A) (value : A) : Watch A :=
  if watch.receivers = 0 then watch else { watch with value, version := watch.version + 1 }

/-- A receiver is ready when the version is not the one that it has seen. -/
def changed (watch : Watch A) (receiver : Receiver) : Option Receiver :=
  if receiver.seen = watch.version then none else some ⟨watch.version⟩

@[simp] theorem subscribe_value (watch : Watch A) : watch.subscribe.value = watch.value := rfl

@[simp] theorem subscribe_version (watch : Watch A) : watch.subscribe.version = watch.version := rfl

@[simp] theorem unsubscribe_value (watch : Watch A) : watch.unsubscribe.value = watch.value := rfl

@[simp] theorem unsubscribe_version (watch : Watch A) : watch.unsubscribe.version = watch.version := rfl

/-- While there is a receiver, a send is a change. -/
theorem send_of_pos {watch : Watch A} (held : 0 < watch.receivers) (value : A) :
    watch.send value = { watch with value, version := watch.version + 1 } :=
  if_neg (Nat.pos_iff_ne_zero.mp held)

end Watch

end HighperfServer.Library
