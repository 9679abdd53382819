namespace HighperfServer.Library

/-- A chain passes when every check does, each with the value handed on. -/
theorem bind_eq_ok_iff {E A B : Type} {check : Except E A} {next : A → Except E B} {result : B} :
    (check >>= next) = .ok result ↔ ∃ value, check = .ok value ∧ next value = .ok result := by
  cases check with
  | error error => simp [bind, Except.bind]
  | ok value => simp [bind, Except.bind]

/-- Every error of the check has the property. -/
def FailsWith {E A : Type} (property : E → Prop) (check : Except E A) : Prop :=
  ∀ error, check = .error error → property error

theorem failsWith_ok {E A : Type} (property : E → Prop) (value : A) :
    FailsWith property (.ok value : Except E A) := by
  intro error failed
  exact absurd failed (by simp)

/-- A chain fails as its checks do. -/
theorem FailsWith.bind {E A B : Type} {property : E → Prop} {check : Except E A}
    {next : A → Except E B} (first : FailsWith property check)
    (later : ∀ value, FailsWith property (next value)) : FailsWith property (check >>= next) := by
  intro error failed
  cases check with
  | error found => exact first error (congrArg Except.error (Except.error.inj failed))
  | ok value => exact later value error failed

end HighperfServer.Library
