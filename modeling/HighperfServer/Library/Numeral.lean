import HighperfServer.Library.Text
import Mathlib.Algebra.Group.Nat.Defs
import Mathlib.Tactic.IntervalCases

namespace HighperfServer.Library

/-- The value of digits that follow a total. -/
def digitsValue (radix total : Nat) (digits : List Nat) : Nat :=
  digits.foldl (fun value digit => value * radix + digit) total

/-- A numeral is the text of digits below its radix that have its value. -/
theorem toDigits_eq_map {radix : Nat} (base : 1 < radix) (number : Nat) :
    ∃ digits, Nat.toDigits radix number = digits.map Nat.digitChar ∧
      (∀ digit ∈ digits, digit < radix) ∧ digitsValue radix 0 digits = number := by
  induction number using Nat.strongRecOn with
  | ind number ih =>
      rw [Nat.toDigits_eq_if base]
      split
      · rename_i small
        refine ⟨[number], rfl, ?_, by simp [digitsValue]⟩
        intro digit member
        rwa [List.mem_singleton.mp member]
      · have smaller : number / radix < number := Nat.div_lt_self (by omega) base
        obtain ⟨digits, written, below, value⟩ := ih _ smaller
        refine ⟨digits ++ [number % radix], by simp [written], ?_, ?_⟩
        · intro digit member
          rcases List.mem_append.mp member with earlier | last
          · exact below digit earlier
          · rw [List.mem_singleton.mp last]
            exact Nat.mod_lt _ (by omega)
        · rw [digitsValue, List.foldl_append]
          change digitsValue radix 0 digits * radix + number % radix = number
          rw [value]
          exact Nat.div_add_mod' number radix

/-- Only zero is written with a leading zero. -/
theorem toDigits_head_ne_zero {number : Nat} (positive : 0 < number) :
    (Nat.toDigits 10 number).head? ≠ some '0' := by
  induction number using Nat.strongRecOn with
  | ind number ih =>
      rw [Nat.toDigits_eq_if (by decide)]
      split
      · interval_cases number <;> decide
      · have leading := ih (number / 10) (by omega) (by omega)
        rw [List.head?_append_of_ne_nil _ Nat.toDigits_ne_nil]
        exact leading

/-- The fixed number of digits that a value has in a radix, most significant first. -/
def fixedDigits (radix : Nat) : Nat → Nat → List Nat
  | 0, _ => []
  | width + 1, value => fixedDigits radix width (value / radix) ++ [value % radix]

/-- The digits of a fixed width have that width. -/
theorem fixedDigits_length (radix width value : Nat) :
    (fixedDigits radix width value).length = width := by
  induction width generalizing value with
  | zero => rfl
  | succ width ih => simp [fixedDigits, ih]

/-- The digits are below the radix. -/
theorem fixedDigits_lt (radix : Nat) (positive : 0 < radix) (width value : Nat) :
    ∀ digit ∈ fixedDigits radix width value, digit < radix := by
  induction width generalizing value with
  | zero => simp [fixedDigits]
  | succ width ih =>
      intro digit member
      rcases List.mem_append.mp member with earlier | last
      · exact ih _ digit earlier
      · rw [List.mem_singleton.mp last]
        exact Nat.mod_lt _ positive

/-- Fixed digits have the value that fits into them. -/
theorem digitsValue_fixedDigits {radix width value : Nat} (fits : value < radix ^ width) :
    digitsValue radix 0 (fixedDigits radix width value) = value := by
  induction width generalizing value with
  | zero =>
      have zero : value = 0 := by simpa using fits
      simp [fixedDigits, digitsValue, zero]
  | succ width ih =>
      have smaller : value / radix < radix ^ width :=
        Nat.div_lt_of_lt_mul (by rwa [Nat.pow_succ, Nat.mul_comm] at fits)
      rw [fixedDigits, digitsValue, List.foldl_append]
      change digitsValue radix 0 (fixedDigits radix width (value / radix)) * radix +
        value % radix = value
      rw [ih smaller]
      exact Nat.div_add_mod' value radix

theorem digitValue_digitChar {digit : Nat} (small : digit < 10) :
    digitValue digit.digitChar = some digit := by
  interval_cases digit <;> decide

/-- The characters of digits parse to their value. -/
theorem parseDigits_map {total : Nat} {digits : List Nat} (below : ∀ digit ∈ digits, digit < 10) :
    parseDigits total (digits.map Nat.digitChar) = some (digitsValue 10 total digits) := by
  induction digits generalizing total with
  | nil => rfl
  | cons digit rest ih =>
      have small := below digit List.mem_cons_self
      rw [List.map_cons, parseDigits, digitValue_digitChar small, Option.bind_some,
        ih fun later member => below later (List.mem_cons_of_mem _ member)]
      rfl

/-- A decimal is read back by an unsigned type that holds it. -/
theorem parseUnsigned_toDigits {bits number : Nat} (fits : number < 2 ^ bits) :
    parseUnsigned bits (Nat.toDigits 10 number) = some number := by
  obtain ⟨digits, written, below, value⟩ := toDigits_eq_map (by decide : 1 < 10) number
  have unsigned : (Nat.toDigits 10 number).head? ≠ some '+' := by
    intro plus
    have digit := Nat.isDigit_of_mem_toDigits (by decide) (by decide) (List.mem_of_mem_head? plus)
    exact absurd digit (by decide)
  have nonempty : Nat.toDigits 10 number ≠ [] := Nat.toDigits_ne_nil
  unfold parseUnsigned
  dsimp only
  split
  · rename_i rest text
    rw [text] at unsigned
    exact absurd rfl unsigned
  · rw [if_neg nonempty, written, parseDigits_map below, value]
    simp [Option.filter, fits]

/-- What an unsigned type reads, it holds. -/
theorem lt_of_parseUnsigned {bits number : Nat} {text : List Char}
    (read : parseUnsigned bits text = some number) : number < 2 ^ bits := by
  unfold parseUnsigned at read
  dsimp only at read
  obtain ⟨_, parsed⟩ := Option.ite_none_left_eq_some.mp read
  exact of_decide_eq_true (Option.filter_eq_some_iff.mp parsed).2

end HighperfServer.Library
