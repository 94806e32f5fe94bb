import Mathlib.Algebra.Order.Ring.Nat
import FunctionSynthesis.Fault
import FunctionSynthesis.Proofs.Attempt

/-!
# Integers that can be written

A value is shown unless an integer in it has too many digits. The least integer that has
(`Value.numeralBound`) is never evaluated: smaller numbers are told by their exponents
(`two_pow_le_numeralBound`).
-/

namespace FunctionSynthesis

namespace Value

/-! ### The bound -/

theorem two_pow_le_numeralBound {k : Nat} (few : k ≤ longestNumeral) : 2 ^ k ≤ numeralBound := by
  unfold numeralBound
  generalize longestNumeral = digits at few ⊢
  calc 2 ^ k ≤ 10 ^ k := Nat.pow_le_pow_left (by decide) k
    _ ≤ 10 ^ digits := Nat.pow_le_pow_right (by decide) few

theorem lt_numeralBound {n : Nat} (short : n < 2 ^ 64) : n < numeralBound :=
  short.trans_le (two_pow_le_numeralBound (by decide))

theorem isWritable_int_iff (n : Int) :
    (Value.int n).isWritable = true ↔ n.natAbs < numeralBound := by
  simp only [isWritable, all, decide_eq_true_iff]

theorem not_isWritable_numeralBound : ¬ (Value.int numeralBound).isWritable = true := by
  rw [isWritable_int_iff, Int.natAbs_natCast]
  exact lt_irrefl _

/-! ### Texts -/

variable {v : Value} (text : String)

theorem written_of_isWritable (writable : v.isWritable = true) : v.written text = .ok text :=
  if_pos writable

theorem written_of_not_isWritable (unwritable : ¬ v.isWritable = true) :
    v.written text = .error (Fault.tooManyDigits Option.none) :=
  if_neg unwritable

/-- Only a value that cannot be written has no text. -/
theorem failsOnly_written {kind : Fault → Prop}
    (refused : ¬ v.isWritable = true → kind (Fault.tooManyDigits Option.none)) :
    Attempt.FailsOnly kind (v.written text) := by
  by_cases writable : v.isWritable = true
  · rw [written_of_isWritable text writable]
    exact Attempt.failsOnly_pure text
  · rw [written_of_not_isWritable text writable]
    exact Attempt.failsOnly_throw (refused writable)

end Value

namespace Fault

/-- Whether a fault is of the kind of a value that cannot be used. -/
def IsOfValue (fault : Fault) : Prop :=
  fault.kind = .value

theorem isOfValue_tooManyDigits : IsOfValue (tooManyDigits none) :=
  rfl

/-- The text of a fault shows its arguments. -/
theorem failsOnly_written (fault : Fault) : Attempt.FailsOnly IsOfValue fault.written := by
  unfold written
  split
  · exact Attempt.failsOnly_pure _
  · exact Attempt.failsOnly_throw isOfValue_tooManyDigits

end Fault

end FunctionSynthesis
