import FunctionSynthesis.Proofs.Attempt
import FunctionSynthesis.Proofs.Value.Numeral
import FunctionSynthesis.Value.Number

/-!
# Integers next to floating numbers

An integer that is as small as a floating number has far fewer digits than one that is too long
to be written. So what can be added to a floating number can be written (`isWritable_of_add`).
-/

namespace FunctionSynthesis

namespace Binary64

theorem exponent_le_of_isFinite {negative : Bool} {significand : Nat} {exponent : Int}
    (finite : (pack negative significand exponent).isFinite = true) : exponent ≤ 971 := by
  unfold pack at finite
  split at finite
  next stored => exact stored.2.2.1
  next => cases finite

theorem log2_le_exponentFor (n : Nat) : (n.log2 : Int) - 53 ≤ exponentFor n 1 := by
  have one : Nat.log2 1 = 0 := rfl
  unfold exponentFor
  dsimp only
  rw [one]
  refine le_trans ?_ (le_max_left _ _)
  split
  · omega
  · omega

/-- An integer that is nearest to a finite number has few binary digits. -/
theorem log2_le_of_isFinite {n : Int} (finite : (ofInt n).isFinite = true) :
    n.natAbs.log2 ≤ 1024 := by
  have exponent : exponentFor n.natAbs 1 ≤ 971 := by
    by_cases zero : n.natAbs = 0
    · rw [zero]
      decide
    · unfold ofInt ofRatio at finite
      rw [if_neg zero] at finite
      dsimp only at finite
      generalize (if 0 ≤ exponentFor n.natAbs 1 then _ else _) = significand at finite
      split at finite
      · have above := exponent_le_of_isFinite finite
        omega
      · exact exponent_le_of_isFinite finite
  have low := log2_le_exponentFor n.natAbs
  omega

end Binary64

namespace Number

theorem isFinite_of_floating {n : Int} {x : Binary64} (small : floating (.int n) = .ok x) :
    (Binary64.ofInt n).isFinite = true := by
  unfold floating at small
  dsimp only at small
  split at small
  next finite => exact finite
  next => exact (Attempt.throw_eq_ok_iff.1 small).elim

theorem floating_of_not_isFinite {n : Int} (large : (Binary64.ofInt n).isFinite = false) :
    floating (.int n) = .error (Fault.describe .overflow "int too large to convert to float") := by
  unfold floating
  dsimp only
  rw [large]
  rfl

/-- An integer that is too large cannot be added to a floating number. -/
theorem add_eq_error (x : Binary64) {n : Int} (large : (Binary64.ofInt n).isFinite = false) :
    (Number.float x).add (.int n) =
      .error (Fault.describe .overflow "int too large to convert to float") := by
  have sum : (Number.float x).add (.int n) =
      floating (.int n) >>= fun y => pure (.float (x.add y)) := rfl
  rw [sum, floating_of_not_isFinite large]
  rfl

/-- What is added to a floating number can be written. -/
theorem isWritable_of_add {v : Value} {x : Binary64} {n sum : Number}
    (isNumber : v.number? = some n) (added : (Number.float x).add n = .ok sum) :
    v.isWritable = true := by
  obtain ⟨_, _, rest⟩ := Attempt.bind_eq_ok_iff.1 added
  obtain ⟨y, small, _⟩ := Attempt.bind_eq_ok_iff.1 rest
  cases v with
  | bool b => rfl
  | float y => rfl
  | int k =>
      obtain rfl := Option.some.inj isNumber
      have few := Binary64.log2_le_of_isFinite (isFinite_of_floating small)
      have short : k.natAbs.log2 + 1 ≤ Value.longestNumeral :=
        (Nat.succ_le_succ few).trans (by decide)
      exact (Value.isWritable_int_iff k).2
        (Nat.lt_log2_self.trans_le (Value.two_pow_le_numeralBound short))
  | _ => cases isNumber

end Number

end FunctionSynthesis
