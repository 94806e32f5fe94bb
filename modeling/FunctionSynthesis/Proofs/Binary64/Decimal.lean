import FunctionSynthesis.Binary64.Decimal
import FunctionSynthesis.Proofs.Binary64.Rounding

/-!
# Decimals that read back

A decimal is read in the same way whether zeros at its end are among its digits or in
its exponent (`ofDecimal_shift`). The decimal that a finite number is written with reads
back to that number (`ofDecimal_shortest`).
-/

namespace FunctionSynthesis.Binary64

/-! ### Zeros at the end -/

theorem length_toDigits_mul_ten {digits : Nat} (positive : 0 < digits) :
    (Nat.toDigits 10 (digits * 10)).length = (Nat.toDigits 10 digits).length + 1 := by
  have appended := Nat.toDigits_append_toDigits (b := 10) (n := digits) (d := 0)
    (by decide) positive (by decide)
  rw [Nat.mul_comm, ← Nat.add_zero (10 * digits), ← appended]
  simp

/-- A zero at the end of the digits counts as much as one in the exponent. -/
theorem ofDecimal_shift (negative : Bool) (digits : Nat) (exponent : Int) :
    ofDecimal negative ⟨digits * 10, exponent⟩ = ofDecimal negative ⟨digits, exponent + 1⟩ := by
  rcases Nat.eq_zero_or_pos digits with rfl | positive
  · rfl
  · have notZero : digits * 10 ≠ 0 := by omega
    have lengths : ((Nat.toDigits 10 (digits * 10)).length : Int) + exponent =
        (Nat.toDigits 10 digits).length + (exponent + 1) := by
      rw [length_toDigits_mul_ten positive]
      omega
    have ratios : (if 0 ≤ exponent then
          ofRatio negative (digits * 10 * Nat.pow 10 exponent.toNat) 1
        else ofRatio negative (digits * 10) (Nat.pow 10 (-exponent).toNat)) =
        if 0 ≤ exponent + 1 then ofRatio negative (digits * Nat.pow 10 (exponent + 1).toNat) 1
        else ofRatio negative digits (Nat.pow 10 (-(exponent + 1)).toNat) := by
      by_cases nonneg : 0 ≤ exponent
      · obtain ⟨k, rfl⟩ := Int.eq_ofNat_of_zero_le nonneg
        have next : ((k : Int) + 1).toNat = k + 1 := by omega
        rw [if_pos nonneg, if_pos (by omega), next, Int.toNat_natCast, Nat.mul_assoc,
          Nat.mul_comm 10]
        rfl
      · obtain ⟨k, same⟩ := Int.eq_ofNat_of_zero_le (show 0 ≤ -(exponent + 1) by omega)
        have next : (-exponent).toNat = k + 1 := by omega
        have reduced : ofRatio negative (digits * 10) (Nat.pow 10 (k + 1)) =
            ofRatio negative digits (Nat.pow 10 k) :=
          ofRatio_mul (Nat.pow_pos (by decide)) (by decide)
        rw [if_neg nonneg, next, same, Int.toNat_natCast, reduced]
        by_cases last : k = 0
        · have nonneg : 0 ≤ exponent + 1 := by omega
          have none : (exponent + 1).toNat = 0 := by omega
          rw [if_pos nonneg, none, last]
          simp [Nat.pow_eq]
        · rw [if_neg (by omega)]
    unfold ofDecimal
    dsimp only
    rw [if_neg notZero, if_neg positive.ne', lengths, ratios]

theorem ofDecimal_shift_many (negative : Bool) (digits zeros : Nat) (exponent : Int) :
    ofDecimal negative ⟨digits * 10 ^ zeros, exponent⟩ =
      ofDecimal negative ⟨digits, exponent + zeros⟩ := by
  induction zeros generalizing exponent with
  | zero => simp
  | succ zeros ih =>
      rw [Nat.pow_succ, ← Nat.mul_assoc, ofDecimal_shift, ih]
      congr 2
      omega

theorem ofDecimal_trim (negative : Bool) (decimal : Decimal) (fuel : Nat) :
    ofDecimal negative (decimal.trim fuel) = ofDecimal negative decimal := by
  induction fuel generalizing decimal with
  | zero => rfl
  | succ fuel ih =>
      rw [Decimal.trim]
      split
      next ends =>
        have whole : decimal.digits / 10 * 10 = decimal.digits := by omega
        rw [ih, ← ofDecimal_shift, whole]
      next => rfl

theorem negate_ofDecimal (negative : Bool) (decimal : Decimal) :
    (ofDecimal negative decimal).negate = ofDecimal (!negative) decimal := by
  unfold ofDecimal
  dsimp only
  simp only [apply_ite negate, negate_ofRatio]
  rfl

/-! ### Exact decimals -/

variable {significand : Nat} {exponent : Int}

/-- The length of a decimal that is neither too long nor too short to be looked at. -/
theorem length_bounds {digits places : Nat} (notMore : digits < 10 ^ (400 + places))
    (notLess : 10 ^ (places - 401) ≤ digits) :
    ¬ (400 < ((Nat.toDigits 10 digits).length : Int) + -(places : Int)) ∧
      ¬ (((Nat.toDigits 10 digits).length : Int) + -(places : Int) < -400) := by
  have positive : 0 < (Nat.toDigits 10 digits).length := Nat.length_toDigits_pos
  have upper : (Nat.toDigits 10 digits).length ≤ 400 + places :=
    (Nat.length_toDigits_le_iff (by decide) (by omega)).2 notMore
  refine ⟨by omega, fun short => ?_⟩
  have few : (Nat.toDigits 10 digits).length ≤ places - 401 := by omega
  have less := (Nat.length_toDigits_le_iff (by decide) (by omega)).1 few
  exact absurd less (Nat.not_lt.2 notLess)

/-- The expansion of a number with all its digits reads back. -/
theorem ofDecimal_expansion (negative : Bool) (stored : IsStored significand exponent)
    (positive : 0 < significand) :
    let ratio := magnitude significand exponent
    ofDecimal negative ⟨ratio.1 * Nat.pow 10 ratio.2.log2 / ratio.2, -(ratio.2.log2 : Int)⟩ =
      .finite negative significand exponent stored := by
  intro ratio
  have nearest := ofRatio_magnitude negative stored
  obtain ⟨small, least, most, _⟩ := stored
  obtain ⟨k, places⟩ : ∃ k, (-exponent).toNat = k := ⟨_, rfl⟩
  have few : k ≤ 1074 := by omega
  have denominator : ratio.2 = 2 ^ k := by rw [← places]; rfl
  have digits : ratio.1 * Nat.pow 10 k / 2 ^ k = ratio.1 * 5 ^ k := by
    rw [Nat.pow_eq, show 10 = 5 * 2 from rfl, Nat.mul_pow, ← Nat.mul_assoc,
      Nat.mul_div_cancel _ (Nat.pow_pos two_pos)]
  have numerator : 0 < ratio.1 := (magnitude_pos positive _).1
  have notZero : ratio.1 * 5 ^ k ≠ 0 := (Nat.mul_pos numerator (Nat.pow_pos (by decide))).ne'
  have notMore (top length : Nat) (le : exponent.toNat ≤ top)
      (powers : 2 ^ 53 * 2 ^ top < 10 ^ length) : ratio.1 * 5 ^ k < 10 ^ (length + k) := by
    have bounded : ratio.1 < 10 ^ length :=
      (Nat.mul_le_mul small.le (Nat.pow_le_pow_right two_pos le)).trans_lt powers
    rw [Nat.pow_add]
    exact Nat.mul_lt_mul_of_lt_of_le bounded (Nat.pow_le_pow_left (by decide) k)
      (Nat.pow_pos (by decide))
  have notLess : 10 ^ (k - 401) ≤ ratio.1 * 5 ^ k := by
    by_cases close : k ≤ 401
    · rw [Nat.sub_eq_zero_of_le close]
      exact Nat.pos_of_ne_zero notZero
    · have split : 5 ^ k = 5 ^ (k - 401) * 5 ^ 401 := by
        rw [← Nat.pow_add]
        congr 1
        omega
      have power : 2 ^ (k - 401) ≤ 5 ^ 401 :=
        calc 2 ^ (k - 401) ≤ 2 ^ 673 := Nat.pow_le_pow_right two_pos (by omega)
          _ ≤ 5 ^ 401 := by decide +kernel
      calc 10 ^ (k - 401) = 5 ^ (k - 401) * 2 ^ (k - 401) := by rw [← Nat.mul_pow]
        _ ≤ 5 ^ (k - 401) * 5 ^ 401 := Nat.mul_le_mul_left _ power
        _ = 5 ^ k := split.symm
        _ ≤ ratio.1 * 5 ^ k := Nat.le_mul_of_pos_left _ numerator
  obtain ⟨notLong, notShort⟩ :=
    length_bounds (notMore 971 400 (by omega) (by decide +kernel)) notLess
  have power : (2 : Nat) ^ k * 5 ^ k = 10 ^ k := by rw [← Nat.mul_pow]
  change ofRatio negative ratio.1 ratio.2 = _ at nearest
  rw [denominator, ← ofRatio_mul (k := 5 ^ k) (Nat.pow_pos two_pos) (Nat.pow_pos (by decide)),
    power] at nearest
  rw [denominator, Nat.log2_two_pow, digits]
  unfold ofDecimal
  dsimp only
  rw [if_neg notZero, if_neg notLong, if_neg notShort]
  by_cases whole : k = 0
  · subst whole
    simpa [Nat.pow_eq] using nearest
  · rw [if_neg (by omega), neg_neg, Int.toNat_natCast]
    exact nearest

/-! ### The shortest decimal -/

theorem toRatio?_finite (negative : Bool) (stored : IsStored significand exponent) :
    ∃ signed : Int, (finite negative significand exponent stored).toRatio? =
        some (signed, (magnitude significand exponent).2) ∧
      signed.natAbs = (magnitude significand exponent).1 := by
  refine ⟨_, rfl, ?_⟩
  have natural : ((significand : Int) * Int.pow 2 exponent.toNat).natAbs =
      significand * Nat.pow 2 exponent.toNat := by
    rw [Int.natAbs_mul, Int.natAbs_natCast]
    congr 1
  split
  · rw [Int.natAbs_neg]
    exact natural
  · exact natural

/-- The decimal that a finite number is written with reads back to it. -/
theorem ofDecimal_shortest {x : Binary64} (finite : x.isFinite = true) :
    ofDecimal x.isNegative x.shortest = x := by
  cases x with
  | infinite negative => exact absurd finite Bool.false_ne_true
  | nan => exact absurd finite Bool.false_ne_true
  | finite negative significand exponent stored =>
      obtain ⟨signed, ratio, natural⟩ := toRatio?_finite negative stored
      unfold shortest
      rw [ratio]
      dsimp only
      rw [natural]
      by_cases nothing : significand = 0
      · subst nothing
        obtain rfl : exponent = -1074 := stored.2.2.2.resolve_left (by decide)
        rfl
      · have positive := Nat.pos_of_ne_zero nothing
        rw [if_neg (magnitude_pos positive _).1.ne']
        split
        next decimal found =>
          obtain ⟨fraction, _, onGrid⟩ := List.exists_of_findSome?_eq_some found
          rw [ofDecimal_trim]
          have readsBack := List.find?_some onGrid
          exact beq_iff_eq.1 readsBack
        next => exact ofDecimal_expansion negative stored positive

end FunctionSynthesis.Binary64
