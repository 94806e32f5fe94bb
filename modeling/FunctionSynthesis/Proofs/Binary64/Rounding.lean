import Mathlib.Algebra.Order.Field.Power
import Mathlib.Algebra.Order.Ring.Rat
import Mathlib.Tactic.FieldSimp
import Mathlib.Tactic.Linarith
import Mathlib.Tactic.Positivity
import FunctionSynthesis.Binary64

/-!
# Rounding of quotients

The number nearest to a quotient only depends on the quotient, not on how it is
written (`ofRatio_mul`), and a number that needs no rounding is the one nearest to
its own value (`ofRatio_of_stored`).
-/

namespace FunctionSynthesis.Binary64

/-! ### The exponent of a quotient -/

/-- Whether `n / m` has at least 53 binary digits down to `2 ^ e`. -/
def Reaches (n m : Nat) (e : Int) : Prop :=
  (2 : ℚ) ^ (e + 52) * m ≤ n

variable {n m : Nat} {e e' : Int}

theorem Reaches.mono (reaches : Reaches n m e') (le : e ≤ e') : Reaches n m e := by
  have powers : (2 : ℚ) ^ (e + 52) ≤ 2 ^ (e' + 52) :=
    zpow_le_zpow_right₀ one_le_two (by omega)
  exact (mul_le_mul_of_nonneg_right powers (Nat.cast_nonneg m)).trans reaches

theorem reaches_mul_iff {k : Nat} (positive : 0 < k) :
    Reaches (n * k) (m * k) e ↔ Reaches n m e := by
  unfold Reaches
  have scale : (0 : ℚ) < k := Nat.cast_pos.2 positive
  rw [Nat.cast_mul, Nat.cast_mul, ← mul_assoc]
  exact mul_le_mul_iff_left₀ scale

/-- The comparison that decides on an exponent is one of quotients. -/
theorem reaches_iff_of_nonneg (nonneg : 0 ≤ e) :
    Reaches n m e ↔ Nat.pow 2 52 * (m * Nat.pow 2 e.toNat) ≤ n := by
  obtain ⟨k, rfl⟩ := Int.eq_ofNat_of_zero_le nonneg
  have power : (2 : ℚ) ^ ((k : Int) + 52) = 2 ^ k * 2 ^ 52 := by
    rw [zpow_add₀ two_ne_zero, zpow_natCast]
    norm_num
  unfold Reaches
  rw [power, ← Nat.cast_le (α := ℚ)]
  simp only [Nat.pow_eq, Int.toNat_natCast, Nat.cast_mul, Nat.cast_pow, Nat.cast_ofNat]
  constructor <;> intro le <;> linarith

theorem reaches_iff_of_neg (negative : e < 0) :
    Reaches n m e ↔ Nat.pow 2 52 * m ≤ n * Nat.pow 2 (-e).toNat := by
  obtain ⟨k, same⟩ := Int.eq_ofNat_of_zero_le (neg_nonneg.2 negative.le)
  obtain rfl : e = -k := by omega
  have power : (2 : ℚ) ^ (-(k : Int) + 52) * 2 ^ k = 2 ^ 52 := by
    rw [zpow_add₀ two_ne_zero, zpow_neg, zpow_natCast]
    field_simp
  have positive : (0 : ℚ) < 2 ^ k := by positivity
  unfold Reaches
  rw [← mul_le_mul_iff_left₀ positive, ← Nat.cast_le (α := ℚ), mul_right_comm, power]
  simp only [neg_neg, Int.toNat_natCast, Nat.pow_eq, Nat.cast_mul, Nat.cast_pow,
    Nat.cast_ofNat]

/-- The estimate that an exponent is found from. -/
def estimate (n m : Nat) : Int :=
  (n.log2 : Int) - (m.log2 : Int) - 52

theorem reaches_estimate (numerator : 0 < n) (denominator : 0 < m) :
    Reaches n m (estimate n m - 1) ∧ ¬ Reaches n m (estimate n m + 1) := by
  have leastN : (2 : ℚ) ^ n.log2 ≤ n := by
    exact_mod_cast Nat.log2_self_le numerator.ne'
  have mostN : (n : ℚ) < 2 ^ (n.log2 + 1) := by
    exact_mod_cast Nat.lt_log2_self
  have leastM : (2 : ℚ) ^ m.log2 ≤ m := by
    exact_mod_cast Nat.log2_self_le denominator.ne'
  have mostM : (m : ℚ) < 2 ^ (m.log2 + 1) := by
    exact_mod_cast Nat.lt_log2_self
  unfold Reaches estimate
  constructor
  · have power : (2 : ℚ) ^ ((n.log2 : Int) - m.log2 - 52 - 1 + 52) * 2 ^ (m.log2 + 1) =
        2 ^ n.log2 := by
      rw [← zpow_natCast, ← zpow_natCast, ← zpow_add₀ two_ne_zero]
      congr 1
      push_cast
      omega
    calc (2 : ℚ) ^ ((n.log2 : Int) - m.log2 - 52 - 1 + 52) * m
        ≤ 2 ^ ((n.log2 : Int) - m.log2 - 52 - 1 + 52) * 2 ^ (m.log2 + 1) :=
          mul_le_mul_of_nonneg_left mostM.le (by positivity)
      _ = 2 ^ n.log2 := power
      _ ≤ n := leastN
  · have power : (2 : ℚ) ^ ((n.log2 : Int) - m.log2 - 52 + 1 + 52) * 2 ^ m.log2 =
        2 ^ (n.log2 + 1) := by
      rw [← zpow_natCast, ← zpow_natCast, ← zpow_add₀ two_ne_zero]
      congr 1
      push_cast
      omega
    refine not_le.2 (mostN.trans_le ?_)
    calc (2 : ℚ) ^ (n.log2 + 1)
        = 2 ^ ((n.log2 : Int) - m.log2 - 52 + 1 + 52) * 2 ^ m.log2 := power.symm
      _ ≤ 2 ^ ((n.log2 : Int) - m.log2 - 52 + 1 + 52) * m :=
          mul_le_mul_of_nonneg_left leastM (by positivity)

/-- What an exponent is found by: its estimate is too high if the quotient does not
reach it. -/
theorem exponentFor_eq_max :
    (Reaches n m (estimate n m) → exponentFor n m = max (estimate n m) (-1074)) ∧
    (¬ Reaches n m (estimate n m) → exponentFor n m = max (estimate n m - 1) (-1074)) := by
  by_cases nonneg : 0 ≤ estimate n m
  · rw [reaches_iff_of_nonneg nonneg]
    constructor <;> intro reaches <;> unfold exponentFor <;> dsimp only
    · rw [← estimate, if_neg (by rw [if_pos nonneg]; exact not_lt.2 reaches)]
    · rw [← estimate, if_pos (by rw [if_pos nonneg]; exact not_le.1 reaches)]
  · rw [reaches_iff_of_neg (not_le.1 nonneg)]
    constructor <;> intro reaches <;> unfold exponentFor <;> dsimp only
    · rw [← estimate, if_neg (by rw [if_neg nonneg]; exact not_lt.2 reaches)]
    · rw [← estimate, if_pos (by rw [if_neg nonneg]; exact not_le.1 reaches)]

/-- The exponent of a quotient is the last one that it reaches, if that is not too
small. -/
theorem exponentFor_eq (numerator : 0 < n) (denominator : 0 < m) (reaches : Reaches n m e)
    (last : ¬ Reaches n m (e + 1)) : exponentFor n m = max e (-1074) := by
  obtain ⟨below, above⟩ := reaches_estimate numerator denominator
  have lower : estimate n m - 1 ≤ e := by
    by_contra less
    exact last (below.mono (by omega))
  have upper : e ≤ estimate n m := by
    by_contra more
    exact above (reaches.mono (by omega))
  by_cases here : Reaches n m (estimate n m)
  · have same : e = estimate n m := by
      by_contra different
      exact last (here.mono (by omega))
    rw [same, exponentFor_eq_max.1 here]
  · have same : e = estimate n m - 1 := by
      by_contra different
      exact here (reaches.mono (by omega))
    rw [same, exponentFor_eq_max.2 here]

theorem exists_reaches (numerator : 0 < n) (denominator : 0 < m) :
    ∃ e, Reaches n m e ∧ ¬ Reaches n m (e + 1) := by
  obtain ⟨below, above⟩ := reaches_estimate numerator denominator
  by_cases here : Reaches n m (estimate n m)
  · exact ⟨_, here, above⟩
  · exact ⟨_, below, by rwa [sub_add_cancel]⟩

theorem exponentFor_mul {k : Nat} (numerator : 0 < n) (denominator : 0 < m)
    (positive : 0 < k) : exponentFor (n * k) (m * k) = exponentFor n m := by
  obtain ⟨e, reaches, last⟩ := exists_reaches numerator denominator
  rw [exponentFor_eq numerator denominator reaches last]
  exact exponentFor_eq (Nat.mul_pos numerator positive) (Nat.mul_pos denominator positive)
    ((reaches_mul_iff positive).2 reaches) (mt (reaches_mul_iff positive).1 last)

/-- Quotients below the least exponent have that one. -/
theorem exponentFor_of_not_reaches (numerator : 0 < n) (denominator : 0 < m)
    (below : ¬ Reaches n m (-1074)) : exponentFor n m = -1074 := by
  obtain ⟨e, reaches, last⟩ := exists_reaches numerator denominator
  have less : e < -1074 := by
    by_contra more
    exact below (reaches.mono (by omega))
  rw [exponentFor_eq numerator denominator reaches last, max_eq_right less.le]

/-! ### The significand of a quotient -/

theorem divideToEven_mul {k : Nat} (positive : 0 < k) (n m : Nat) :
    divideToEven (n * k) (m * k) = divideToEven n m := by
  unfold divideToEven
  dsimp only
  rw [Nat.mul_div_mul_right n m positive, Nat.mul_mod_mul_right, ← Nat.mul_assoc]
  simp only [Nat.mul_lt_mul_right positive]

theorem divideToEven_of_mul {k : Nat} (positive : 0 < k) (n : Nat) :
    divideToEven (n * k) k = n := by
  simp [divideToEven, Nat.mul_div_cancel n positive, positive]

/-- Both parts of a quotient can be multiplied before it is rounded. -/
theorem ofRatio_mul {negative : Bool} {k : Nat} (denominator : 0 < m) (positive : 0 < k) :
    ofRatio negative (n * k) (m * k) = ofRatio negative n m := by
  by_cases zero : n = 0
  · rw [zero, Nat.zero_mul]
    simp [ofRatio]
  · have product : n * k ≠ 0 := Nat.mul_ne_zero zero positive.ne'
    have exponents := exponentFor_mul (Nat.pos_of_ne_zero zero) denominator positive
    have significands (power : Nat) :
        divideToEven (n * k) (m * k * power) = divideToEven n (m * power) ∧
        divideToEven (n * k * power) (m * k) = divideToEven (n * power) m := by
      rw [Nat.mul_right_comm m, Nat.mul_right_comm n]
      exact ⟨divideToEven_mul positive _ _, divideToEven_mul positive _ _⟩
    unfold ofRatio
    rw [if_neg product, if_neg zero]
    simp only [exponents, (significands _).1, (significands _).2]

/-! ### Numbers that need no rounding -/

variable {significand : Nat} {exponent : Int}

theorem pack_of_stored (negative : Bool) (stored : IsStored significand exponent) :
    pack negative significand exponent = .finite negative significand exponent stored := by
  rw [pack, dif_pos stored]

/-- The magnitude of a number as a quotient. -/
def magnitude (significand : Nat) (exponent : Int) : Nat × Nat :=
  (significand * Nat.pow 2 exponent.toNat, Nat.pow 2 (-exponent).toNat)

theorem reaches_magnitude_iff :
    Reaches (magnitude significand exponent).1 (magnitude significand exponent).2 e ↔
      (2 : ℚ) ^ (e + 52) ≤ significand * 2 ^ exponent := by
  unfold Reaches magnitude
  rcases le_total 0 exponent with nonneg | nonpos
  · obtain ⟨k, rfl⟩ := Int.eq_ofNat_of_zero_le nonneg
    have none : (-(k : Int)).toNat = 0 := by omega
    simp [none, Nat.pow_eq]
  · obtain ⟨k, same⟩ := Int.eq_ofNat_of_zero_le (neg_nonneg.2 nonpos)
    obtain rfl : exponent = -k := by omega
    have none : (-(k : Int)).toNat = 0 := by omega
    have power : (0 : ℚ) < 2 ^ k := by positivity
    rw [none, neg_neg, zpow_neg, zpow_natCast, ← div_eq_mul_inv, le_div_iff₀ power]
    simp [Nat.pow_eq]

theorem magnitude_pos (positive : 0 < significand) (exponent : Int) :
    0 < (magnitude significand exponent).1 ∧ 0 < (magnitude significand exponent).2 :=
  ⟨Nat.mul_pos positive (Nat.pow_pos two_pos), Nat.pow_pos two_pos⟩

theorem exponentFor_magnitude (stored : IsStored significand exponent)
    (positive : 0 < significand) :
    exponentFor (magnitude significand exponent).1 (magnitude significand exponent).2 =
      exponent := by
  obtain ⟨small, least, _, full⟩ := stored
  obtain ⟨numerator, denominator⟩ := magnitude_pos positive exponent
  have unit : (0 : ℚ) < 2 ^ exponent := by positivity
  have scaled (e : Int) : (2 : ℚ) ^ (exponent + e) = 2 ^ e * 2 ^ exponent := by
    rw [add_comm, zpow_add₀ two_ne_zero]
  have reaches_iff (e : Int) : Reaches (magnitude significand exponent).1
      (magnitude significand exponent).2 (exponent + e) ↔ (2 : ℚ) ^ (e + 52) ≤ significand := by
    rw [reaches_magnitude_iff, add_assoc, scaled, mul_le_mul_iff_left₀ unit]
  by_cases normal : 2 ^ 52 ≤ significand
  · have reaches := (reaches_iff 0).2 (by exact_mod_cast normal)
    have last := mt (reaches_iff 1).1 (not_le.2 (by exact_mod_cast small))
    rw [add_zero] at reaches
    rw [exponentFor_eq numerator denominator reaches last, max_eq_left least]
  · obtain rfl : exponent = -1074 := full.resolve_left normal
    have below := mt (reaches_iff 0).1 (not_le.2 (by exact_mod_cast not_le.1 normal))
    exact exponentFor_of_not_reaches numerator denominator below

/-- The number nearest to the magnitude of a number is that number. -/
theorem ofRatio_magnitude (negative : Bool) (stored : IsStored significand exponent) :
    ofRatio negative (magnitude significand exponent).1 (magnitude significand exponent).2 =
      .finite negative significand exponent stored := by
  rcases Nat.eq_zero_or_pos significand with rfl | positive
  · obtain rfl : exponent = -1074 := stored.2.2.2.resolve_left (by decide)
    rfl
  · have found := exponentFor_magnitude stored positive
    obtain ⟨numerator, _⟩ := magnitude_pos positive exponent
    have notFull : significand ≠ Nat.pow 2 53 := stored.1.ne
    unfold ofRatio
    rw [if_neg numerator.ne', found]
    rcases le_or_gt 0 exponent with nonneg | below
    · have none : (-exponent).toNat = 0 := by omega
      have exact : divideToEven (magnitude significand exponent).1
          ((magnitude significand exponent).2 * Nat.pow 2 exponent.toNat) = significand := by
        rw [magnitude, none]
        simp only [Nat.pow_eq, Nat.pow_zero, Nat.one_mul]
        exact divideToEven_of_mul (Nat.pow_pos two_pos) significand
      simp only [if_pos nonneg, exact, if_neg notFull, pack_of_stored negative stored]
    · have none : exponent.toNat = 0 := by omega
      have exact : divideToEven
          ((magnitude significand exponent).1 * Nat.pow 2 (-exponent).toNat)
          (magnitude significand exponent).2 = significand := by
        rw [magnitude, none]
        simp only [Nat.pow_eq, Nat.pow_zero, Nat.mul_one]
        exact divideToEven_of_mul (Nat.pow_pos two_pos) significand
      simp only [if_neg (not_le.2 below), exact, if_neg notFull,
        pack_of_stored negative stored]

/-! ### Signs -/

theorem negate_ofRatio (negative : Bool) (n m : Nat) :
    (ofRatio negative n m).negate = ofRatio (!negative) n m := by
  have packed (significand : Nat) (exponent : Int) :
      (pack negative significand exponent).negate = pack (!negative) significand exponent := by
    unfold pack
    split <;> rfl
  unfold ofRatio
  split
  · rfl
  · dsimp only
    rw [apply_ite negate]
    simp only [packed]

end FunctionSynthesis.Binary64
