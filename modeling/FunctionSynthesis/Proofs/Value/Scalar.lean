import FunctionSynthesis.Value

/-!
# Scalars

Scalars are the values that literal types are made of: nothing, truth values,
integers and floating numbers. Two scalars are the same literal when they are of
one class and equal, and for floating numbers equality is equality of what they
count: `Binary64.equal_iff` gives a floating number a rank such that equal
numbers are the ones of equal rank. So being the same literal only identifies the
two zeros (`sameLiteral_iff`).
-/

namespace FunctionSynthesis

/-! ### Equality of floating numbers -/

namespace Binary64

/-- What a floating number counts: a rational or one of two infinities. -/
def rank? : Binary64 → Option (Bool ⊕ Rat)
  | .nan => none
  | .infinite negative => some (.inl negative)
  | .finite negative significand exponent _ =>
      let magnitude : Int := significand * Int.pow 2 exponent.toNat
      some (.inr (mkRat (if negative then -magnitude else magnitude)
        (Nat.pow 2 (-exponent).toNat)))

theorem equal_iff (x y : Binary64) :
    x.equal y = true ↔ x.rank? = y.rank? := by
  cases x with
  | nan => cases y <;> simp [equal, rank?, compare?]
  | infinite a =>
      cases y with
      | infinite b =>
          cases a <;> cases b <;> simp [equal, rank?, compare?]
      | finite b m e stored => cases a <;> simp [equal, rank?, compare?]
      | nan => simp [equal, rank?, compare?]
  | finite a n d stored =>
      cases y with
      | infinite b => cases b <;> simp [equal, rank?, compare?]
      | nan => simp [equal, rank?, compare?]
      | finite b m e stored' =>
          have positive (k : Nat) : Nat.pow 2 k ≠ 0 :=
            Nat.ne_of_gt (Nat.two_pow_pos k)
          simp only [equal, compare?, toRatio?, rank?, Option.some.injEq,
            Sum.inr.injEq, beq_iff_eq]
          rw [Rat.mkRat_eq_iff (positive _) (positive _),
            Std.LawfulEqOrd.compare_eq_iff_eq]

theorem equal_refl (x : Binary64) : x.equal x = true :=
  (equal_iff x x).2 rfl

end Binary64

namespace Value

/-! ### Literals -/

/-- Whether a value can be the literal of a literal type. -/
def isScalar : Value → Bool
  | .none => true
  | .bool _ => true
  | .int _ => true
  | .float _ => true
  | _ => false

/-- Whether a value is a scalar or a text: the literals that terms have. -/
def isAtom : Value → Bool
  | .str _ => true
  | v => v.isScalar

theorem isAtom_of_isScalar {v : Value} (scalar : v.isScalar = true) :
    v.isAtom = true := by
  cases v <;> simp_all [isScalar, isAtom]

theorem isHashable_of_isAtom {v : Value} (atom : v.isAtom = true) :
    v.isHashable = true := by
  cases v <;> simp_all [isAtom, isScalar, isHashable, unhashable?]

/-- A value that is the same literal as a scalar is that scalar, unless both are
floating numbers of one rank. -/
theorem sameLiteral_iff {v w : Value} (scalar : w.isScalar = true) :
    v.sameLiteral w = true ↔
      v = w ∨ ∃ x y, v = .float x ∧ w = .float y ∧ x.rank? = y.rank? := by
  have same : v.sameLiteral w = (v.className == w.className && equal v w) := rfl
  rw [same, Bool.and_eq_true, beq_iff_eq]
  cases w with
  | none => cases v <;> simp [className, equal, number?]
  | bool b =>
      cases v with
      | bool a => cases a <;> cases b <;>
          simp [className, equal, number?, Number.equal, Number.compare?]
      | _ => simp [className, equal, number?]
  | int n =>
      cases v with
      | int m => simp [className, equal, number?, Number.equal, Number.compare?]
      | _ => simp [className, equal, number?]
  | float y =>
      cases v with
      | float x =>
          simp only [className, equal, number?, Number.equal,
            Binary64.equal_iff, true_and, Value.float.injEq]
          constructor
          · intro ranks
            exact Or.inr ⟨x, y, rfl, rfl, ranks⟩
          · rintro (rfl | ⟨x', y', rfl, rfl, ranks⟩)
            · rfl
            · exact ranks
      | _ => simp [className, equal, number?]
  | _ => simp [isScalar] at scalar

theorem isScalar_of_sameLiteral {v w : Value} (scalar : w.isScalar = true)
    (same : v.sameLiteral w = true) : v.isScalar = true := by
  rcases (sameLiteral_iff scalar).1 same with rfl | ⟨x, y, rfl, rfl, _⟩
  · exact scalar
  · rfl

end Value

end FunctionSynthesis
