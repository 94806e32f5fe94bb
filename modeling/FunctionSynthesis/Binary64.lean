/-!
# Binary floating-point numbers

A `Binary64` is a number that a 64-bit binary floating-point word can hold: a
signed significand times a power of two, one of the two infinities, or the
value that stands for "not a number". Everything here is exact arithmetic on
`Nat` and `Int` followed by one rounding to the nearest representable number,
a tie going to the even significand, so the results can be reasoned about.
-/

namespace FunctionSynthesis

/-- A significand and an exponent that one word stores: the significand has at
most 53 bits, and exactly 53 of them unless the exponent is the least one. -/
def IsStored (significand : Nat) (exponent : Int) : Prop :=
  significand < Nat.pow 2 53 ∧ -1074 ≤ exponent ∧ exponent ≤ 971 ∧
    (Nat.pow 2 52 ≤ significand ∨ exponent = -1074)

instance (significand : Nat) (exponent : Int) :
    Decidable (IsStored significand exponent) := by
  unfold IsStored
  infer_instance

/-- A binary floating-point number. The finite ones are
`± significand * 2 ^ exponent`; zero has two signs. -/
inductive Binary64 where
  | finite (negative : Bool) (significand : Nat) (exponent : Int)
      (stored : IsStored significand exponent)
  | infinite (negative : Bool)
  | nan
  deriving DecidableEq

namespace Binary64

def zero (negative : Bool) : Binary64 :=
  .finite negative 0 (-1074) (by decide)

instance : Inhabited Binary64 := ⟨zero false⟩

/-- The word with these fields, or an infinity when they do not fit one. -/
def pack (negative : Bool) (significand : Nat) (exponent : Int) : Binary64 :=
  if stored : IsStored significand exponent then
    .finite negative significand exponent stored
  else
    .infinite negative

/-- The quotient of two naturals rounded to the nearest natural, a tie going
to the even one. -/
def divideToEven (numerator denominator : Nat) : Nat :=
  let quotient := numerator / denominator
  let twice := 2 * (numerator % denominator)
  if twice < denominator then quotient
  else if denominator < twice then quotient + 1
  else if quotient % 2 = 0 then quotient
  else quotient + 1

/-- The exponent at which `numerator / denominator` has a significand of 53
bits, or the least exponent for numbers too small for that. -/
def exponentFor (numerator denominator : Nat) : Int :=
  let estimate : Int := (numerator.log2 : Int) - (denominator.log2 : Int) - 52
  let short :=
    if 0 ≤ estimate then
      numerator < Nat.pow 2 52 * (denominator * Nat.pow 2 estimate.toNat)
    else
      numerator * Nat.pow 2 (-estimate).toNat < Nat.pow 2 52 * denominator
  max (if short then estimate - 1 else estimate) (-1074)

/-- The representable number nearest to `± numerator / denominator`. -/
def ofRatio (negative : Bool) (numerator denominator : Nat) : Binary64 :=
  if numerator = 0 then
    zero negative
  else
    let exponent := exponentFor numerator denominator
    let significand :=
      if 0 ≤ exponent then
        divideToEven numerator (denominator * Nat.pow 2 exponent.toNat)
      else
        divideToEven (numerator * Nat.pow 2 (-exponent).toNat) denominator
    if significand = Nat.pow 2 53 then
      pack negative (Nat.pow 2 52) (exponent + 1)
    else
      pack negative significand exponent

def ofInt (n : Int) : Binary64 :=
  ofRatio (n < 0) n.natAbs 1

/-- A finite number as a signed numerator over a positive denominator. -/
def toRatio? : Binary64 → Option (Int × Nat)
  | .finite negative significand exponent _ =>
      let magnitude : Int := significand * Int.pow 2 exponent.toNat
      some (if negative then -magnitude else magnitude, Nat.pow 2 (-exponent).toNat)
  | _ => none

def isNegative : Binary64 → Bool
  | .finite negative _ _ _ => negative
  | .infinite negative => negative
  | .nan => false

def isZero : Binary64 → Bool
  | .finite _ significand _ _ => significand == 0
  | _ => false

def isFinite : Binary64 → Bool
  | .finite _ _ _ _ => true
  | _ => false

def negate : Binary64 → Binary64
  | .finite negative significand exponent stored =>
      .finite (!negative) significand exponent stored
  | .infinite negative => .infinite (!negative)
  | .nan => .nan

/-- The order of two numbers, or nothing when one of them is not a number. -/
def compare? : Binary64 → Binary64 → Option Ordering
  | .nan, _ => none
  | _, .nan => none
  | .infinite a, .infinite b =>
      some (if a == b then .eq else if a then .lt else .gt)
  | .infinite a, _ => some (if a then .lt else .gt)
  | _, .infinite b => some (if b then .gt else .lt)
  | x, y =>
      match x.toRatio?, y.toRatio? with
      | some (n, d), some (m, e) => some (Ord.compare (n * e) (m * d))
      | _, _ => none

/-- The order of a number and an integer, compared exactly. -/
def compareInt? (x : Binary64) (k : Int) : Option Ordering :=
  match x with
  | .nan => none
  | .infinite negative => some (if negative then .lt else .gt)
  | x =>
      match x.toRatio? with
      | some (n, d) => some (Ord.compare n (k * d))
      | none => none

/-- Numeric equality: the two zeros are equal. The value that is not a number
is equal to itself here, which keeps equality reflexive. -/
def equal (x y : Binary64) : Bool :=
  match x, y with
  | .nan, .nan => true
  | x, y => x.compare? y == some .eq

private def ofExact (numerator : Int) (denominator : Nat) (zeroNegative : Bool) :
    Binary64 :=
  if numerator = 0 then zero zeroNegative
  else ofRatio (numerator < 0) numerator.natAbs denominator

def add (x y : Binary64) : Binary64 :=
  match x, y with
  | .nan, _ => .nan
  | _, .nan => .nan
  | .infinite a, .infinite b => if a == b then .infinite a else .nan
  | .infinite a, _ => .infinite a
  | _, .infinite b => .infinite b
  | x, y =>
      match x.toRatio?, y.toRatio? with
      | some (n, d), some (m, e) =>
          ofExact (n * e + m * d) (d * e) (x.isNegative && y.isNegative)
      | _, _ => .nan

def subtract (x y : Binary64) : Binary64 :=
  x.add y.negate

def multiply (x y : Binary64) : Binary64 :=
  let negative := x.isNegative != y.isNegative
  match x, y with
  | .nan, _ => .nan
  | _, .nan => .nan
  | .infinite _, y => if y.isZero then .nan else .infinite negative
  | x, .infinite _ => if x.isZero then .nan else .infinite negative
  | x, y =>
      match x.toRatio?, y.toRatio? with
      | some (n, d), some (m, e) => ofExact (n * m) (d * e) negative
      | _, _ => .nan

/-- The quotient of two numbers; the divisor is not zero. -/
def divide (x y : Binary64) : Binary64 :=
  let negative := x.isNegative != y.isNegative
  match x, y with
  | .nan, _ => .nan
  | _, .nan => .nan
  | .infinite _, .infinite _ => .nan
  | .infinite _, _ => .infinite negative
  | _, .infinite _ => zero negative
  | x, y =>
      match x.toRatio?, y.toRatio? with
      | some (n, d), some (m, e) =>
          if n = 0 then zero negative
          else ofRatio negative (n.natAbs * e) (d * m.natAbs)
      | _, _ => .nan

/-- The exact remainder of the quotient rounded toward zero; it has the sign
of the dividend. The divisor is not zero. -/
def truncatedRemainder (x y : Binary64) : Binary64 :=
  match x, y with
  | .nan, _ => .nan
  | _, .nan => .nan
  | .infinite _, _ => .nan
  | x, .infinite _ => x
  | x, y =>
      match x.toRatio?, y.toRatio? with
      | some (n, d), some (m, e) =>
          ofExact ((n * e).tmod (m * d)) (d * e) x.isNegative
      | _, _ => .nan

/-- The greatest whole number that is not above `x`. -/
def floor (x : Binary64) : Binary64 :=
  match x.toRatio? with
  | some (n, d) =>
      if n % (d : Int) = 0 then x else ofExact (n / (d : Int)) 1 x.isNegative
  | none => x

/-- The greatest integer that is not above a finite number. -/
def floor? (x : Binary64) : Option Int :=
  x.toRatio?.map fun (n, d) => n / (d : Int)

private def one : Binary64 := ofInt 1

private def half : Binary64 := ofRatio false 1 2

/-- Floored division with its remainder, computed in rounded steps: the
remainder takes the sign of the divisor, which is not zero. -/
def divideFloor (x y : Binary64) : Binary64 × Binary64 :=
  let remainder := truncatedRemainder x y
  let quotient := (x.subtract remainder).divide y
  let (remainder, quotient) :=
    if remainder.isZero then
      (zero y.isNegative, quotient)
    else if remainder != .nan && remainder.isNegative != y.isNegative then
      (remainder.add y, quotient.subtract one)
    else
      (remainder, quotient)
  let quotient :=
    if quotient.isZero then
      zero (x.isNegative != y.isNegative)
    else
      let below := quotient.floor
      if (quotient.subtract below).compare? half == some .gt then below.add one
      else below
  (quotient, remainder)

/-- The number whose decimal expansion with `places` fraction digits is nearest
to `x`, a tie going to the even digit. -/
def roundToPlaces (places : Nat) (x : Binary64) : Binary64 :=
  match x.toRatio? with
  | some (n, d) =>
      ofRatio x.isNegative (divideToEven (n.natAbs * Nat.pow 10 places) d) (Nat.pow 10 places)
  | none => x

end Binary64

end FunctionSynthesis
