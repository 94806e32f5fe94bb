import FunctionSynthesis.Binary64.Decimal

/-!
# Decimal notation with a given number of digits

The magnitude `numerator / denominator` rounded to so many digits behind the
point or to so many digits in all, a tie going to the even digit.
-/

namespace FunctionSynthesis.Binary64

/-- The digits of a number, with zeros in front up to a width. -/
def digitsOfWidth (width n : Nat) : List Char :=
  let digits := Nat.toDigits 10 n
  List.replicate (width - digits.length) '0' ++ digits

/-- The digits before and behind a point. A point without digits behind it is
left out unless it is to be kept. -/
def withPoint (keepsPoint : Bool) (whole fraction : List Char) : List Char :=
  if fraction.isEmpty && !keepsPoint then whole else whole ++ '.' :: fraction

/-- Positional notation with so many digits behind the point. -/
def positionalPlaces (places : Nat) (keepsPoint : Bool)
    (numerator denominator : Nat) : List Char :=
  let scaled := divideToEven (numerator * Nat.pow 10 places) denominator
  let fraction :=
    if places = 0 then [] else digitsOfWidth places (scaled % Nat.pow 10 places)
  withPoint keepsPoint (Nat.toDigits 10 (scaled / Nat.pow 10 places)) fraction

/-- The first digits of a magnitude, rounded, with the exponent of the first
one. `count` is not zero. -/
def leadingDigits (count numerator denominator : Nat) : List Char × Int :=
  if numerator = 0 then (digitsOfWidth count 0, 0)
  else
    let exponent := decimalExponent numerator denominator
    let shift : Int := count - 1 - exponent
    let scaled :=
      if 0 ≤ shift then divideToEven (numerator * Nat.pow 10 shift.toNat) denominator
      else divideToEven numerator (denominator * Nat.pow 10 (-shift).toNat)
    if scaled < Nat.pow 10 count then (digitsOfWidth count scaled, exponent)
    else (digitsOfWidth count (scaled / 10), exponent + 1)

def scientificDigits (keepsPoint : Bool) (digits : List Char) (exponent : Int) :
    List Char :=
  withPoint keepsPoint (digits.take 1) (digits.drop 1) ++
    (exponentText exponent).toList

/-- Scientific notation with so many digits behind the point. -/
def scientificPlaces (places : Nat) (keepsPoint : Bool)
    (numerator denominator : Nat) : List Char :=
  let (digits, exponent) := leadingDigits (places + 1) numerator denominator
  scientificDigits keepsPoint digits exponent

/-- The notation that fits a magnitude, with so many digits in all: scientific
for small and for big exponents, positional otherwise. Zeros at the end are left
out unless the point is to be kept. -/
def generalPlaces (places : Nat) (keepsPoint : Bool)
    (numerator denominator : Nat) : List Char :=
  let count := max 1 places
  let (digits, exponent) := leadingDigits count numerator denominator
  let dropZeros (chars : List Char) : List Char :=
    if keepsPoint then chars else (chars.reverse.dropWhile (· = '0')).reverse
  if exponent < -4 || count ≤ exponent then
    scientificDigits keepsPoint (digits.take 1 ++ dropZeros (digits.drop 1)) exponent
  else if exponent < 0 then
    let zeros := List.replicate (-exponent - 1).toNat '0'
    withPoint keepsPoint ['0'] (dropZeros (zeros ++ digits))
  else
    let whole := (exponent + 1).toNat
    withPoint keepsPoint (digits.take whole) (dropZeros (digits.drop whole))

end FunctionSynthesis.Binary64
