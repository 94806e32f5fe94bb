import FunctionSynthesis.Binary64

/-!
# Decimal notation of binary floating-point numbers

Reading a decimal rounds it once to the nearest number. Writing picks the
fewest digits that read back to the same number and, among those, the nearest
ones. Positional notation is used while the decimal exponent lies between -4
and 15, scientific notation otherwise.
-/

namespace FunctionSynthesis.Binary64

/-- A decimal `digits * 10 ^ exponent`. -/
structure Decimal where
  digits : Nat
  exponent : Int
  deriving DecidableEq

/-- The number nearest to a decimal. Decimals far outside the range of finite
numbers are settled by their length alone. -/
def ofDecimal (negative : Bool) (decimal : Decimal) : Binary64 :=
  let length : Int := (Nat.toDigits 10 decimal.digits).length
  if decimal.digits = 0 then zero negative
  else if 400 < length + decimal.exponent then .infinite negative
  else if length + decimal.exponent < -400 then zero negative
  else if 0 ≤ decimal.exponent then
    ofRatio negative (decimal.digits * Nat.pow 10 decimal.exponent.toNat) 1
  else
    ofRatio negative decimal.digits (Nat.pow 10 (-decimal.exponent).toNat)

/-- The exponent `k` with `10 ^ k ≤ numerator / denominator < 10 ^ (k + 1)`,
found from an estimate that is off by at most one. -/
def decimalExponent (numerator denominator : Nat) : Int :=
  let atLeast (k : Int) : Bool :=
    if 0 ≤ k then denominator * Nat.pow 10 k.toNat ≤ numerator
    else denominator ≤ numerator * Nat.pow 10 (-k).toNat
  let estimate : Int :=
    (((numerator.log2 : Int) - (denominator.log2 : Int)) * 30103) / 100000
  if atLeast (estimate + 1) then estimate + 1
  else if atLeast estimate then estimate
  else estimate - 1

/-- The decimals with digits down to `10 ^ exponent` on either side of
`numerator / denominator`, the nearer one first and the even one on a tie. -/
def neighbours (numerator denominator : Nat) (exponent : Int) : List Decimal :=
  let (top, bottom) :=
    if 0 ≤ exponent then (numerator, denominator * Nat.pow 10 exponent.toNat)
    else (numerator * Nat.pow 10 (-exponent).toNat, denominator)
  let below := top / bottom
  let nearest := divideToEven top bottom
  let other := if nearest = below then below + 1 else below
  [⟨nearest, exponent⟩, ⟨other, exponent⟩]

/-- Drop the zeros at the end of the digits. -/
def Decimal.trim (decimal : Decimal) : Nat → Decimal
  | 0 => decimal
  | fuel + 1 =>
      if decimal.digits ≠ 0 ∧ decimal.digits % 10 = 0 then
        Decimal.trim ⟨decimal.digits / 10, decimal.exponent + 1⟩ fuel
      else decimal

/-- The shortest decimal that reads back to the magnitude of a finite number:
grids of 1, 2, … 17 digits are tried in turn, and the exact decimal expansion
stands in should none of them do. -/
def shortest (x : Binary64) : Decimal :=
  match x.toRatio? with
  | some (signed, denominator) =>
      let numerator := signed.natAbs
      if numerator = 0 then ⟨0, 0⟩
      else
        let leading := decimalExponent numerator denominator
        let readsBack (decimal : Decimal) : Bool :=
          ofDecimal x.isNegative decimal == x
        let onGrid (fraction : Nat) : Option Decimal :=
          (neighbours numerator denominator (leading - fraction)).find? readsBack
        match (List.range 17).findSome? onGrid with
        | some decimal => decimal.trim 20
        | none =>
            let places := denominator.log2
            ⟨numerator * Nat.pow 10 places / denominator, -(places : Int)⟩
  | none => ⟨0, 0⟩

def zeros (n : Nat) : String :=
  String.ofList (List.replicate n '0')

/-- Notation of the decimal `0.d₁d₂… * 10 ^ point` with the given digits. -/
def positional (digits : String) (point : Int) : String :=
  if point ≤ 0 then
    "0." ++ zeros (-point).toNat ++ digits
  else
    let whole := point.toNat
    if digits.length ≤ whole then
      digits ++ zeros (whole - digits.length) ++ ".0"
    else
      String.ofList (digits.toList.take whole) ++ "." ++
        String.ofList (digits.toList.drop whole)

/-- An exponent with its sign and at least two digits. -/
def exponentText (exponent : Int) : String :=
  let magnitude := toString exponent.natAbs
  let padded := if magnitude.length < 2 then "0" ++ magnitude else magnitude
  "e" ++ (if exponent < 0 then "-" else "+") ++ padded

def scientific (digits : String) (exponent : Int) : String :=
  let mantissa :=
    match digits.toList with
    | [] => ""
    | [d] => String.singleton d
    | d :: rest => String.singleton d ++ "." ++ String.ofList rest
  mantissa ++ exponentText exponent

/-- The text of a number: the fewest digits that read back. -/
def text (x : Binary64) : String :=
  match x with
  | .nan => "nan"
  | .infinite negative => if negative then "-inf" else "inf"
  | x =>
      let decimal := x.shortest
      let digits := toString decimal.digits
      let point : Int := digits.length + decimal.exponent
      let magnitude :=
        if decimal.digits = 0 then "0.0"
        else if -4 < point ∧ point ≤ 16 then positional digits point
        else scientific digits (point - 1)
      if x.isNegative then "-" ++ magnitude else magnitude

/-- Digits of an unsigned decimal numeral, with the rest of the text. -/
def takeDigits (chars : List Char) : List Char × List Char :=
  (chars.takeWhile Char.isDigit, chars.dropWhile Char.isDigit)

/-- The value of a string of decimal digits. -/
def digitsValue (digits : List Char) : Nat :=
  digits.foldl (fun value c => value * 10 + (c.toNat - 48)) 0

/-- The exponent part of a numeral, `e` or `E` with a sign and digits. -/
def exponentPart? (chars : List Char) : Option Int :=
  match chars with
  | [] => some 0
  | e :: rest =>
      if e != 'e' && e != 'E' then none
      else
        let (negative, digits) :=
          match rest with
          | '-' :: more => (true, more)
          | '+' :: more => (false, more)
          | more => (false, more)
        if digits.isEmpty || !digits.all Char.isDigit then none
        else
          -- A longer exponent is out of range whatever its digits are.
          let digits := digits.dropWhile (· = '0')
          let value : Nat :=
            if 12 < digits.length then Nat.pow 10 12 else digitsValue digits
          some (if negative then -(value : Int) else value)

/-- Read an unsigned decimal numeral such as `12.5e-3`; either side of the
point may be empty, but not both. -/
def ofUnsigned? (negative : Bool) (chars : List Char) : Option Binary64 :=
  let (whole, rest) := takeDigits chars
  let (fraction, rest) :=
    match rest with
    | '.' :: more => takeDigits more
    | more => ([], more)
  if whole.isEmpty && fraction.isEmpty then none
  else
    (exponentPart? rest).map fun exponent =>
      ofDecimal negative
        ⟨digitsValue (whole ++ fraction), exponent - fraction.length⟩

def ofNumeral? (chars : List Char) : Option Binary64 :=
  match chars with
  | '-' :: rest => ofUnsigned? true rest
  | '+' :: rest => ofUnsigned? false rest
  | rest => ofUnsigned? false rest

end FunctionSynthesis.Binary64
