import FunctionSynthesis.Binary64.Decimal
import FunctionSynthesis.Text.Blank
import FunctionSynthesis.Text.DecimalDigit

/-!
# Numerals that people write

Numbers as they are given on a command line: blanks around them do not count,
single underscores may stand between digits, and the digits may be those of any
script. An integer has only digits behind its sign; a real number may also have
a fraction and an exponent, or be one of the words for infinity and for what is
not a number.
-/

namespace FunctionSynthesis.Text

/-- The blanks that may surround a numeral: not the ASCII separators. -/
def isNumeralBlank (c : Char) : Bool :=
  isBlank c && !(0x1C ≤ c.toNat && c.toNat ≤ 0x1F)

/-- A numeral without the blanks around it and with ASCII digits. -/
def bareNumeral (text : String) : List Char :=
  (trimWith isNumeralBlank text.toList).map asciiDigit

/-- The characters without the underscores between digits. There is no other
place for an underscore. -/
def ungrouped? (previous : Option Char) : List Char → Option (List Char)
  | [] => some []
  | '_' :: c :: rest =>
      if previous.any Char.isDigit && c.isDigit then
        (ungrouped? (some c) rest).map (c :: ·)
      else none
  | c :: rest =>
      if c = '_' then none else (ungrouped? (some c) rest).map (c :: ·)

/-- A sign at the start, as whether it is a minus, and the rest. -/
def takeSign (chars : List Char) : Bool × List Char :=
  match chars with
  | '-' :: rest => (true, rest)
  | '+' :: rest => (false, rest)
  | rest => (false, rest)

/-- The most digits that an integer may have. -/
def longestInteger : Nat := 4300

/-- The sign and the digits of an integer. -/
def signedDigits? (text : String) : Option (Bool × List Char) := do
  let chars ← ungrouped? none (bareNumeral text)
  let (negative, digits) := takeSign chars
  guard (!digits.isEmpty && digits.all Char.isDigit)
  return (negative, digits)

def integer? (text : String) : Option Int := do
  let (negative, digits) ← signedDigits? text
  guard (digits.length ≤ longestInteger)
  let n := Binary64.digitsValue digits
  return if negative then -(n : Int) else n

/-- The value of a digit to a base up to sixteen. -/
def baseDigit? (base : Nat) (c : Char) : Option Nat :=
  let n := c.toNat
  let value :=
    if c.isDigit then n - 48
    else if c.isUpper then n - 55
    else if c.isLower then n - 87
    else base
  if value < base then some value else none

/-- The letter that announces a base. -/
def baseLetter? : Nat → Option Char
  | 2 => some 'b'
  | 8 => some 'o'
  | 16 => some 'x'
  | _ => none

/-- The integer that a text without underscores writes to a base up to sixteen.
A zero and the letter of the base may stand in front of the digits. -/
def integerToBase? (base : Nat) (text : String) : Option Int := do
  let (negative, chars) := takeSign (bareNumeral text)
  let digits :=
    match chars with
    | '0' :: c :: rest =>
        if baseLetter? base == some c.toLower then rest else chars
    | chars => chars
  guard (!digits.isEmpty)
  let values ← digits.mapM (baseDigit? base)
  let n : Nat := values.foldl (fun n digit => base * n + digit) 0
  return if negative then -(n : Int) else n

/-- The words for numbers without digits. -/
def wordOfNumber? (negative : Bool) (word : List Char) : Option Binary64 :=
  let word := String.ofList (word.map Char.toLower)
  if word = "inf" || word = "infinity" then some (.infinite negative)
  else if word = "nan" then some .nan
  else none

def real? (text : String) : Option Binary64 := do
  let chars ← ungrouped? none (bareNumeral text)
  let (negative, rest) := takeSign chars
  match wordOfNumber? negative rest with
  | some x => return x
  | none => Binary64.ofNumeral? chars

end FunctionSynthesis.Text
