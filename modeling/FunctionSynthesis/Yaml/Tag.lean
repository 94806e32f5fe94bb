import FunctionSynthesis.Binary64.Decimal
import FunctionSynthesis.Text.Numeral
import FunctionSynthesis.Value.Moment

/-!
# Tags of YAML

A tag says what kind of value a node stands for. A plain scalar without a tag
has the one that its spelling shows: `Tag.ofPlain` goes through the spellings in
a fixed order.
-/

namespace FunctionSynthesis.Yaml

/-- The kinds of values that nodes stand for. -/
inductive Tag where
  | null
  | bool
  | int
  | float
  | binary
  | timestamp
  | str
  | seq
  | map
  | set
  | omap
  | pairs
  | merge
  | value
  | unknown
  deriving DecidableEq

def Tag.isCollection (tag : Tag) : Bool :=
  [Tag.seq, .map, .set, .omap, .pairs].contains tag

/-! ### Spellings of numbers -/

/-- A digit or an underscore. -/
def isSpacedDigit (base : Nat) (c : Char) : Bool :=
  c = '_' || (Text.baseDigit? base c).isSome

/-- Whether there is a character and all of them are digits to a base or
underscores. -/
def areDigits (base : Nat) (chars : List Char) : Bool :=
  !chars.isEmpty && chars.all (isSpacedDigit base)

/-- Digits, of which the first is no underscore. -/
def areNumber (chars : List Char) : Bool :=
  chars.head?.any Char.isDigit && areDigits 10 chars

/-- A number below sixty with one digit or two. -/
def isSixtieth : List Char → Bool
  | [c] => c.isDigit
  | [c, d] => c.isDigit && c.toNat < '6'.toNat && d.isDigit
  | _ => false

/-- Whether groups of digits between colons write a number to the base sixty. -/
def areSixtieths (chars : List Char) : Bool :=
  match chars.splitOn ':' with
  | first :: second :: rest => areNumber first && (second :: rest).all isSixtieth
  | _ => false

/-- An exponent, which needs a sign, or nothing. -/
def isExponent (chars : List Char) : Bool :=
  match chars with
  | [] => true
  | e :: s :: digits =>
      (e = 'e' || e = 'E') && (s = '+' || s = '-') && !digits.isEmpty &&
        digits.all Char.isDigit
  | _ => false

/-- Whether a text without a sign writes an integer. -/
def isMagnitude (chars : List Char) : Bool :=
  match chars with
  | ['0'] => true
  | '0' :: 'b' :: digits => areDigits 2 digits
  | '0' :: 'x' :: digits => areDigits 16 digits
  | '0' :: digits => areDigits 8 digits
  | chars => areNumber chars || areSixtieths chars

def isInteger (chars : List Char) : Bool :=
  isMagnitude (Text.takeSign chars).2

/-- Whether a text writes a floating number: it has a point, and a digit before
it unless there is no sign. -/
def isFloat (chars : List Char) : Bool :=
  let unsigned := (Text.takeSign chars).2
  let isSigned := unsigned.length != chars.length
  let whole := unsigned.takeWhile (· != '.')
  match unsigned.drop whole.length with
  | [] => false
  | _ :: rest =>
      let fraction := rest.takeWhile (isSpacedDigit 10)
      let hasExponent := isExponent (rest.drop fraction.length)
      let word := String.ofList rest
      if whole.isEmpty then
        (!isSigned && fraction.head?.any Char.isDigit && hasExponent) ||
          ["inf", "Inf", "INF"].contains word ||
          (!isSigned && ["nan", "NaN", "NAN"].contains word)
      else
        (areNumber whole && hasExponent) ||
          (areSixtieths whole && fraction.length = rest.length)

/-! ### Spellings of days and times -/

/-- A number with so many digits. -/
def takeNumber? (least most : Nat) (chars : List Char) :
    Option (Nat × List Char) := do
  let digits := (chars.takeWhile Char.isDigit).take most
  guard (least ≤ digits.length)
  return (Binary64.digitsValue digits, chars.drop digits.length)

def afterMark? (mark : Char) : List Char → Option (List Char)
  | [] => none
  | c :: rest => if c = mark then some rest else none

private def skipBlanks (chars : List Char) : List Char :=
  chars.dropWhile fun c => c = ' ' || c = '\t'

def takeDay? (chars : List Char) : Option (Day × List Char) := do
  let (year, rest) ← takeNumber? 4 4 chars
  let (month, rest) ← takeNumber? 1 2 (← afterMark? '-' rest)
  let (day, rest) ← takeNumber? 1 2 (← afterMark? '-' rest)
  return (⟨year, month, day⟩, rest)

/-- The place of a time after a day: behind the letter or behind blanks. -/
def afterDay? (chars : List Char) : Option (List Char) :=
  match chars with
  | 'T' :: rest => some rest
  | 't' :: rest => some rest
  | chars =>
      let rest := skipBlanks chars
      if rest.length < chars.length then some rest else none

def takeTime? (chars : List Char) : Option (TimeOfDay × List Char) := do
  let (hour, rest) ← takeNumber? 1 2 chars
  let (minute, rest) ← takeNumber? 2 2 (← afterMark? ':' rest)
  let (second, rest) ← takeNumber? 2 2 (← afterMark? ':' rest)
  let (fraction, rest) :=
    match rest with
    | '.' :: more => Binary64.takeDigits more
    | rest => ([], rest)
  return (.ofDigits hour minute second fraction, rest)

/-- The distance from the universal time in minutes, up to the end of a text. -/
def wholeOffset? (chars : List Char) : Option Int := do
  match chars with
  | ['Z'] => return 0
  | sign :: rest => do
      guard (sign = '+' ∨ sign = '-')
      let (hours, rest) ← takeNumber? 1 2 rest
      let (minutes, rest) ←
        match rest with
        | ':' :: more => takeNumber? 2 2 more
        | rest => some (0, rest)
      guard rest.isEmpty
      let distance : Int := 60 * hours + minutes
      return if sign = '-' then -distance else distance
  | [] => none

/-- A day, perhaps with a time and a distance from the universal time. -/
def timestamp? (chars : List Char) :
    Option (Day × Option (TimeOfDay × Option Int)) := do
  let (day, rest) ← takeDay? chars
  if rest.isEmpty then return (day, none)
  let (time, rest) ← takeTime? (← afterDay? rest)
  if rest.isEmpty then return (day, some (time, none))
  return (day, some (time, some (← wholeOffset? (skipBlanks rest))))

/-- Whether a text writes a day or a moment. A day without a time needs all its
digits. -/
def isTimestamp (chars : List Char) : Bool :=
  match timestamp? chars with
  | some (_, none) => chars.length = "2001-01-01".length
  | some (_, some _) => true
  | none => false

/-! ### Tags -/

def nullWords : List String :=
  ["", "~", "null", "Null", "NULL"]

def boolWords : List String :=
  ["yes", "Yes", "YES", "no", "No", "NO", "true", "True", "TRUE", "false",
    "False", "FALSE", "on", "On", "ON", "off", "Off", "OFF"]

namespace Tag

/-- The tag that a text without quotes has by its spelling. A line end at its
end does not count. -/
def ofPlain (text : String) : Tag :=
  let chars := text.toList
  let chars :=
    if 1 < chars.length && chars.getLast? == some '\n' then chars.dropLast
    else chars
  let text := String.ofList chars
  if boolWords.contains text then .bool
  else if isFloat chars then .float
  else if isInteger chars then .int
  else if text = "<<" then .merge
  else if nullWords.contains text then .null
  else if isTimestamp chars then .timestamp
  else if text = "=" then .value
  else if ["!", "&", "*"].contains text then .unknown
  else .str

/-- What the full forms of the common tags start with. -/
def commonStart : String := "tag:yaml.org,2002:"

/-- The common tags by the last part of their full forms. -/
def common : List (String × Tag) :=
  [("null", .null), ("bool", .bool), ("int", .int), ("float", .float),
    ("binary", .binary), ("timestamp", .timestamp), ("str", .str),
    ("seq", .seq), ("map", .map), ("set", .set), ("omap", .omap),
    ("pairs", .pairs), ("merge", .merge), ("value", .value)]

/-- The tag with a full form. -/
def ofText (text : String) : Tag :=
  ((common.find? fun entry => commonStart ++ entry.1 == text).map (·.2)).getD
    .unknown

end Tag

end FunctionSynthesis.Yaml
