import FunctionSynthesis.Binary64.Decimal
import FunctionSynthesis.Fault

/-!
# Reading JSON

`Value.ofJson` reads one JSON value from a text. Besides standard JSON it takes
`NaN`, `Infinity` and `-Infinity`. A key that is given twice keeps its first
place and takes its last value. A text that cannot be read is refused with a
message and the position it concerns.
-/

namespace FunctionSynthesis.Json

/-- Why a text cannot be read: something is wrong, with so many characters left
from the place where that shows, or an integer has too many digits. -/
inductive Obstacle where
  | malformed (message : String) (remaining : Nat)
  | tooManyDigits (count : Nat)

/-- A result of reading, or why there is none. What has been read comes with
the characters after it. -/
abbrev Reading := Except Obstacle

private def refuse {α : Type} (message : String) (rest : List Char) :
    Reading α :=
  throw (.malformed message rest.length)

def isBlank (c : Char) : Bool :=
  c = ' ' || c = '\t' || c = '\n' || c = '\r'

def skipBlanks (chars : List Char) : List Char :=
  chars.dropWhile isBlank

/-! ### Numbers -/

private def startsWithDigit : List Char → Bool
  | c :: _ => c.isDigit
  | [] => false

/-- The integer part of a number: a zero, or digits that do not start with
one. -/
def integerPart? : List Char → Option (List Char × List Char)
  | '0' :: rest => some (['0'], rest)
  | chars =>
      if startsWithDigit chars then some (Binary64.takeDigits chars) else none

/-- A point with digits after it, if the text goes on so. -/
def fractionPart : List Char → List Char × List Char
  | '.' :: rest =>
      if startsWithDigit rest then
        let (digits, rest) := Binary64.takeDigits rest
        ('.' :: digits, rest)
      else ([], '.' :: rest)
  | rest => ([], rest)

/-- An exponent with digits, if the text goes on so. -/
def exponentPart (chars : List Char) : List Char × List Char :=
  match chars with
  | [] => ([], [])
  | e :: rest =>
      if e = 'e' || e = 'E' then
        let (sign, digitsOn) :=
          match rest with
          | '+' :: more => (['+'], more)
          | '-' :: more => (['-'], more)
          | more => ([], more)
        let (digits, after) := Binary64.takeDigits digitsOn
        if digits.isEmpty then ([], chars) else (e :: sign ++ digits, after)
      else ([], chars)

/-- The value of a number in its parts. A fraction or an exponent makes it a
floating number. -/
def numberOf (sign whole fraction exponent : List Char) : Reading Value :=
  if fraction.isEmpty && exponent.isEmpty then
    if Value.longestNumeral < whole.length then
      throw (.tooManyDigits whole.length)
    else
      let magnitude : Int := Binary64.digitsValue whole
      return .int (if sign.isEmpty then magnitude else -magnitude)
  else
    let numeral := sign ++ whole ++ fraction ++ exponent
    return .float ((Binary64.ofNumeral? numeral).getD .nan)

/-- The longest number at the start of a text. -/
def number (chars : List Char) : Reading (Value × List Char) :=
  let (sign, unsigned) :=
    match chars with
    | '-' :: rest => (['-'], rest)
    | rest => ([], rest)
  match integerPart? unsigned with
  | none => refuse "Expecting value" chars
  | some (whole, rest) => do
      let (fraction, rest) := fractionPart rest
      let (exponent, rest) := exponentPart rest
      return (← numberOf sign whole fraction exponent, rest)

/-! ### Texts -/

def hexValue? (c : Char) : Option Nat :=
  let n := c.toNat
  if 48 ≤ n && n ≤ 57 then some (n - 48)
  else if 65 ≤ n && n ≤ 70 then some (n - 55)
  else if 97 ≤ n && n ≤ 102 then some (n - 87)
  else none

/-- Four hexadecimal digits with at least one character after them. -/
def unit? (chars : List Char) : Option (Nat × List Char) :=
  match chars with
  | a :: b :: c :: d :: rest => do
      guard (!rest.isEmpty)
      let digits ← [a, b, c, d].mapM hexValue?
      return (digits.foldl (fun n digit => 16 * n + digit) 0, rest)
  | _ => none

def isHighSurrogate (unit : Nat) : Bool :=
  0xD800 ≤ unit && unit ≤ 0xDBFF

def isLowSurrogate (unit : Nat) : Bool :=
  0xDC00 ≤ unit && unit ≤ 0xDFFF

/-- The character of a unit; a lone surrogate has none of its own. -/
def unitChar (unit : Nat) : Char :=
  if isHighSurrogate unit || isLowSurrogate unit then Char.ofNat 0xFFFD
  else Char.ofNat unit

/-- The character that the letter after a backslash stands for. -/
def simpleEscape? : Char → Option Char
  | '"' => some '"'
  | '\\' => some '\\'
  | '/' => some '/'
  | 'b' => some (Char.ofNat 8)
  | 'f' => some (Char.ofNat 12)
  | 'n' => some '\n'
  | 'r' => some '\r'
  | 't' => some '\t'
  | _ => none

/-- The character of an escape by code, from after the letter. A high surrogate
joins the low one after it. -/
def codeEscape (letterOn rest : List Char) : Reading (Char × List Char) :=
  match unit? rest with
  | none => refuse "Invalid \\uXXXX escape" letterOn
  | some (high, after) =>
      match after with
      | '\\' :: 'u' :: more =>
          if isHighSurrogate high && 4 < more.length then
            match unit? more with
            | none => refuse "Invalid \\uXXXX escape" ('u' :: more)
            | some (low, afterLow) =>
                if isLowSurrogate low then
                  let code := 0x10000 + (high - 0xD800) * 0x400 + (low - 0xDC00)
                  return (Char.ofNat code, afterLow)
                else return (unitChar high, after)
          else return (unitChar high, after)
      | _ => return (unitChar high, after)

/-- The characters of a text up to its closing quote. `start` is the text from
the opening quote on. -/
def stringBody (start : List Char) (fuel : Nat) (read rest : List Char) :
    Reading (String × List Char) :=
  match fuel with
  | 0 => refuse "Unterminated string starting at" start
  | fuel + 1 =>
      match rest with
      | [] => refuse "Unterminated string starting at" start
      | '"' :: rest => return (String.ofList read.reverse, rest)
      | ['\\'] => refuse "Unterminated string starting at" start
      | '\\' :: 'u' :: more => do
          let (c, rest) ← codeEscape ('u' :: more) more
          stringBody start fuel (c :: read) rest
      | '\\' :: letter :: more =>
          match simpleEscape? letter with
          | some c => stringBody start fuel (c :: read) more
          | none => refuse "Invalid \\escape" rest
      | c :: more =>
          if c.toNat ≤ 0x1F then refuse "Invalid control character at" rest
          else stringBody start fuel (c :: read) more

/-- The text whose opening quote comes first in `start`. -/
def string (start : List Char) : Reading (String × List Char) :=
  stringBody start (start.length + 1) [] start.tail

/-! ### Values -/

/-- The words that stand for a value. -/
def words : List (String × Value) :=
  [("null", .none), ("true", .bool true), ("false", .bool false),
    ("NaN", .float .nan), ("Infinity", .float (.infinite false)),
    ("-Infinity", .float (.infinite true))]

private def afterWord? (word : List Char) (chars : List Char) :
    Option (List Char) :=
  if word.isPrefixOf chars then some (chars.drop word.length) else none

/-- A word or a number. -/
def scalar (chars : List Char) : Reading (Value × List Char) :=
  let word? := words.findSome? fun (word, value) =>
    (afterWord? word.toList chars).map (value, ·)
  match word? with
  | some step => return step
  | none => number chars

mutual

/-- One value at the start of a text. -/
def value (fuel : Nat) (chars : List Char) : Reading (Value × List Char) :=
  match fuel with
  | 0 => refuse "Expecting value" chars
  | fuel + 1 =>
      match chars with
      | '"' :: _ => do
          let (text, rest) ← string chars
          return (.str text, rest)
      | '[' :: rest =>
          match skipBlanks rest with
          | ']' :: rest => return (.list [], rest)
          | rest => do
              let (items, rest) ← itemsFrom fuel rest
              return (.list items, rest)
      | '\x7b' :: rest =>
          match skipBlanks rest with
          | '\x7d' :: rest => return (.dict [], rest)
          | rest => do
              let (entries, rest) ← membersFrom fuel rest
              return (.dict (Entries.ofList entries), rest)
      | chars => scalar chars

/-- The items of an array from the first one to the closing bracket. -/
def itemsFrom (fuel : Nat) (chars : List Char) : Reading (List Value × List Char) :=
  match fuel with
  | 0 => refuse "Expecting value" chars
  | fuel + 1 => do
      let (item, rest) ← value fuel chars
      match skipBlanks rest with
      | ']' :: rest => return ([item], rest)
      | ',' :: rest => do
          let (items, rest) ← itemsFrom fuel (skipBlanks rest)
          return (item :: items, rest)
      | rest => refuse "Expecting ',' delimiter" rest

/-- The members of an object from the first one to the closing bracket. -/
def membersFrom (fuel : Nat) (chars : List Char) : Reading (Entries × List Char) :=
  match fuel with
  | 0 => refuse "Expecting value" chars
  | fuel + 1 =>
      match chars with
      | '"' :: _ => do
          let (key, rest) ← string chars
          match skipBlanks rest with
          | ':' :: rest => do
              let (item, rest) ← value fuel (skipBlanks rest)
              match skipBlanks rest with
              | '\x7d' :: rest => return ([(.str key, item)], rest)
              | ',' :: rest => do
                  let (entries, rest) ← membersFrom fuel (skipBlanks rest)
                  return ((.str key, item) :: entries, rest)
              | rest => refuse "Expecting ',' delimiter" rest
          | rest => refuse "Expecting ':' delimiter" rest
      | chars =>
          refuse "Expecting property name enclosed in double quotes" chars

end

/-- A text that holds one value and nothing else but blanks. -/
def document (chars : List Char) : Reading Value := do
  if chars.head? = some (Char.ofNat 0xFEFF) then
    refuse "Unexpected UTF-8 BOM (decode using utf-8-sig)" chars
  let (result, rest) ← value (2 * chars.length + 2) (skipBlanks chars)
  match skipBlanks rest with
  | [] => return result
  | rest => refuse "Extra data" rest

end FunctionSynthesis.Json

namespace FunctionSynthesis.Value

def ofJson (text : String) : Except Fault Value :=
  (Json.document text.toList).mapError fun
    | .malformed message remaining =>
        ⟨.json, [.str message, .str text, .int (text.length - remaining)]⟩
    | .tooManyDigits count => Fault.tooManyDigits (some count)

end FunctionSynthesis.Value
