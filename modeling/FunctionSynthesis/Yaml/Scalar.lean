import FunctionSynthesis.Text.Case
import FunctionSynthesis.Yaml.Cursor
import FunctionSynthesis.Yaml.Tag

/-!
# Values of YAML scalars

The value that a text stands for under a tag. A tag that is given may not suit
the text: the failure is then the one of the conversion.
-/

namespace FunctionSynthesis.Yaml

private def fail {α : Type} (kind : Fault.Kind) (text : String) : Reading α :=
  throw (.fault (.describe kind text))

private def indexFailure {α : Type} : Reading α :=
  fail .index "string index out of range"

/-! ### Numbers -/

/-- The integer that a text writes to a base that is announced. -/
def integerToBase (base : Nat) (text : String) : Reading Int :=
  match Text.integerToBase? base text with
  | some n => return n
  | none =>
      let shown := String.ofList ((Text.quoted text).toList.take 200)
      fail .value s!"invalid literal for int() with base {base}: {shown}"

/-- The integer that a text writes in decimal digits. -/
def decimalInteger (text : String) : Reading Int :=
  match Text.signedDigits? text with
  | some (negative, digits) =>
      if Text.longestInteger < digits.length then
        throw (.fault (.tooManyDigits (some digits.length)))
      else
        let n : Int := Binary64.digitsValue digits
        return if negative then -n else n
  | none => integerToBase 10 text

def floatingNumber (text : String) : Reading Binary64 :=
  match Text.real? text with
  | some x => return x
  | none => fail .value s!"could not convert string to float: {Text.quoted text}"

/-- A text without underscores, and its sign. -/
def unsigned (text : String) : Reading (Bool × List Char) :=
  match text.toList.filter (· != '_') with
  | [] => indexFailure
  | chars => return Text.takeSign chars

private def negateIf (negative : Bool) (n : Int) : Int :=
  if negative then -n else n

/-- The texts between colons. -/
def groups (chars : List Char) : List String :=
  (chars.splitOn ':').map String.ofList

/-- The integer that a text stands for. Digits are binary, hexadecimal or, after
a zero, octal; groups between colons count sixty times the ones after them. -/
def integerOf (text : String) : Reading Int := do
  let (negative, chars) ← unsigned text
  let magnitude ←
    match chars with
    | [] => indexFailure
    | ['0'] => pure 0
    | '0' :: 'b' :: digits => integerToBase 2 (String.ofList digits)
    | '0' :: 'x' :: digits => integerToBase 16 (String.ofList digits)
    | '0' :: _ => integerToBase 8 (String.ofList chars)
    | chars =>
        if chars.contains ':' then do
          let parts ← (groups chars).mapM decimalInteger
          pure (parts.foldl (fun n part => 60 * n + part) 0)
        else decimalInteger (String.ofList chars)
  return negateIf negative magnitude

/-- The sum of groups, each of which counts sixty times the one after it. They
are given in reverse, and `weight` is what the first one counts. -/
def sumOfGroups (weight : Nat) (sum : Binary64) : List Binary64 → Reading Binary64
  | [] => return sum
  | x :: rest =>
      let factor := Binary64.ofInt weight
      if factor.isFinite then
        sumOfGroups (60 * weight) (sum.add (x.multiply factor)) rest
      else fail .overflow "int too large to convert to float"

/-- The floating number that a text stands for. -/
def floatOf (text : String) : Reading Binary64 := do
  let (negative, chars) ← unsigned text
  let chars := Text.lower chars
  let x ←
    if chars = ".inf".toList then pure (.infinite false)
    else if chars = ".nan".toList then pure .nan
    else if chars.contains ':' then do
      let parts ← (groups chars).mapM floatingNumber
      sumOfGroups 1 (.zero false) parts.reverse
    else floatingNumber (String.ofList chars)
  return if negative then x.negate else x

/-! ### Days and times -/

/-- The day or moment that a text stands for. -/
def timestampOf (text : String) : Reading Value :=
  let chars := text.toList
  let chars :=
    if chars.getLast? == some '\n' then chars.dropLast else chars
  match timestamp? chars with
  | none => fail .attribute "'NoneType' object has no attribute 'groupdict'"
  | some (day, none) =>
      match day.complaint? with
      | some complaint => fail .value complaint
      | none => return day.toValue
  | some (day, some (time, offset)) =>
      let complaint? := (offset.bind Moment.offsetComplaint?).or
        (day.complaint?.or time.complaint?)
      match complaint? with
      | some complaint => fail .value complaint
      | none => return Moment.toValue ⟨day, time, offset⟩

/-! ### Bytes -/

/-- The value of a digit to the base sixty-four. -/
def sixBits? (c : Char) : Option Nat :=
  let n := c.toNat
  if c.isUpper then some (n - 65)
  else if c.isLower then some (n - 71)
  else if c.isDigit then some (n + 4)
  else if c = '+' then some 62
  else if c = '/' then some 63
  else none

/-- The bytes that digits to the base sixty-four write, four of them for three
bytes. `bits` holds what is left of the last digit, `phase` how many digits have
been read since the last full group, and `pads` how many signs of padding. Other
characters do not count. -/
def bytesFrom (phase pads bits : Nat) : List Char → Option (List Nat)
  | [] => if phase = 0 then some [] else none
  | c :: rest =>
      if c = '=' then
        if 2 ≤ phase && 4 ≤ phase + pads + 1 then some []
        else bytesFrom phase (if 2 ≤ phase then pads + 1 else pads) bits rest
      else
        match sixBits? c with
        | none => bytesFrom phase pads bits rest
        | some digit =>
            let all := 64 * bits + digit
            match phase with
            | 0 => bytesFrom 1 0 digit rest
            | 1 => (bytesFrom 2 0 (all % 16) rest).map (all / 16 :: ·)
            | 2 => (bytesFrom 3 0 (all % 4) rest).map (all / 4 :: ·)
            | _ => (bytesFrom 0 0 0 rest).map (all :: ·)

/-- A byte as it is written between quotes. -/
def byteText (quote : Char) (byte : Nat) : List Char :=
  if byte < 0x7F then Text.escapeChar quote (Char.ofNat byte)
  else Text.numericEscape (Char.ofNat byte)

/-- A sequence of bytes as a value. -/
def bytesValue (bytes : List Nat) : Value :=
  let quote := Text.quoteFor (bytes.map Char.ofNat)
  let literal := String.ofList
    ('b' :: quote :: bytes.flatMap (byteText quote) ++ [quote])
  .special "bytes" literal literal

/-- The bytes that a text stands for. -/
def bytesOf (text : String) : Reading Value :=
  if text.toList.any fun c => 0x7F < c.toNat then malformed
  else
    match bytesFrom 0 0 0 text.toList with
    | some bytes => return bytesValue bytes
    | none => malformed

/-! ### Scalars -/

def trueWords : List String := ["yes", "true", "on"]

def falseWords : List String := ["no", "false", "off"]

/-- The truth value that a text stands for. -/
def truthOf (text : String) : Reading Value :=
  let word := String.ofList (Text.lower text.toList)
  if trueWords.contains word then return .bool true
  else if falseWords.contains word then return .bool false
  else fail .key word

/-- The value that a text stands for under a tag. -/
def scalarValue (tag : Tag) (text : String) : Reading Value :=
  match tag with
  | .null => return .none
  | .bool => truthOf text
  | .int => return .int (← integerOf text)
  | .float => return .float (← floatOf text)
  | .binary => bytesOf text
  | .timestamp => timestampOf text
  | .str => return .str text
  | _ => malformed

end FunctionSynthesis.Yaml
