import FunctionSynthesis.Binary64.Places
import FunctionSynthesis.Value.Number

/-!
# Templates

A template is a text with places that are marked by a percent sign, an optional
name, flags, a width, a precision and a letter for the form in which a value is
written. `Template.fill` puts values into the places, one after the other or by
name. A template is read as it is filled, so what is wrong with one place does
not matter if an earlier place cannot be filled.
-/

namespace FunctionSynthesis.Template

/-! ### Values to fill in -/

/-- The values that are still to be put into places, and the value whose
entries the names of places refer to. -/
structure Supply where
  rest : List Value
  named : Option Value

namespace Supply

/-- The items of a tuple, or a single value. -/
def ofValue : Value → Supply
  | .tuple xs => ⟨xs, none⟩
  | .dict es => ⟨[.dict es], some (.dict es)⟩
  | .list xs => ⟨[.list xs], some (.list xs)⟩
  | v => ⟨[v], none⟩

/-- The next value. -/
def next (supply : Supply) : Except Fault (Value × Supply) :=
  match supply.rest with
  | [] => throw (Fault.describe .type "not enough arguments for format string")
  | v :: rest => return (v, { supply with rest })

/-- Make the value of a name the only one that is left. -/
def select (supply : Supply) (name : String) : Except Fault Supply :=
  match supply.named with
  | some (.dict es) =>
      match Entries.valueOf? es (.str name) with
      | some v => return { supply with rest := [v] }
      | none => throw ⟨.key, [.str name]⟩
  | _ => throw <| Fault.describe .type
      "list indices must be integers or slices, not str"

/-- Every value has to be used, unless values go by name. -/
def isSpent (supply : Supply) : Bool :=
  supply.rest.isEmpty || supply.named.isSome

end Supply

/-! ### Reading places -/

structure Place where
  flags : List Char
  width : Nat
  precision : Option Nat
  letter : Char
  /-- Where the letter stands in the template. -/
  position : Nat

/-- The name up to the bracket that closes it, and the rest. -/
def nameUntilClosed : Nat → List Char → Option (List Char × List Char)
  | _, [] => none
  | 0, ')' :: rest => some ([], rest)
  | depth, c :: rest =>
      let deeper := if c = '(' then depth + 1 else if c = ')' then depth - 1 else depth
      (nameUntilClosed deeper rest).map fun (name, rest) => (c :: name, rest)

/-- Read the name of a place, if it has one, and select its value. -/
def selectNamed (supply : Supply) (chars : List Char) :
    Except Fault (Supply × List Char) :=
  match chars with
  | '(' :: rest =>
      if supply.named.isNone then
        throw (Fault.describe .type "format requires a mapping")
      else
        match nameUntilClosed 0 rest with
        | none => throw (Fault.describe .value "incomplete format key")
        | some (name, rest) => do
            return (← supply.select (String.ofList name), rest)
  | chars => return (supply, chars)

/-- The number that a row of digits stands for. -/
def countOf (digits : List Char) : Nat :=
  digits.foldl (fun n c => 10 * n + (c.toNat - 48)) 0

/-- A width or a precision, what it is called when it is too big, the type of
number it has to fit into, and the least number that does not. -/
structure Measure where
  name : String
  number : String
  bound : Nat

def Measure.width : Measure := ⟨"width", "ssize_t", Nat.pow 2 63⟩

def Measure.precision : Measure := ⟨"precision", "int", Nat.pow 2 31⟩

/-- Read a measure, which is given in the template or taken from the values. -/
def Measure.read (measure : Measure) (supply : Supply) (chars : List Char) :
    Except Fault (Option Int × Supply × List Char) := do
  match chars with
  | '*' :: rest =>
      let (v, supply) ← supply.next
      match v.integer? with
      | none => throw (Fault.describe .type "* wants int")
      | some n =>
          if n < -measure.bound ∨ measure.bound ≤ n then
            throw <| Fault.describe .overflow
              s!"Python int too large to convert to C {measure.number}"
          return (some n, supply, rest)
  | chars =>
      let digits := chars.takeWhile Char.isDigit
      let n := countOf digits
      if digits.isEmpty then return (none, supply, chars)
      else if n < measure.bound then
        return (some n, supply, chars.dropWhile Char.isDigit)
      else throw (Fault.describe .value s!"{measure.name} too big")

/-- Read a precision behind a point; the point alone stands for none at all. -/
def readPrecision (supply : Supply) (chars : List Char) :
    Except Fault (Option Nat × Supply × List Char) := do
  match chars with
  | '.' :: rest =>
      let (n, supply, rest) ← Measure.precision.read supply rest
      return (some (n.getD 0).toNat, supply, rest)
  | chars => return (none, supply, chars)

/-- Letters that may stand in front of the letter of a place without meaning. -/
def isSizeLetter (c : Char) : Bool :=
  c = 'h' || c = 'l' || c = 'L'

def isFlag (c : Char) : Bool :=
  ['-', '+', ' ', '#', '0'].contains c

/-- Read the place after a percent sign. `total` is the length of the
template. -/
def readPlace (total : Nat) (supply : Supply) (chars : List Char) :
    Except Fault (Place × Supply × List Char) := do
  let (supply, chars) ← selectNamed supply chars
  let flags := chars.takeWhile isFlag
  let (width, supply, chars) ←
    Measure.width.read supply (chars.dropWhile isFlag)
  let (precision, supply, chars) ← readPrecision supply chars
  let chars :=
    match chars with
    | c :: rest => if isSizeLetter c then rest else c :: rest
    | [] => []
  match chars with
  | [] => throw (Fault.describe .value "incomplete format")
  | letter :: rest =>
      let width := width.getD 0
      let flags := if width < 0 then '-' :: flags else flags
      return (⟨flags, width.natAbs, precision, letter, total - rest.length - 1⟩,
        supply, rest)

/-! ### Forms of values -/

/-- A value as it is written in a place, with its sign apart. -/
structure Form where
  sign : List Char
  body : List Char
  isNumeric : Bool

/-- Pad a form to a width: numbers with zeros behind the sign if the place says
so, everything else with blanks. -/
def Form.padded (form : Form) (flags : List Char) (width : Nat) : List Char :=
  let missing := width - (form.sign.length + form.body.length)
  let text := form.sign ++ form.body
  if flags.contains '-' then text ++ List.replicate missing ' '
  else if flags.contains '0' && form.isNumeric then
    form.sign ++ List.replicate missing '0' ++ form.body
  else List.replicate missing ' ' ++ text

def Form.capitals (form : Form) : Form :=
  { form with body := form.body.map Char.toUpper }

private def signOf (flags : List Char) (negative : Bool) : List Char :=
  if negative then ['-']
  else if flags.contains '+' then ['+']
  else if flags.contains ' ' then [' ']
  else []

/-- An integer to a base, with at least as many digits as the precision says. -/
def integerForm (place : Place) (base : Nat) (lead : List Char) (n : Int) :
    Form :=
  let digits := Nat.toDigits base n.natAbs
  let least := place.precision.getD 1
  let body := List.replicate (least - digits.length) '0' ++ digits
  let lead := if place.flags.contains '#' then lead else []
  ⟨signOf place.flags (n < 0) ++ lead, body, true⟩

/-- The styles in which real numbers are written. -/
inductive NumberStyle where
  | positional
  | scientific
  | general

/-- A magnitude in a style. `keepsPoint` keeps a point without digits behind
it, and zeros at the end. -/
def magnitudeText (style : NumberStyle) (places : Nat) (keepsPoint : Bool)
    (x : Binary64) : List Char :=
  match x.toRatio? with
  | none => (if x == .nan then "nan" else "inf").toList
  | some (n, d) =>
      match style with
      | .positional => Binary64.positionalPlaces places keepsPoint n.natAbs d
      | .scientific => Binary64.scientificPlaces places keepsPoint n.natAbs d
      | .general => Binary64.generalPlaces places keepsPoint n.natAbs d

/-- A real number in a style, with six places where no precision is given. -/
def realForm (place : Place) (style : NumberStyle) (x : Binary64) : Form :=
  ⟨signOf place.flags x.isNegative,
    magnitudeText style (place.precision.getD 6) (place.flags.contains '#') x,
    true⟩

/-- An integer that can be written in decimal notation. -/
def writable (n : Int) : Except Fault Int :=
  if Value.isWritable (.int n) then return n
  else throw (Fault.tooManyDigits none)

/-- The integer that a number is cut down to. -/
def wholeNumber (letter : Char) (value : Value) : Except Fault Int :=
  match value.number? with
  | some (.int n) => writable n
  | some (.float x) =>
      match x.toRatio? with
      | some (n, d) => return n.tdiv d
      | none =>
          if x == .nan then throw <| Fault.describe .value
            "cannot convert float NaN to integer"
          else throw <| Fault.describe .overflow
            "cannot convert float infinity to integer"
  | none => throw <| Fault.describe .type
      (s!"%{letter} format: a real number is required, " ++
        s!"not {value.className}")

/-- The integer that is written to another base than ten. -/
def exactInteger (letter : Char) (value : Value) : Except Fault Int :=
  match value.integer? with
  | some n => return n
  | none => throw <| Fault.describe .type
      s!"%{letter} format: an integer is required, not {value.className}"

def realNumber (value : Value) : Except Fault Binary64 :=
  match value.number? with
  | some n => n.floating
  | none => throw <| Fault.describe .type
      s!"must be real number, not {value.className}"

/-- The character that a value stands for. -/
def character (value : Value) : Except Fault (List Char) :=
  match value with
  | .str s =>
      if s.length = 1 then return s.toList
      else throw (Fault.describe .type "%c requires int or char")
  | value =>
      match value.integer? with
      | some n =>
          if 0 ≤ n ∧ n < 0x110000 then return [Char.ofNat n.toNat]
          else throw (Fault.describe .overflow "%c arg not in range(0x110000)")
      | none => throw (Fault.describe .type "%c requires int or char")

/-- A text cut down to the precision of a place, if the value it shows can be
written. -/
def textForm (place : Place) (value : Value) (text : String) :
    Except Fault Form :=
  if value.isWritable then
    return ⟨[], match place.precision with
      | some n => text.toList.take n
      | none => text.toList, false⟩
  else throw (Fault.tooManyDigits none)

/-- A text with an escape in the place of every character outside ASCII. -/
def plainAscii (text : String) : String :=
  String.ofList <| text.toList.flatMap fun c =>
    if c.toNat < 0x80 then [c] else Text.numericEscape c

/-- A letter that is no form. -/
def unsupported (place : Place) : Fault :=
  let code := place.letter.toNat
  let shown := if 31 ≤ code ∧ code < 127 then place.letter else '?'
  let digits := String.ofList (Nat.toDigits 16 code)
  Fault.describe .value
    (s!"unsupported format character '{shown}' (0x{digits}) " ++
      s!"at index {place.position}")

/-- How a value is written in a place. -/
def form (place : Place) (value : Value) : Except Fault Form := do
  let decimal : Except Fault Form := do
    return integerForm place 10 [] (← wholeNumber place.letter value)
  let toBase (base : Nat) (lead : List Char) : Except Fault Form := do
    return integerForm place base lead (← exactInteger place.letter value)
  let real (style : NumberStyle) : Except Fault Form := do
    return realForm place style (← realNumber value)
  match place.letter with
  | 's' => textForm place value value.plainText
  | 'r' => textForm place value value.literalText
  | 'a' => textForm place value (plainAscii value.literalText)
  | 'd' => decimal
  | 'i' => decimal
  | 'u' => decimal
  | 'o' => toBase 8 ['0', 'o']
  | 'x' => toBase 16 ['0', 'x']
  | 'X' => return (← toBase 16 ['0', 'X']).capitals
  | 'f' => real .positional
  | 'F' => return (← real .positional).capitals
  | 'e' => real .scientific
  | 'E' => return (← real .scientific).capitals
  | 'g' => real .general
  | 'G' => return (← real .general).capitals
  | 'c' => return ⟨[], ← character value, false⟩
  | _ => throw (unsupported place)

/-! ### Filling -/

/-- Fill a template that is left from `total` characters. Every round takes at
least one character, so as many rounds as there are characters suffice. -/
def fillFrom (total : Nat) :
    Nat → Supply → List Char → Except Fault (List Char × Supply)
  | 0, supply, _ => return ([], supply)
  | _, supply, [] => return ([], supply)
  | fuel + 1, supply, '%' :: '%' :: rest => do
      let (text, supply) ← fillFrom total fuel supply rest
      return ('%' :: text, supply)
  | fuel + 1, supply, '%' :: rest => do
      let (place, supply, rest) ← readPlace total supply rest
      let (value, supply) ← supply.next
      let filled := (← form place value).padded place.flags place.width
      let (text, supply) ← fillFrom total fuel supply rest
      return (filled ++ text, supply)
  | fuel + 1, supply, c :: rest => do
      let (text, supply) ← fillFrom total fuel supply rest
      return (c :: text, supply)

/-- Fill a template with a value: the items of a tuple fill one place each. -/
def fill (template : String) (value : Value) : Except Fault String := do
  let chars := template.toList
  let (text, supply) ←
    fillFrom chars.length chars.length (Supply.ofValue value) chars
  if supply.isSpent then return String.ofList text
  else
    throw <| Fault.describe .type
      "not all arguments converted during string formatting"

end FunctionSynthesis.Template
