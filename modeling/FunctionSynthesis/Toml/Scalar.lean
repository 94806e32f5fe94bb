import FunctionSynthesis.Binary64.Decimal
import FunctionSynthesis.Json.Reader
import FunctionSynthesis.Value.Moment

/-!
# Keys and scalars of TOML

The parts of a TOML document without structure: blanks and comments, texts in
the four ways of quoting, numbers, days and times, and keys with their dots. Every reader takes
the characters from some place on and gives back what it read with the
characters after it, or nothing if there is no such thing at that place.
-/

namespace FunctionSynthesis.Toml

/-- A result of reading: nothing if a text is malformed, or a fault if it holds
a number that cannot be read. -/
abbrev Reading := ExceptT Fault Option

/-! ### Blanks and comments -/

def isBlank (c : Char) : Bool :=
  c = ' ' || c = '\t'

def skipBlanks (chars : List Char) : List Char :=
  chars.dropWhile isBlank

/-- Control characters, which may not stand in a document; tabs may. -/
def isForbidden (c : Char) : Bool :=
  (c.toNat < 0x20 && c != '\t') || c.toNat = 0x7F

/-- Skip a comment up to the end of its line, if there is one. -/
def skipComment? (chars : List Char) : Option (List Char) :=
  match chars with
  | '#' :: rest =>
      let isInLine (c : Char) : Bool := c != '\n'
      if (rest.takeWhile isInLine).any isForbidden then none
      else some (rest.dropWhile isInLine)
  | chars => some chars

/-- Skip blanks, line ends and comments. -/
def skipLines? (fuel : Nat) (chars : List Char) : Option (List Char) :=
  match fuel with
  | 0 => some chars
  | fuel + 1 =>
      match chars.dropWhile fun c => isBlank c || c = '\n' with
      | '#' :: rest => do skipLines? fuel (← skipComment? ('#' :: rest))
      | rest => some rest

/-! ### Texts -/

/-- A character with a given number of hexadecimal digits. -/
def codePoint? (digits : Nat) (chars : List Char) : Option (Char × List Char) := do
  let taken := chars.take digits
  guard (taken.length = digits)
  let values ← taken.mapM Json.hexValue?
  let code := values.foldl (fun n digit => 16 * n + digit) 0
  guard (code < 0x110000 ∧ ¬(0xD800 ≤ code ∧ code ≤ 0xDFFF))
  return (Char.ofNat code, chars.drop digits)

/-- The character that the letter after a backslash stands for. -/
def simpleEscape? : Char → Option Char
  | '"' => some '"'
  | '\\' => some '\\'
  | 'b' => some (Char.ofNat 8)
  | 'f' => some (Char.ofNat 12)
  | 'n' => some '\n'
  | 'r' => some '\r'
  | 't' => some '\t'
  | _ => none

/-- The characters that an escape stands for, from after its backslash. In a
text of several lines an escaped line end stands for nothing, together with the
blanks around it. -/
def escape? (severalLines : Bool) (chars : List Char) : Option (List Char × List Char) :=
  match chars with
  | 'u' :: rest => (codePoint? 4 rest).map fun (c, rest) => ([c], rest)
  | 'U' :: rest => (codePoint? 8 rest).map fun (c, rest) => ([c], rest)
  | c :: rest =>
      if severalLines && (isBlank c || c = '\n') then
        match skipBlanks chars with
        | [] => some ([], [])
        | '\n' :: rest =>
            some ([], rest.dropWhile fun c => isBlank c || c = '\n')
        | _ => none
      else (simpleEscape? c).map fun c => ([c], rest)
  | [] => none

/-- A text between double quotes on one line, from after the first quote. -/
def basicText? (fuel : Nat) (read chars : List Char) : Option (String × List Char) :=
  match fuel, chars with
  | 0, _ => none
  | _, [] => none
  | _, '"' :: rest => some (String.ofList read.reverse, rest)
  | fuel + 1, '\\' :: rest => do
      let (found, rest) ← escape? false rest
      basicText? fuel (found.reverse ++ read) rest
  | fuel + 1, c :: rest =>
      if isForbidden c then none else basicText? fuel (c :: read) rest

/-- A text between single quotes on one line, from after the first quote. -/
def literalText? (chars : List Char) : Option (String × List Char) :=
  let body := chars.takeWhile fun c => c != '\''
  match chars.drop body.length with
  | '\'' :: rest =>
      if body.any isForbidden then none else some (String.ofList body, rest)
  | _ => none

/-- The end of a text of several lines: up to two more quotes belong to it. -/
def closing (quote : Char) (read rest : List Char) : String × List Char :=
  match rest with
  | a :: b :: rest =>
      if a = quote && b = quote then
        (String.ofList (b :: a :: read).reverse, rest)
      else if a = quote then (String.ofList (a :: read).reverse, b :: rest)
      else (String.ofList read.reverse, a :: b :: rest)
  | [a] =>
      if a = quote then (String.ofList (a :: read).reverse, [])
      else (String.ofList read.reverse, [a])
  | [] => (String.ofList read.reverse, [])

/-- A text of several lines between three quotes, from after the first three. -/
def linesText? (quote : Char) (fuel : Nat) (read chars : List Char) :
    Option (String × List Char) :=
  match fuel with
  | 0 => none
  | fuel + 1 =>
      if [quote, quote, quote].isPrefixOf chars then
        some (closing quote read (chars.drop 3))
      else
        match chars with
        | [] => none
        | c :: rest =>
            if c = '\\' && quote = '"' then do
              let (found, rest) ← escape? true rest
              linesText? quote fuel (found.reverse ++ read) rest
            else if isForbidden c && c != '\n' then none
            else linesText? quote fuel (c :: read) rest

def text? (chars : List Char) : Option (String × List Char) :=
  let fuel := chars.length + 1
  let withoutLineEnd : List Char → List Char
    | '\n' :: rest => rest
    | rest => rest
  match chars with
  | '"' :: '"' :: '"' :: rest => linesText? '"' fuel [] (withoutLineEnd rest)
  | '\'' :: '\'' :: '\'' :: rest => linesText? '\'' fuel [] (withoutLineEnd rest)
  | '"' :: rest => basicText? fuel [] rest
  | '\'' :: rest => literalText? rest
  | _ => none

/-! ### Numbers -/

/-- The digits at the start of a text. -/
def digits (isDigit : Char → Bool) (chars : List Char) :
    List Char × List Char :=
  (chars.takeWhile isDigit, chars.dropWhile isDigit)

/-- Groups of digits joined by underscores; nothing without a digit. -/
def digitGroups? (isDigit : Char → Bool) (fuel : Nat) (chars : List Char) :
    Option (List Char × List Char) :=
  match fuel with
  | 0 => none
  | fuel + 1 =>
      match digits isDigit chars with
      | ([], _) => none
      | (first, '_' :: rest) =>
          match digitGroups? isDigit fuel rest with
          | some (more, rest) => some (first ++ more, rest)
          | none => some (first, '_' :: rest)
      | (first, rest) => some (first, rest)

/-- An integer to a base other than ten, from after its letter. -/
def based? (base : Nat) (chars : List Char) : Option (Value × List Char) := do
  let isDigit (c : Char) : Bool := (Json.hexValue? c).any (· < base)
  let (found, rest) ← digitGroups? isDigit (chars.length + 1) chars
  let values ← found.mapM Json.hexValue?
  return (.int (values.foldl (fun n digit => base * n + digit) 0 : Nat), rest)

/-- The integer part of a decimal number. A number that starts with a zero has
no further digits. -/
def wholePart? (chars : List Char) : Option (List Char × List Char) :=
  match chars with
  | '0' :: rest => some (['0'], rest)
  | chars => digitGroups? Char.isDigit (chars.length + 1) chars

/-- A point with digits, if the text goes on so. -/
def fractionPart (chars : List Char) : List Char × List Char :=
  match chars with
  | '.' :: rest =>
      match digitGroups? Char.isDigit (rest.length + 1) rest with
      | some (found, rest) => ('.' :: found, rest)
      | none => ([], chars)
  | chars => ([], chars)

/-- An exponent, if the text goes on so. -/
def exponentPart (chars : List Char) : List Char × List Char :=
  match chars with
  | e :: rest =>
      if e = 'e' || e = 'E' then
        let (sign, rest) :=
          match rest with
          | '+' :: rest => (['+'], rest)
          | '-' :: rest => (['-'], rest)
          | rest => ([], rest)
        match digitGroups? Char.isDigit (rest.length + 1) rest with
        | some (found, rest) => ('e' :: sign ++ found, rest)
        | none => ([], chars)
      else ([], chars)
  | [] => ([], [])

/-- A sign, whether it is negative, and what follows. -/
def sign (chars : List Char) : Bool × List Char :=
  match chars with
  | '-' :: rest => (true, rest)
  | '+' :: rest => (false, rest)
  | chars => (false, chars)

/-- The value of a decimal number in its parts. A fraction or an exponent makes
it a floating one. -/
def decimalOf (negative : Bool) (whole fraction exponent : List Char) :
    Reading Value :=
  if fraction.isEmpty && exponent.isEmpty then
    if Value.longestNumeral < whole.length then
      throw (Fault.tooManyDigits (some whole.length))
    else
      let magnitude : Int := Binary64.digitsValue whole
      return .int (if negative then -magnitude else magnitude)
  else do
    let x ← Binary64.ofNumeral? (whole ++ fraction ++ exponent)
    return .float (if negative then x.negate else x)

def decimal (chars : List Char) : Reading (Value × List Char) := do
  let (negative, unsigned) := sign chars
  let (whole, rest) ← wholePart? unsigned
  let (fraction, rest) := fractionPart rest
  let (exponent, rest) := exponentPart rest
  return (← decimalOf negative whole fraction exponent, rest)

/-- A floating number that is written as a word. -/
def specialFloat? (chars : List Char) : Option (Value × List Char) :=
  let (negative, unsigned) := sign chars
  match unsigned with
  | 'i' :: 'n' :: 'f' :: rest => some (.float (.infinite negative), rest)
  | 'n' :: 'a' :: 'n' :: rest => some (.float .nan, rest)
  | _ => none

def number (chars : List Char) : Reading (Value × List Char) :=
  let other? :=
    match chars with
    | '0' :: 'x' :: rest => based? 16 rest
    | '0' :: 'o' :: rest => based? 8 rest
    | '0' :: 'b' :: rest => based? 2 rest
    | _ => none
  match other?, wholePart? (sign chars).2 with
  | some step, _ => return step
  | none, some _ => decimal chars
  | none, none => do return ← specialFloat? chars

/-! ### Days and times -/

/-- A number of exactly so many digits. -/
def fixedNumber? (width : Nat) (chars : List Char) : Option (Nat × List Char) := do
  let taken := chars.take width
  guard (taken.length = width ∧ taken.all Char.isDigit)
  return (Binary64.digitsValue taken, chars.drop width)

/-- A given character. -/
def mark? (c : Char) (chars : List Char) : Option (List Char) :=
  match chars with
  | [] => none
  | d :: rest => if c = d then some rest else none

/-- A day, of which only the month and the year have to fit together later. -/
def day? (chars : List Char) : Option (Day × List Char) := do
  let (year, rest) ← fixedNumber? 4 chars
  let (month, rest) ← fixedNumber? 2 (← mark? '-' rest)
  let (day, rest) ← fixedNumber? 2 (← mark? '-' rest)
  guard (1 ≤ month ∧ month ≤ 12 ∧ 1 ≤ day ∧ day ≤ 31)
  return (⟨year, month, day⟩, rest)

/-- A time of the day. Its fraction may be longer than what is kept of it. -/
def time? (chars : List Char) : Option (TimeOfDay × List Char) := do
  let (hour, rest) ← fixedNumber? 2 chars
  let (minute, rest) ← fixedNumber? 2 (← mark? ':' rest)
  let (second, rest) ← fixedNumber? 2 (← mark? ':' rest)
  guard (hour ≤ 23 ∧ minute ≤ 59 ∧ second ≤ 59)
  match rest with
  | '.' :: more =>
      match Binary64.takeDigits more with
      | ([], _) => return (.ofDigits hour minute second [], rest)
      | (fraction, after) => return (.ofDigits hour minute second fraction, after)
  | rest => return (.ofDigits hour minute second [], rest)

/-- The distance from the universal time in minutes. -/
def offset? (chars : List Char) : Option (Int × List Char) :=
  match chars with
  | [] => none
  | c :: rest =>
      if c = 'Z' || c = 'z' then some (0, rest)
      else do
        guard (c = '+' ∨ c = '-')
        let (hours, rest) ← fixedNumber? 2 rest
        let (minutes, rest) ← fixedNumber? 2 (← mark? ':' rest)
        guard (hours ≤ 23 ∧ minutes ≤ 59)
        let distance : Int := 60 * hours + minutes
        return (if c = '-' then -distance else distance, rest)

/-- A day, perhaps with a time behind it, and perhaps with a distance behind
that. A day that is not in the calendar is given back as nothing. -/
def moment? (chars : List Char) : Option (Option Value × List Char) := do
  let (day, rest) ← day? chars
  let later? : Option (TimeOfDay × List Char) := do
    let (c, rest) ← rest.head?.map (·, rest.tail)
    guard (c = 'T' ∨ c = 't' ∨ c = ' ')
    time? rest
  let known (v : Value) : Option Value :=
    if day.complaint?.isNone then some v else none
  match later? with
  | none => return (known day.toValue, rest)
  | some (time, rest) =>
      match offset? rest with
      | none => return (known (Moment.toValue ⟨day, time, none⟩), rest)
      | some (minutes, rest) =>
          return (known (Moment.toValue ⟨day, time, some minutes⟩), rest)

/-! ### Keys -/

def isBareKeyChar (c : Char) : Bool :=
  c.isAlphanum || c = '-' || c = '_'

/-- A key without dots: a bare word or a text on one line. -/
def simpleKey? (chars : List Char) : Option (String × List Char) :=
  match chars with
  | '"' :: rest => basicText? (rest.length + 1) [] rest
  | '\'' :: rest => literalText? rest
  | chars =>
      let word := chars.takeWhile isBareKeyChar
      if word.isEmpty then none
      else some (String.ofList word, chars.drop word.length)

/-- The parts of a key between its dots. -/
def key? (fuel : Nat) (chars : List Char) : Option (List String × List Char) :=
  match fuel with
  | 0 => none
  | fuel + 1 => do
      let (first, rest) ← simpleKey? chars
      match skipBlanks rest with
      | '.' :: rest => do
          let (more, rest) ← key? fuel (skipBlanks rest)
          return (first :: more, rest)
      | rest => return ([first], rest)

end FunctionSynthesis.Toml
