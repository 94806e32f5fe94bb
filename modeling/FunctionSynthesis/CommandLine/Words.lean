import FunctionSynthesis.Text.DecimalDigit
import FunctionSynthesis.Text.Quoted

/-!
# The words of a command line

A command takes options and operands. Every word is first classified on its own:
as an option by its full name, by the start of a long name that no other option
has, or by a short name with something joined to it, and as an operand
otherwise. All words after a double dash are operands. The classified words are
then read in order. What no option and no operand accounts for is unknown, which
is for the caller to judge.
-/

namespace FunctionSynthesis.CommandLine

/-- An option: its names, and whether it needs a value. -/
structure Flag where
  names : List String
  takesValue : Bool
  deriving DecidableEq, Inhabited

def Flag.label (flag : Flag) : String := "/".intercalate flag.names

def Flag.complaint (flag : Flag) (text : String) : String :=
  s!"argument {flag.label}: {text}"

/-- What a command takes besides options: nothing, one operand, or an operand
and all that follows it. -/
inductive Operands where
  | nothing
  | one
  | rest
  deriving DecidableEq, Inhabited

/-! ### Classifying words -/

/-- The option that a word names, and the value that is joined to the name. -/
structure Meaning where
  flag : Flag
  name : String
  value : Option String
  deriving DecidableEq, Inhabited

/-- A classified word. -/
inductive Token where
  | operand (word : String)
  | separator
  /-- It looks like an option, and perhaps it is one. -/
  | option (word : String) (meaning : Option Meaning)
  deriving DecidableEq, Inhabited

/-- The word after which all words are operands. -/
def separatorWord : String := "--"

def Token.word : Token → String
  | .operand word => word
  | .separator => separatorWord
  | .option word _ => word

def namesOf (flags : List Flag) : List (String × Flag) :=
  flags.flatMap fun flag => flag.names.map fun name => (name, flag)

/-- Whether a word is a negative decimal number without exponent, in the digits
of any script. A line end may follow. -/
def isNegativeNumber (word : String) : Bool :=
  match word.toList with
  | '-' :: rest =>
      let rest := if rest.getLast? == some '\n' then rest.dropLast else rest
      let whole := rest.takeWhile Text.isDecimalDigit
      match rest.drop whole.length with
      | [] => !whole.isEmpty
      | '.' :: fraction => !fraction.isEmpty && fraction.all Text.isDecimalDigit
      | _ => false
  | _ => false

/-- A word before and after its first equals sign. -/
def splitAtEquals? (word : String) : Option (String × String) :=
  let chars := word.toList
  let before := chars.takeWhile (· != '=')
  match chars.drop before.length with
  | [] => none
  | _ :: after => some (String.ofList before, String.ofList after)

/-- The options that a word can stand for without being the name of one: those
whose long name it begins, or the one whose short name begins it. -/
def candidates (flags : List Flag) (word : String) : List Meaning :=
  let chars := word.toList
  if ['-', '-'].isPrefixOf chars then
    let (start, value) :=
      match splitAtEquals? word with
      | some (start, value) => (start, some value)
      | none => (word, none)
    (namesOf flags).filterMap fun (name, flag) =>
      if start.toList.isPrefixOf name.toList then
        some ⟨flag, name, value⟩
      else none
  else
    (namesOf flags).filterMap fun (name, flag) =>
      if name.toList = chars.take 2 then
        some ⟨flag, name, some (String.ofList (chars.drop 2))⟩
      else if chars.isPrefixOf name.toList then some ⟨flag, name, none⟩
      else none

/-- The option whose full name a word is, or is before an equals sign. -/
def named? (flags : List Flag) (word : String) : Option Meaning :=
  match (namesOf flags).lookup word with
  | some flag => some ⟨flag, word, none⟩
  | none =>
      match splitAtEquals? word with
      | some (name, value) =>
          ((namesOf flags).lookup name).map fun flag =>
            ⟨flag, name, some value⟩
      | none => none

/-- Classify a word. A word that begins the names of several options is
refused. -/
def classify (flags : List Flag) (word : String) : Except String Token :=
  match word.toList with
  | '-' :: _ :: _ =>
      match named? flags word with
      | some meaning => return .option word (some meaning)
      | none =>
          match candidates flags word with
          | [meaning] => return .option word (some meaning)
          | [] =>
              if isNegativeNumber word || word.contains ' ' then
                return .operand word
              else return .option word none
          | several =>
              let names := ", ".intercalate (several.map Meaning.name)
              throw s!"ambiguous option: {word} could match {names}"
  | _ => return .operand word

def tokens (flags : List Flag) : List String → Except String (List Token)
  | [] => return []
  | word :: words => do
      if word = separatorWord then
        return .separator :: words.map .operand
      else
        let token ← classify flags word
        return token :: (← tokens flags words)

/-! ### Reading classified words -/

/-- An option, with its value if it has one, or the operands of the command. -/
inductive Item where
  | flag (flag : Flag) (value : Option String)
  | operands (words : List String)
  deriving DecidableEq, Inhabited

/-- What was read: the items up to a complaint, if there is one, and the unknown
words. -/
structure Reading where
  items : List Item := []
  unknown : List String := []
  complaint : Option String := none
  deriving DecidableEq, Inhabited

namespace Reading

def withItems (reading : Reading) (items : List Item) : Reading :=
  { reading with items := items ++ reading.items }

def withUnknown (reading : Reading) (word : String) : Reading :=
  { reading with unknown := word :: reading.unknown }

def refused (complaint : String) : Reading :=
  { complaint := some complaint }

end Reading

/-- The options that one word names, and the option among them that needs a value
yet. -/
structure Joined where
  items : List Item
  last : Option Flag := none
  deriving DecidableEq, Inhabited

/-- The value that is joined to an option. A double dash is none. -/
def joinedValue (chars : List Char) : Option String :=
  let value := String.ofList chars
  if value = separatorWord then none else some value

/-- The options that one word names: the given one with what is joined to it.
Behind the short name of an option without a value further short names may
stand; an equals sign before them does not count. -/
def joined (flags : List Flag) (flag : Flag) (isShort : Bool) (chars : List Char) :
    Except String Joined :=
  let ignored : Except String Joined :=
    throw (flag.complaint
      s!"ignored explicit argument {Text.quoted (String.ofList chars)}")
  if flag.takesValue then
    return { items := [.flag flag (joinedValue chars)] }
  else if !isShort then ignored
  else
    match chars with
    | [] => ignored
    | c :: rest =>
        match (namesOf flags).lookup (String.ofList ['-', c]), rest with
        | none, _ => ignored
        | some next, [] =>
            if next.takesValue then
              return { items := [.flag flag none], last := some next }
            else return { items := [.flag flag none, .flag next none] }
        | some next, rest => do
            let more ← joined flags next true rest
            return { more with items := .flag flag none :: more.items }

def isShortName (name : String) : Bool :=
  !(['-', '-'].isPrefixOf name.toList)

def Meaning.joined (meaning : Meaning) (flags : List Flag) :
    Except String Joined :=
  match meaning.value with
  | some value =>
      CommandLine.joined flags meaning.flag (isShortName meaning.name) value.toList
  | none =>
      if meaning.flag.takesValue then
        return { items := [], last := some meaning.flag }
      else return { items := [.flag meaning.flag none] }

/-- Read classified words for a command that takes options and operands. -/
def read (flags : List Flag) : Operands → List Token → Reading
  | _, [] => {}
  | .one, .operand word :: .separator :: ts =>
      (read flags .nothing ts).withItems [.operands [word]]
  | .one, .operand word :: ts =>
      (read flags .nothing ts).withItems [.operands [word]]
  | .one, .separator :: .operand word :: ts =>
      (read flags .nothing ts).withItems [.operands [word]]
  | .rest, .operand word :: ts =>
      { items := [.operands (word :: ts.map Token.word)] }
  | .rest, .separator :: .operand word :: ts =>
      { items := [.operands (separatorWord :: word :: ts.map Token.word)] }
  | operands, .option word none :: ts =>
      (read flags operands ts).withUnknown word
  | operands, .option _ (some meaning) :: ts =>
      match meaning.joined flags with
      | .error complaint => .refused complaint
      | .ok ⟨items, none⟩ => (read flags operands ts).withItems items
      | .ok ⟨items, some flag⟩ =>
          match ts with
          | .operand value :: ts =>
              (read flags operands ts).withItems
                (items ++ [.flag flag (some value)])
          | _ => .refused (flag.complaint "expected one argument")
  | operands, token :: ts => (read flags operands ts).withUnknown token.word

def readWords (flags : List Flag) (operands : Operands) (words : List String) :
    Reading :=
  match tokens flags words with
  | .error complaint => .refused complaint
  | .ok ts => read flags operands ts

end FunctionSynthesis.CommandLine
