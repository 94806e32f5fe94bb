import FunctionSynthesis.Fault
import FunctionSynthesis.Text.Quoted

/-!
# Writing JSON

`Value.jsonText` writes a value as JSON in ASCII, in one of three layouts: on
one line with blanks after the marks, on one line without them, or with every
item on a line of its own. Sequences become arrays and dictionaries objects
whose keys are the texts of the keys. A set has no JSON form; where a layout
allows it, the text of the set stands in its place.
-/

namespace FunctionSynthesis

/-- How JSON is laid out. -/
structure JsonLayout where
  /-- What separates items that stand on one line. -/
  comma : String
  /-- What separates a key from its value. -/
  colon : String
  /-- The indentation of a level, if items stand on lines of their own. -/
  indent : Option Nat
  /-- Whether a value without a JSON form is written as its text. -/
  textForOthers : Bool

namespace JsonLayout

/-- One line with blanks, values with a JSON form only. -/
def strict : JsonLayout := ⟨", ", ": ", none, false⟩

/-- One line with blanks. -/
def line : JsonLayout := ⟨", ", ": ", none, true⟩

/-- One line without blanks. -/
def dense : JsonLayout := ⟨",", ":", none, true⟩

/-- Every item on a line of its own, indented by two. -/
def indented : JsonLayout := ⟨",", ": ", some 2, true⟩

end JsonLayout

namespace Json

/-- A unit of UTF-16 as an escape. -/
def unitEscape (unit : Nat) : List Char :=
  '\\' :: 'u' :: Text.hexDigits 4 unit

/-- A character as it stands in a JSON text. Characters beyond the first
sixteen bits are written as two surrogates. -/
def escapeChar (c : Char) : List Char :=
  if c = '"' ∨ c = '\\' then ['\\', c]
  else if c = '\n' then ['\\', 'n']
  else if c = '\r' then ['\\', 'r']
  else if c = '\t' then ['\\', 't']
  else if c.toNat = 0x08 then ['\\', 'b']
  else if c.toNat = 0x0C then ['\\', 'f']
  else if 0x20 ≤ c.toNat ∧ c.toNat ≤ 0x7E then [c]
  else if c.toNat < 0x10000 then unitEscape c.toNat
  else
    let above := c.toNat - 0x10000
    unitEscape (0xD800 + above / 0x400) ++ unitEscape (0xDC00 + above % 0x400)

def quoted (text : String) : String :=
  String.ofList ('"' :: text.toList.flatMap escapeChar ++ ['"'])

/-- A floating number; the infinities have names of their own. -/
def floatText (x : Binary64) : String :=
  match x with
  | .nan => "NaN"
  | .infinite negative => if negative then "-Infinity" else "Infinity"
  | x => x.text

def truthText (b : Bool) : String :=
  if b then "true" else "false"

/-- The text of an integer, unless it has too many digits. -/
def integerText (n : Int) : Except Fault String :=
  if Value.isWritable (.int n) then return toString n
  else throw (Fault.tooManyDigits none)

/-- The text that a dictionary key becomes. -/
def keyText : Value → Except Fault String
  | .str s => return s
  | .bool b => return truthText b
  | .int n => integerText n
  | .float x => return floatText x
  | .none => return "null"
  | key => throw <| Fault.describe .type
      s!"keys must be str, int, float, bool or None, not {key.className}"

/-- A value that has no JSON form. -/
def unserializable (v : Value) : Fault :=
  Fault.describe .type s!"Object of type {v.className} is not JSON serializable"

/-- Items between brackets, laid out at a depth. -/
def bracketed (layout : JsonLayout) (depth : Nat) (opening closing : String)
    (items : List String) : String :=
  if items.isEmpty then opening ++ closing
  else
    match layout.indent with
    | none => opening ++ layout.comma.intercalate items ++ closing
    | some width =>
        let newline (level : Nat) :=
          "\n" ++ String.ofList (List.replicate (width * level) ' ')
        opening ++ newline (depth + 1) ++
          (layout.comma ++ newline (depth + 1)).intercalate items ++
          newline depth ++ closing

end Json

namespace Value

mutual

/-- A value as JSON at a depth of nesting. -/
def jsonTextAt (layout : JsonLayout) (depth : Nat) :
    Value → Except Fault String
  | .none => return "null"
  | .bool b => return Json.truthText b
  | .int n => Json.integerText n
  | .float x => return Json.floatText x
  | .str s => return Json.quoted s
  | .list xs => do
      return Json.bracketed layout depth "[" "]" (← jsonItems layout (depth + 1) xs)
  | .tuple xs => do
      return Json.bracketed layout depth "[" "]" (← jsonItems layout (depth + 1) xs)
  | .dict es => do
      return Json.bracketed layout depth "\x7b" "\x7d"
        (← jsonMembers layout (depth + 1) es)
  | .set xs =>
      if layout.textForOthers then return Json.quoted (literalText (.set xs))
      else throw (Json.unserializable (.set xs))
  | .special kind plain literal =>
      if layout.textForOthers then return Json.quoted plain
      else throw (Json.unserializable (.special kind plain literal))
termination_by structural v => v

def jsonItems (layout : JsonLayout) (depth : Nat) :
    List Value → Except Fault (List String)
  | [] => return []
  | x :: xs => do
      let item ← jsonTextAt layout depth x
      return item :: (← jsonItems layout depth xs)
termination_by structural xs => xs

def jsonMembers (layout : JsonLayout) (depth : Nat) :
    Entries → Except Fault (List String)
  | [] => return []
  | (k, v) :: es => do
      let key ← Json.keyText k
      let value ← jsonTextAt layout depth v
      return (Json.quoted key ++ layout.colon ++ value) ::
        (← jsonMembers layout depth es)
termination_by structural es => es

end

def jsonText (layout : JsonLayout) (value : Value) : Except Fault String :=
  value.jsonTextAt layout 0

mutual

/-- The value that writing a value as JSON and reading it back gives: sequences
become lists, and keys their texts. -/
def throughJson : Value → Except Fault Value
  | .list xs => do return .list (← throughJsonItems xs)
  | .tuple xs => do return .list (← throughJsonItems xs)
  | .dict es => do return .dict (Entries.ofList (← throughJsonMembers es))
  | .set xs => throw (Json.unserializable (.set xs))
  | .special kind plain literal =>
      throw (Json.unserializable (.special kind plain literal))
  | .int n => do
      let _ ← Json.integerText n
      return .int n
  | v => return v
termination_by structural v => v

def throughJsonItems : List Value → Except Fault (List Value)
  | [] => return []
  | x :: xs => do return (← throughJson x) :: (← throughJsonItems xs)
termination_by structural xs => xs

def throughJsonMembers : Entries → Except Fault Entries
  | [] => return []
  | (k, v) :: es => do
      let key ← Json.keyText k
      return (.str key, ← throughJson v) :: (← throughJsonMembers es)
termination_by structural es => es

end

end Value

end FunctionSynthesis
