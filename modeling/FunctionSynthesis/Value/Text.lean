import FunctionSynthesis.Binary64.Decimal
import FunctionSynthesis.Text.Quoted
import FunctionSynthesis.Value

/-!
# Text of values

`Value.literalText` writes a value the way it is written in generated code, and
`Value.plainText` writes it for people: the two differ only for a text, which
the second gives without quotes.
-/

namespace FunctionSynthesis.Value

/-- Parts separated by a comma and a blank. -/
def commaSeparated (parts : List String) : String :=
  ", ".intercalate parts

/-- A sequence between round brackets; a single item is followed by a comma. -/
def roundBrackets (parts : List String) : String :=
  match parts with
  | [part] => "(" ++ part ++ ",)"
  | parts => "(" ++ commaSeparated parts ++ ")"

mutual

/-- The literal that denotes a value. -/
def literalText : Value → String
  | .none => "None"
  | .bool b => if b then "True" else "False"
  | .int n => toString n
  | .float x => x.text
  | .str s => Text.quoted s
  | .list xs => "[" ++ commaSeparated (literalTexts xs) ++ "]"
  | .tuple xs => roundBrackets (literalTexts xs)
  | .dict es => "\x7b" ++ commaSeparated (entryTexts es) ++ "\x7d"
  | .set xs =>
      if xs.isEmpty then "set()"
      else "\x7b" ++ commaSeparated (literalTexts xs) ++ "\x7d"
  | .special _ _ literal => literal
termination_by structural v => v

def literalTexts : List Value → List String
  | [] => []
  | x :: xs => literalText x :: literalTexts xs
termination_by structural xs => xs

def entryTexts : Entries → List String
  | [] => []
  | (k, v) :: es => (literalText k ++ ": " ++ literalText v) :: entryTexts es
termination_by structural es => es

end

/-- The most decimal digits that an integer may have where it is read or
written. -/
def longestNumeral : Nat := 4300

/-- The least number with too many digits. -/
def numeralBound : Nat := Nat.pow 10 longestNumeral

/-- Whether no integer in a value has too many digits to be written. -/
def isWritable (v : Value) : Bool :=
  v.all fun
    | .int n => decide (n.natAbs < numeralBound)
    | _ => true

/-- The text that shows a value to people. -/
def plainText : Value → String
  | .str s => s
  | .special _ plain _ => plain
  | v => v.literalText

end FunctionSynthesis.Value
