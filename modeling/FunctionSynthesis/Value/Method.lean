import FunctionSynthesis.Text.Blank
import FunctionSynthesis.Text.Case
import FunctionSynthesis.Text.Find
import FunctionSynthesis.Value.Operator
import FunctionSynthesis.Value.Sequence

/-!
# Methods of values

The methods that generated functions call: those of texts, access to an item,
and the operators under their method names. Which methods a value has is
settled before their arguments are looked at.
-/

namespace FunctionSynthesis.Value

/-- The methods that only texts have. -/
def textMethods : List String :=
  ["upper", "lower", "capitalize", "title", "strip", "replace", "split", "join",
    "startswith"]

/-- Whether a value that is no class has a method. -/
def hasOwnMethod (v : Value) (method : String) : Bool :=
  let sequenceMethods := ["__getitem__", "__add__", "__mul__"]
  match v with
  | .str _ => (textMethods ++ "__mod__" :: sequenceMethods).contains method
  | .list _ => sequenceMethods.contains method
  | .tuple _ => sequenceMethods.contains method
  | .dict _ => method == "__getitem__"
  | .set _ => method == "__sub__"
  | v => v.number?.isSome && (Operator.ofMethod? method).isSome

/-- A value of each class whose methods are known. -/
def samples : List Value :=
  [.str "", .int 0, .bool false, .float (Binary64.zero false), .list [],
    .tuple [], .dict [], .set []]

/-- A value of a class that is a value itself. -/
def sampleOf? (v : Value) : Option Value :=
  match v with
  | .special "type" text _ =>
      samples.find? fun sample => text == s!"<class '{sample.className}'>"
  | _ => Option.none

/-- Whether a value has a method. A class has those of its values. -/
def hasMethod (v : Value) (method : String) : Bool :=
  ((sampleOf? v).getD v).hasOwnMethod method

/-- Arguments that a method does not take. -/
private def wrongArguments (method : String) : Except Fault Value :=
  throw (Fault.describe .type s!"{method}() was given unsuitable arguments")

/-- A method that has not been called, as a value. -/
def uncalled (v : Value) (method : String) : Value :=
  let text := s!"<built-in method {method} of {v.className} object>"
  .special "builtin_function_or_method" text text

/-- At most as many times as a count says, a negative one meaning no bound.
`ample` is a number that is never reached. -/
def atMost (ample : Nat) (count : Value) : Except Fault Nat :=
  match count.integer? with
  | some n =>
      if Operator.isLength n then return if n < 0 then ample else n.toNat
      else throw <| Fault.describe .overflow
        "Python int too large to convert to C ssize_t"
  | Option.none => throw <| Fault.describe .type
      s!"'{count.className}' object cannot be interpreted as an integer"

private def ofChars (chars : List Char) : Value :=
  .str (String.ofList chars)

/-! ### Methods of texts -/

/-- The runs of characters that are not blank, of which at most `limit` are
split off. What is left after them keeps its blanks at the end. -/
def wordsUpTo (limit : Nat) (chars : List Char) : List (List Char) :=
  match limit, chars.dropWhile Text.isBlank with
  | _, [] => []
  | 0, rest => [rest]
  | limit + 1, rest =>
      let isInWord (c : Char) : Bool := !Text.isBlank c
      rest.takeWhile isInWord :: wordsUpTo limit (rest.dropWhile isInWord)

def strip (chars : List Char) : List Value → Except Fault Value
  | [] => return ofChars (Text.trimWith Text.isBlank chars)
  | [.none] => return ofChars (Text.trimWith Text.isBlank chars)
  | [.str s] => return ofChars (Text.trimWith s.toList.contains chars)
  | _ => wrongArguments "strip"

def replace (chars : List Char) (args : List Value) : Except Fault Value :=
  let ample := chars.length + 1
  let replaceUpTo (old new : String) (limit : Nat) : Value :=
    ofChars (Text.replace old.toList new.toList limit chars)
  match args with
  | [.str old, .str new] => return replaceUpTo old new ample
  | [.str old, .str new, count] => return replaceUpTo old new (← atMost ample count)
  | _ => wrongArguments "replace"

/-- The pieces of a text between separators, or its words. -/
def splitBy (chars : List Char) (separator : Value) (limit : Nat) :
    Except Fault Value :=
  match separator with
  | .none => return .list ((wordsUpTo limit chars).map ofChars)
  | .str s =>
      if s = "" then throw (Fault.describe .value "empty separator")
      else return .list ((Text.splitOn s.toList limit chars).map ofChars)
  | _ => wrongArguments "split"

def split (chars : List Char) (args : List Value) : Except Fault Value :=
  let ample := chars.length + 1
  match args with
  | [] => splitBy chars .none ample
  | [separator] => splitBy chars separator ample
  | [separator, count] => do splitBy chars separator (← atMost ample count)
  | _ => wrongArguments "split"

def join (separator : List Char) : List Value → Except Fault Value
  | [collection] =>
      match collection.elements? with
      | some items => do
          let pieces ← items.mapM fun
            | .str s => Except.ok s.toList
            | _ => .error (Fault.describe .type "sequence item is no text")
          return ofChars (Text.join separator pieces)
      | Option.none => throw (Fault.describe .type "can only join an iterable")
  | _ => wrongArguments "join"

/-- Whether the first text of a list that starts a text comes before anything
that is no text. -/
def startsWithAny (starts : String → Bool) : List Value → Except Fault Bool
  | [] => return false
  | .str s :: rest => if starts s then return true else startsWithAny starts rest
  | _ => throw (Fault.describe .type "tuple for startswith must only contain str")

/-- Whether a text starts with another, or with one of several, at a position. -/
def startsWithin (chars : List Char) (start stop wanted : Value) :
    Except Fault Value := do
  let first := (← bound start).getD 0
  let last := (← bound stop).getD chars.length
  let low := max 0 (Slice.fromFront chars.length first)
  let high := Slice.clip chars.length false last
  let part := Slice.of chars (some first) (some last) 1
  let starts (s : String) : Bool :=
    s.toList.isPrefixOf part && decide (low ≤ high)
  match wanted with
  | .str s => return .bool (starts s)
  | .tuple xs => return .bool (← startsWithAny starts xs)
  | _ =>
      throw <| Fault.describe .type
        "startswith first arg must be str or a tuple of str"

def startsWith (chars : List Char) : List Value → Except Fault Value
  | [wanted] => startsWithin chars .none .none wanted
  | [wanted, start] => startsWithin chars start .none wanted
  | [wanted, start, stop] => startsWithin chars start stop wanted
  | _ => wrongArguments "startswith"

/-- Call a method of a text. -/
def callTextMethod (text : String) (method : String) (args : List Value) :
    Except Fault Value :=
  let chars := text.toList
  match method, args with
  | "upper", [] => return ofChars (Text.upper chars)
  | "lower", [] => return ofChars (Text.lower chars)
  | "capitalize", [] => return ofChars (Text.capitalize chars)
  | "title", [] => return ofChars (Text.title chars)
  | "strip", args => strip chars args
  | "replace", args => replace chars args
  | "split", args => split chars args
  | "join", args => join chars args
  | "startswith", args => startsWith chars args
  | method, _ => wrongArguments method

/-! ### Calls -/

/-- Refuse a method that a value does not have. -/
def requireMethod (v : Value) (method : String) : Except Fault Unit :=
  if v.hasMethod method then return ()
  else throw <| Fault.describe .attribute
    s!"'{v.className}' object has no attribute '{method}'"

/-- Call a method that the value has, which is no class. -/
def callOwnMethod (v : Value) (method : String) (args : List Value) :
    Except Fault Value :=
  match Operator.ofMethod? method, args with
  | some operator, [arg] => operator.applyAsMethod v arg
  | some _, _ => wrongArguments method
  | Option.none, args =>
      match method, v, args with
      | "__getitem__", v, [position] => v.itemAt position
      | "__getitem__", _, _ => wrongArguments method
      | method, .str s, args => callTextMethod s method args
      | method, _, _ => wrongArguments method

/-- Call a method that the value has. The method of a class is given a value of
that class first. -/
def callMethod (v : Value) (method : String) (args : List Value) :
    Except Fault Value :=
  match sampleOf? v, args with
  | Option.none, args => v.callOwnMethod method args
  | some _, [] => wrongArguments method
  | some sample, receiver :: rest =>
      let isBelow := receiver.className == sample.className ||
        (receiver.isTruth && sample.className == "int")
      if isBelow then receiver.callOwnMethod method rest
      else wrongArguments method

end FunctionSynthesis.Value
