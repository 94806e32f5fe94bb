import FunctionSynthesis.Binary64

/-!
# Values

The values that examples hold, that settings are given as and that generated
functions compute with. A dictionary keeps its entries in insertion order. Two
values are equal when they look the same to a program: integers, floating
numbers and truth values compare by what they count, and the order of a
dictionary does not matter.
-/

namespace FunctionSynthesis

/-- A value of the dynamic kind that examples and settings are made of. -/
inductive Value where
  | none
  | bool (b : Bool)
  | int (n : Int)
  | float (x : Binary64)
  | str (s : String)
  | list (items : List Value)
  | tuple (items : List Value)
  | dict (entries : List (Value × Value))
  | set (items : List Value)
  /-- A value of which programs can use only the class and the two texts, such as
  a date or a method that has not been called. -/
  | special (kind plain literal : String)
  deriving Inhabited

/-- The entries of a dictionary in insertion order. -/
abbrev Entries := List (Value × Value)

/-- What a numeric value counts. -/
inductive Number where
  | int (n : Int)
  | float (x : Binary64)
  deriving DecidableEq

namespace Number

/-- The order of two numbers, compared exactly; nothing when one of them is not
a number. -/
def compare? : Number → Number → Option Ordering
  | .int n, .int m => some (Ord.compare n m)
  | .float x, .float y => x.compare? y
  | .float x, .int m => x.compareInt? m
  | .int n, .float y => (y.compareInt? n).map Ordering.swap

/-- Numeric equality, which is reflexive on every number. -/
def equal (a b : Number) : Bool :=
  match a, b with
  | .float x, .float y => x.equal y
  | a, b => a.compare? b == some .eq

def isLess (a b : Number) : Bool :=
  a.compare? b == some .lt

def isAtMost (a b : Number) : Bool :=
  a.compare? b == some .lt || a.compare? b == some .eq

end Number

namespace Value

/-- The number that a value counts, a truth value counting one or zero. -/
def number? : Value → Option Number
  | .bool b => some (.int (if b then 1 else 0))
  | .int n => some (.int n)
  | .float x => some (.float x)
  | _ => Option.none

def integer? : Value → Option Int
  | .bool b => some (if b then 1 else 0)
  | .int n => some n
  | _ => Option.none

def isTruth : Value → Bool
  | .bool _ => true
  | _ => false

/-- Whether a floating number is not one. -/
def isNan : Value → Bool
  | .float .nan => true
  | _ => false

def className : Value → String
  | .none => "NoneType"
  | .bool _ => "bool"
  | .int _ => "int"
  | .float _ => "float"
  | .str _ => "str"
  | .list _ => "list"
  | .tuple _ => "tuple"
  | .dict _ => "dict"
  | .set _ => "set"
  | .special kind _ _ => kind

/-- The classes of days and times, which belong together. -/
def calendarClasses : List String := ["date", "datetime", "time"]

/-- The name of the class of a value together with where it belongs. -/
def qualifiedClassName (v : Value) : String :=
  if calendarClasses.contains v.className then "datetime." ++ v.className
  else v.className

mutual

/-- Equality as programs see it. -/
def equal : Value → Value → Bool
  | .none, .none => true
  | .str a, .str b => a == b
  | .list xs, .list ys => equalItems xs ys
  | .tuple xs, .tuple ys => equalItems xs ys
  | .dict es, .dict fs => es.length == fs.length && coveredBy es fs
  | .set xs, .set ys => xs.length == ys.length && includedIn xs ys
  | .special k p l, .special k' p' l' => k == k' && p == p' && l == l'
  | a, b =>
      match a.number?, b.number? with
      | some x, some y => x.equal y
      | _, _ => false
termination_by structural a => a

def equalItems : List Value → List Value → Bool
  | [], [] => true
  | x :: xs, y :: ys => equal x y && equalItems xs ys
  | _, _ => false
termination_by structural xs => xs

/-- Every entry has an equal one among `fs`. -/
def coveredBy : Entries → Entries → Bool
  | [], _ => true
  | (k, v) :: es, fs =>
      (fs.any fun f => equal k f.1 && equal v f.2) && coveredBy es fs
termination_by structural es => es

/-- Every item has an equal one among `ys`. -/
def includedIn : List Value → List Value → Bool
  | [], _ => true
  | x :: xs, ys => (ys.any fun y => equal x y) && includedIn xs ys
termination_by structural xs => xs

end

instance : BEq Value := ⟨equal⟩

/-- Equality of two values of one class. -/
def sameLiteral (a b : Value) : Bool :=
  a.className == b.className && a == b

/-- Whether a value counts as true in a condition. -/
def isTruthy : Value → Bool
  | .none => false
  | .bool b => b
  | .int n => n != 0
  | .float x => !x.isZero
  | .str s => s != ""
  | .list xs => !xs.isEmpty
  | .tuple xs => !xs.isEmpty
  | .dict es => !es.isEmpty
  | .set xs => !xs.isEmpty
  | .special _ _ _ => true

mutual

/-- What keeps a value from being a dictionary key or a member of a set: itself
or the first such item of a tuple. -/
def unhashable? : Value → Option Value
  | .list xs => some (.list xs)
  | .dict es => some (.dict es)
  | .set xs => some (.set xs)
  | .tuple xs => firstUnhashable? xs
  | _ => Option.none
termination_by structural v => v

def firstUnhashable? : List Value → Option Value
  | [] => Option.none
  | x :: xs =>
      match unhashable? x with
      | some v => some v
      | Option.none => firstUnhashable? xs
termination_by structural xs => xs

end

/-- Whether a value can be a dictionary key or a member of a set. -/
def isHashable (v : Value) : Bool :=
  v.unhashable?.isNone

mutual

/-- Whether a condition holds of a value without items and of everything inside
one that has items. -/
def all (p : Value → Bool) : Value → Bool
  | .list xs => allItems p xs
  | .tuple xs => allItems p xs
  | .set xs => allItems p xs
  | .dict es => allEntries p es
  | v => p v
termination_by structural v => v

def allItems (p : Value → Bool) : List Value → Bool
  | [] => true
  | x :: xs => all p x && allItems p xs
termination_by structural xs => xs

def allEntries (p : Value → Bool) : Entries → Bool
  | [] => true
  | (k, v) :: es => all p k && all p v && allEntries p es
termination_by structural es => es

end

/-- The items that going through a value visits: of a text its characters and
of a dictionary its keys. Nothing comes of a value without items. -/
def elements? : Value → Option (List Value)
  | .str s => some (s.toList.map fun c => .str c.toString)
  | .list xs => some xs
  | .tuple xs => some xs
  | .set xs => some xs
  | .dict es => some (es.map (·.1))
  | _ => Option.none

/-- The items of a text, a list or a tuple. -/
def sequence? : Value → Option (List Value)
  | .str s => elements? (.str s)
  | .list xs => some xs
  | .tuple xs => some xs
  | _ => Option.none

mutual

/-- The values without items inside a value, each key before what belongs to
it. Sets are not looked into. -/
def leaves : Value → List Value
  | .list xs => leavesOf xs
  | .tuple xs => leavesOf xs
  | .dict es => leavesOfEntries es
  | v => [v]
termination_by structural v => v

def leavesOf : List Value → List Value
  | [] => []
  | x :: xs => leaves x ++ leavesOf xs
termination_by structural xs => xs

def leavesOfEntries : Entries → List Value
  | [] => []
  | (k, v) :: es => leaves k ++ leaves v ++ leavesOfEntries es
termination_by structural es => es

end

def text? : Value → Option String
  | .str s => some s
  | _ => Option.none

end Value

namespace Entries

def valueOf? (entries : Entries) (key : Value) : Option Value :=
  (entries.find? fun e => e.1 == key).map (·.2)

def hasKey (entries : Entries) (key : Value) : Bool :=
  entries.any fun e => e.1 == key

/-- Give a key a value: a known key keeps its place, a new one comes last. -/
def put (entries : Entries) (key value : Value) : Entries :=
  match entries with
  | [] => [(key, value)]
  | (k, v) :: rest =>
      if k == key then (k, value) :: rest else (k, v) :: put rest key value

/-- The entries after putting each of `more` in turn. -/
def merge (entries more : Entries) : Entries :=
  more.foldl (fun all e => all.put e.1 e.2) entries

/-- A dictionary from a list of entries in which keys may repeat. -/
def ofList (entries : Entries) : Entries :=
  merge [] entries

def ofFields (fields : List (String × Value)) : Entries :=
  fields.map fun (name, value) => (.str name, value)

end Entries

namespace Value

/-- The value that a text key has in a dictionary. -/
def get? (key : String) : Value → Option Value
  | .dict entries => Entries.valueOf? entries (.str key)
  | _ => Option.none

end Value

end FunctionSynthesis
