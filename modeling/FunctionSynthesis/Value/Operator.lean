import FunctionSynthesis.Value.Number
import FunctionSynthesis.Value.Template

/-!
# Arithmetic on values

The binary operators. Numbers of both kinds mix, truth values counting as
integers; sequences can be joined and repeated, and a remainder of a text fills
it as a template.
-/

namespace FunctionSynthesis

inductive Operator where
  | add
  | subtract
  | multiply
  | divide
  | floorDivide
  | remainder
  deriving DecidableEq

namespace Operator

/-- The operator that calling a method stands for. -/
def ofMethod? : String → Option Operator
  | "__add__" => some .add
  | "__sub__" => some .subtract
  | "__mul__" => some .multiply
  | "__truediv__" => some .divide
  | "__floordiv__" => some .floorDivide
  | "__mod__" => some .remainder
  | _ => none

private def divisionByZero : Fault :=
  Fault.describe .zeroDivision "division by zero"

/-- A quotient of integers as the nearest floating number. Nothing divided by a
negative number is a negative zero. -/
def quotient (n m : Int) : Except Fault Value :=
  let isNegative := decide (n < 0) != decide (m < 0)
  if m = 0 then throw divisionByZero
  else if n = 0 then return .float (Binary64.zero isNegative)
  else
    let x := Binary64.ofRatio isNegative n.natAbs m.natAbs
    if x.isFinite then return .float x
    else throw <| Fault.describe .overflow
      "integer division result too large for a float"

def onIntegers (operator : Operator) (n m : Int) : Except Fault Value :=
  match operator with
  | .add => return .int (n + m)
  | .subtract => return .int (n - m)
  | .multiply => return .int (n * m)
  | .divide => quotient n m
  | .floorDivide => if m = 0 then throw divisionByZero else return .int (n.fdiv m)
  | .remainder => if m = 0 then throw divisionByZero else return .int (n.fmod m)

def onFloats (operator : Operator) (x y : Binary64) : Except Fault Value :=
  match operator with
  | .add => return .float (x.add y)
  | .subtract => return .float (x.subtract y)
  | .multiply => return .float (x.multiply y)
  | .divide => if y.isZero then throw divisionByZero else return .float (x.divide y)
  | .floorDivide =>
      if y.isZero then throw divisionByZero else return .float (x.divideFloor y).1
  | .remainder =>
      if y.isZero then throw divisionByZero else return .float (x.divideFloor y).2

def onNumbers (operator : Operator) : Number → Number → Except Fault Value
  | .int n, .int m => operator.onIntegers n m
  | a, b => do operator.onFloats (← a.floating) (← b.floating)

/-! ### Repetition -/

/-- The numbers by which positions and lengths are counted. -/
def isLength (n : Int) : Bool :=
  -Int.pow 2 63 ≤ n && n < Int.pow 2 63

/-- The length above which no sequence is made. It stands for the memory of a
machine and is no bound of repetition itself. -/
def longestSequence : Nat := Nat.pow 2 31

/-- How often to repeat a sequence of a given length. A repetition whose length
cannot be counted fails with `tooLong`. -/
def repetitions (length : Nat) (n : Int) (tooLong : Fault) : Except Fault Nat :=
  if !isLength n then
    throw <| Fault.describe .overflow
      "cannot fit 'int' into an index-sized integer"
  else if !isLength (length * n.toNat) then throw tooLong
  else if length * n.toNat > longestSequence then throw (Fault.bare .memory)
  else return if length = 0 then 0 else n.toNat

def repeated {α : Type} (items : List α) (count : Nat) : List α :=
  (List.replicate count items).flatten

/-- A sequence repeated; nothing comes of a value that is none. -/
def repeat? (sequence : Value) (n : Int) : Option (Except Fault Value) :=
  match sequence with
  | .str s => some do
      let count ← repetitions s.length n
        (Fault.describe .overflow "repeated string is too long")
      return .str (String.ofList (repeated s.toList count))
  | .list xs => some do
      return .list (repeated xs (← repetitions xs.length n (Fault.bare .memory)))
  | .tuple xs => some do
      return .tuple (repeated xs (← repetitions xs.length n (Fault.bare .memory)))
  | _ => none

/-- A sequence times an integer, in either order. -/
def product? (a b : Value) : Option (Except Fault Value) :=
  match b.integer?.bind (repeat? a) with
  | some result => some result
  | none => a.integer?.bind (repeat? b)

/-! ### Application -/

/-- An operation on values that are not both numbers. -/
def onOthers (operator : Operator) (a b : Value) : Except Fault Value :=
  match operator, a, b with
  | .add, .str s, .str t => return .str (s ++ t)
  | .add, .list xs, .list ys => return .list (xs ++ ys)
  | .add, .tuple xs, .tuple ys => return .tuple (xs ++ ys)
  | .subtract, .set xs, .set ys =>
      return .set (xs.filter fun x => !ys.any fun y => y == x)
  | .remainder, .str s, b => return .str (← Template.fill s b)
  | .multiply, a, b => (product? a b).getD refused
  | _, _, _ => refused
where
  refused : Except Fault Value :=
    throw <| Fault.describe .type
      s!"unsupported operand types: '{a.className}' and '{b.className}'"

def apply (operator : Operator) (a b : Value) : Except Fault Value :=
  match a.number?, b.number? with
  | some n, some m => operator.onNumbers n m
  | _, _ => operator.onOthers a b

/-! ### Operators as methods -/

/-- What the method of an operator gives for an operand that is not its to deal
with. -/
def notImplemented : Value :=
  .special "NotImplementedType" "NotImplemented" "NotImplemented"

/-- Whether the method of an operator leaves an operand to the other side: an
integer deals with integers only, a floating number with numbers, and a set with
sets. -/
def leavesTo (a b : Value) : Bool :=
  match a with
  | .bool _ => b.integer?.isNone
  | .int _ => b.integer?.isNone
  | .float _ => b.number?.isNone
  | .set _ => b.className != "set"
  | _ => false

/-- The result of the method of an operator. -/
def applyAsMethod (operator : Operator) (a b : Value) : Except Fault Value :=
  if leavesTo a b then return notImplemented else operator.apply a b

end Operator

end FunctionSynthesis
