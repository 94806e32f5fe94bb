import FunctionSynthesis.Fault

/-!
# Sums of numbers

Integers are added exactly. Next to a floating number an integer counts as the
floating number that is nearest to it, and it is a fault if it is too large for
that.
-/

namespace FunctionSynthesis.Number

/-- A number as a floating number, if it is small enough. -/
def floating (n : Number) : Except Fault Binary64 :=
  match n with
  | .float x => return x
  | .int n =>
      let x := Binary64.ofInt n
      if x.isFinite then return x
      else throw (Fault.describe .overflow "int too large to convert to float")

def add : Number → Number → Except Fault Number
  | .int n, .int m => return .int (n + m)
  | a, b => do return .float ((← a.floating).add (← b.floating))

def scale (count : Nat) : Number → Number
  | .int n => .int (count * n)
  | .float x => .float ((Binary64.ofInt count).multiply x)

end FunctionSynthesis.Number
