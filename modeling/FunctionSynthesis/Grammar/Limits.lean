import FunctionSynthesis.Fault

/-!
# Limits of the grammar

How many candidates of each sort the rules may propose. The limits are kept as
they are given, and each says where it is used what it has to be: a count, or
how many items to take from a list, where a negative number drops items from the
end and an absent value takes all of them.
-/

namespace FunctionSynthesis

/-- Bounds on what the rules propose: the length of literal arrays, the pool
integers combined with a variable, the sums of pool integers, the ordered
triples of variables and the pool texts joined to a variable. -/
structure Limits where
  maxArrayArity : Value := .int 3
  arithmeticConstants : Value := .int 5
  constantPairs : Value := .int 10
  variableTriples : Value := .int 6
  concatConstants : Value := .int 3
  deriving Inhabited

namespace Limits

/-- A bound that has to be an integer. -/
def count (bound : Value) : Except Fault Int :=
  match bound.integer? with
  | some n => return n
  | none => throw <| Fault.describe .type
      s!"'{bound.className}' object cannot be interpreted as an integer"

/-- The items before a position, a negative one counting from the end. -/
def leading {α : Type} (bound : Value) (items : List α) :
    Except Fault (List α) :=
  match bound with
  | .none => return items
  | bound =>
      match bound.integer? with
      | some n =>
          if n < 0 then return items.take (n + items.length).toNat
          else return items.take n.toNat
      | none => throw <| Fault.describe .type
          "slice indices must be integers or None or have an __index__ method"

/-- The largest number of items that can be counted off. -/
def largestCount : Int := Int.pow 2 63 - 1

/-- The number of items to count off from a list of unknown length; nothing
means all of them. -/
def countedOff (bound : Value) : Except Fault (Option Nat) :=
  let range := "must be None or an integer: 0 <= x <= sys.maxsize."
  let notACount := Fault.describe .value s!"Stop argument for islice() {range}"
  match bound with
  | .none => return none
  | bound =>
      match bound.integer? with
      | none => throw notACount
      | some n =>
          if n = -1 ∨ largestCount < n ∨ n < -largestCount - 1 then
            throw notACount
          else if n < 0 then
            throw (Fault.describe .value s!"Indices for islice() {range}")
          else return some n.toNat

/-- The first items of a list, as many as the bound counts off. -/
def first {α : Type} (bound : Value) (items : List α) :
    Except Fault (List α) := do
  match ← countedOff bound with
  | none => return items
  | some n => return items.take n

end Limits

end FunctionSynthesis
