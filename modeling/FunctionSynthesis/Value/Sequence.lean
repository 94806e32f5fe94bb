import FunctionSynthesis.Fault

/-!
# Items and slices

Access to sequences and dictionaries. A negative position counts from the end,
and the bounds of a slice are moved into the sequence.
-/

namespace FunctionSynthesis

namespace Slice

/-- A position counted from the front, before it is checked. -/
def fromFront (length : Nat) (i : Int) : Int :=
  if i < 0 then i + length else i

/-- A bound of a slice moved into a sequence of a given length. A slice that
runs backwards may start at the last item at most and end before the first. -/
def clip (length : Nat) (backwards : Bool) (bound : Int) : Int :=
  let i := fromFront length bound
  let low : Int := if backwards then -1 else 0
  let high : Int := if backwards then length - 1 else length
  max low (min i high)

/-- How many items lie between two bounds. -/
def count (start stop step : Int) : Nat :=
  if step < 0 then
    if stop < start then ((start - stop - 1) / -step + 1).toNat else 0
  else
    if start < stop then ((stop - start - 1) / step + 1).toNat else 0

/-- The items between two bounds, of which an absent one lies at the end that
the slice comes from or goes to. The step is not zero. -/
def of {α : Type} (items : List α) (start stop : Option Int) (step : Int) :
    List α :=
  let backwards := decide (step < 0)
  let length := items.length
  let first := start.elim (if backwards then (length : Int) - 1 else 0)
    (clip length backwards)
  let last := stop.elim (if backwards then -1 else (length : Int))
    (clip length backwards)
  let all := items.toArray
  (List.range (count first last step)).filterMap fun (i : Nat) =>
    all[(first + i * step).toNat]?

end Slice

namespace Value

private def notSubscriptable (v : Value) : Fault :=
  Fault.describe .type s!"'{v.className}' object is not subscriptable"

def pickAt {α : Type} (items : List α) (position : Value) : Except Fault α :=
  match position.integer? with
  | Option.none => throw <| Fault.describe .type
      s!"indices must be integers or slices, not {position.className}"
  | some i =>
      let place := Slice.fromFront items.length i
      match if place < 0 then Option.none else items[place.toNat]? with
      | some item => return item
      | Option.none => throw (Fault.describe .index "index out of range")

/-- The item of a value at a position or under a key. -/
def itemAt (v position : Value) : Except Fault Value :=
  match v with
  | .str s => return .str (← pickAt s.toList position).toString
  | .list xs => pickAt xs position
  | .tuple xs => pickAt xs position
  | .dict es =>
      if let some part := position.unhashable? then
        throw (Fault.describe .type s!"unhashable type: '{part.className}'")
      else match Entries.valueOf? es position with
        | some found => return found
        | Option.none => throw ⟨.key, [position]⟩
  | v => throw (notSubscriptable v)

/-- A bound of a slice: an integer, or nothing. -/
def bound : Value → Except Fault (Option Int)
  | .none => return Option.none
  | v =>
      match v.integer? with
      | some n => return some n
      | Option.none => throw <| Fault.describe .type
          "slice indices must be integers or None or have an __index__ method"

/-- The items between two bounds, `step` apart. -/
def between {α : Type} (items : List α) (start stop step : Value) :
    Except Fault (List α) := do
  let step := (← bound step).getD 1
  if step = 0 then throw (Fault.describe .value "slice step cannot be zero")
  let start ← bound start
  let stop ← bound stop
  return Slice.of items start stop step

def sliceAt (v start stop step : Value) : Except Fault Value :=
  match v with
  | .str s => return .str (String.ofList (← between s.toList start stop step))
  | .list xs => return .list (← between xs start stop step)
  | .tuple xs => return .tuple (← between xs start stop step)
  | .dict _ => throw (Fault.describe .type "unhashable type: 'slice'")
  | v => throw (notSubscriptable v)

end Value

end FunctionSynthesis
