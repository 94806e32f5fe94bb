import FunctionSynthesis.Fault
import FunctionSynthesis.Text.Find

/-!
# Examples

An example is a list of arguments with the output that a function is wanted to
have for them. `Example.ofValue` reads one from a dictionary and
`Example.ofValues` a collection of them, which have to agree on the number of
arguments.
-/

namespace FunctionSynthesis

/-- Arguments of a function and its output for them. -/
structure Example where
  inputs : List Value
  output : Value
  deriving Inhabited

namespace Value

/-- Whether an item is in a value: a key of a dictionary, a part of a text, a
member of a collection. Other values have nothing in them. -/
def holds (key : String) : Value → Except Fault Bool
  | .str s => return Text.occursIn key.toList s.toList
  | .dict es => return Entries.hasKey es (.str key)
  | .list xs => return xs.any fun x => x == .str key
  | .tuple xs => return xs.any fun x => x == .str key
  | .set xs => return xs.any fun x => x == .str key
  | v => throw <| Fault.describe .type
      s!"argument of type '{v.qualifiedClassName}' is not iterable"

/-- The value under a text key of a dictionary. -/
def member (key : String) : Value → Except Fault Value
  | .dict es =>
      match Entries.valueOf? es (.str key) with
      | some value => return value
      | Option.none => throw ⟨.key, [.str key]⟩
  | .str _ => throw <| Fault.describe .type
      "string indices must be integers, not 'str'"
  | .list _ => throw <| Fault.describe .type
      "list indices must be integers or slices, not str"
  | .tuple _ => throw <| Fault.describe .type
      "tuple indices must be integers or slices, not str"
  | v => throw <| Fault.describe .type
      s!"'{v.qualifiedClassName}' object is not subscriptable"

/-- The entry that the item at a position of a list of entries stands for: the
item has to have two items of its own. -/
def entryAt (position : Nat) (item : Value) : Except Fault (Value × Value) :=
  let place := s!"dictionary update sequence element #{position}"
  match item.elements? with
  | some [key, value] =>
      match key.unhashable? with
      | Option.none => return (key, value)
      | some part =>
          throw (Fault.describe .type s!"unhashable type: '{part.className}'")
  | some items => throw <| Fault.describe .value
      s!"{place} has length {items.length}; 2 is required"
  | Option.none =>
      throw (Fault.describe .type s!"cannot convert {place} to a sequence")

/-- The dictionary that a value is or lists the entries of. -/
def entries : Value → Except Fault Entries
  | .dict es => return es
  | v => do
      let found ← (← v.elements).zipIdx.mapM fun (item, i) => entryAt i item
      return Entries.ofList found

end Value

namespace Example

/-- The arguments that an input stands for: a sequence lists them, and anything
else is the only one. -/
def argumentsOf : Value → List Value
  | .list xs => xs
  | .tuple xs => xs
  | v => [v]

/-- Read an example from a dictionary with an input and an output. -/
def ofValue (raw : Value) : Except Fault Example := do
  if (← raw.holds "input") && (← raw.holds "output") then
    return ⟨argumentsOf (← raw.member "input"), ← raw.member "output"⟩
  else
    let found := Value.dict (← raw.entries)
    let shown ← found.written found.literalText
    throw (Fault.describe .value s!"example needs 'input' and 'output': {shown}")

def toValue (x : Example) : Value :=
  .dict (Entries.ofFields [("input", .list x.inputs), ("output", x.output)])

/-- Insert a number into an ascending list unless it is there. -/
def insertDistinct (n : Nat) : List Nat → List Nat
  | [] => [n]
  | m :: rest =>
      if n < m then n :: m :: rest
      else if n = m then m :: rest
      else m :: insertDistinct n rest

def arities (examples : List Example) : List Nat :=
  examples.foldr (fun x counts => insertDistinct x.inputs.length counts) []

/-- Refuse examples with different numbers of arguments. -/
def checkArities (examples : List Example) : Except Fault (List Example) :=
  match arities examples with
  | _ :: _ :: _ =>
      let counts := (arities examples).map fun (n : Nat) => toString n
      throw <| Fault.describe .value
        s!"examples disagree on argument count: [{Value.commaSeparated counts}]"
  | _ => return examples

def ofValues (raw : Value) : Except Fault (List Example) := do
  checkArities (← (← raw.elements).mapM ofValue)

def arityOf : List Example → Nat
  | [] => 0
  | x :: _ => x.inputs.length

end Example

end FunctionSynthesis
