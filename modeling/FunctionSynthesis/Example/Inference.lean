import FunctionSynthesis.Example
import FunctionSynthesis.Query
import FunctionSynthesis.Settings

/-!
# What examples say

`Example.signature` infers the types of the arguments and of the result from
examples, `Pools.ofExamples` collects the literals that occur in them, and
`Query.ofExamples` puts both together into the query for a function that has
these examples.
-/

namespace FunctionSynthesis

namespace Example

/-- The values of one argument in all examples. -/
def column (examples : List Example) (i : Nat) : Except Fault (List Value) :=
  examples.mapM fun x =>
    match x.inputs[i]? with
    | some value => return value
    | none => throw (Fault.describe .index "tuple index out of range")

/-- The type of an argument: the precise one if all examples agree on it, and
the general one otherwise. -/
def argumentType (values : List Value) : Ty :=
  let type := Ty.unionOf (values.map Ty.ofValue)
  if type.isUnion then type.promote else type

/-- The type of the result, which is always general. -/
def resultType (examples : List Example) : Ty :=
  (Ty.unionOf (examples.map fun x => Ty.ofValue x.output)).promote

/-- The types of the arguments, by their names, and of the result. -/
def signature (examples : List Example) : Except Fault (Environment × Ty) :=
  match examples with
  | [] => throw <| Fault.describe .value
      "cannot infer a signature without examples"
  | examples => do
      let names := Term.parameterNames (arityOf examples)
      let env ← names.zipIdx.mapM fun (name, i) => do
        return (name, argumentType (← column examples i))
      return (env, resultType examples)

end Example

namespace Pools

def leavesIn (examples : List Example) : List Value :=
  examples.flatMap fun x => Value.leavesOf x.inputs ++ x.output.leaves

/-- A text that is short enough to be a literal and is not empty. -/
def usableText? (maxLength leaf : Value) : Except Fault (Option String) :=
  match leaf with
  | .str s =>
      if s = "" then return none
      else match maxLength.number? with
        | some limit =>
            return if Number.isLess (.int s.length) limit then some s else none
        | none => throw <| Fault.describe .type
            (s!"'<' not supported between instances of 'int' " ++
              s!"and '{maxLength.className}'")
  | _ => return none

def integer? : Value → Option Int
  | .int n => some n
  | _ => none

/-- The distinct literals of the examples in the order in which they first
occur, at most `maxSize` of each kind. -/
def ofExamples (examples : List Example) (maxSize maxLength : Value) :
    Except Fault Pools := do
  let leaves := leavesIn examples
  let texts := (← leaves.mapM (usableText? maxLength)).filterMap id
  let strings ← Limits.leading maxSize texts.eraseDups
  let integers ← Limits.leading maxSize (leaves.filterMap integer?).eraseDups
  return ⟨strings.map .str, integers.map .int⟩

end Pools

namespace Query

/-- The query for a function that has these examples. -/
def ofExamples (examples : List Example) (settings : Settings)
    (catalog : Option Catalog) : Except Fault Query := do
  let (env, goal) ← Example.signature examples
  let pools ← Pools.ofExamples examples settings.maxPoolSize
    settings.maxLiteralLength
  return {
    env, goal, pools
    maxSize := settings.maxSize
    catalog := catalog.getD Catalog.standard }

end Query

end FunctionSynthesis
