import FunctionSynthesis.Grammar.Limits
import FunctionSynthesis.Query

/-!
# Inhabited goals

A goal is inhabited when a hole of that type can be closed: by a literal, a
variable or a literal array, by one of its record fields, or by a method whose
holes are inhabited in turn. A goal that is already under consideration does not
count, so a method that only leads back to it is of no use.

Goals can grow without end when the result of a method is the parameter of its
receiver's type. The depth of the recursion is therefore bounded, and exceeding
the bound is a fault.
-/

namespace FunctionSynthesis

/-- Whether the type of a value is below a goal. -/
def Value.fits (value : Value) (goal : Ty) : Except Fault Bool :=
  (Ty.ofValue value).checkedLe goal

namespace Query

/-- Methods that are not proposed from the catalog: items are only taken at
positions that the idioms fix. -/
def isSkipped (method : String) : Bool :=
  method == "__getitem__"

/-- The entries of the catalog that calls are proposed from. -/
def callableEntries (query : Query) : List (String × String × Signature) :=
  query.catalog.entries.filter fun (_, method, _) => !isSkipped method

end Query

/-- The types of the receiver and of the result when a method is called for a
goal, or nothing when an argument can never be given. A variable result takes
the type of the goal, from a receiver with that parameter. -/
def Signature.typesFor? (signature : Signature) (className : String) (goal : Ty) :
    Option (Ty × Ty) :=
  if signature.arguments.any Ty.isBottom then none
  else
    match signature.result with
    | .var _ => some (.generic className goal, goal)
    | result => some (.nominal className, result)

/-- Whether the result of a method fits a goal. A variable result always does,
for it takes the type of the goal. -/
def Signature.yields (signature : Signature) (goal : Ty) : Except Fault Bool :=
  match signature.result with
  | .var _ => return true
  | result => result.checkedLe goal

/-- What the items of a literal array for a goal are taken from. -/
inductive ArrayItems where
  | fromPool (pool : List Value)
  | truthValues

namespace Query

/-- What the items of a literal array for a goal are taken from, if there are
literal arrays for it. -/
def arrayItems? (query : Query) (goal : Ty) : Option ArrayItems :=
  match goal with
  | .generic "list" element =>
      if element.le .integer then some (.fromPool query.pools.integers)
      else if element.le .string then some (.fromPool query.pools.strings)
      else if element.le .boolean then some .truthValues
      else none
  | _ => none

/-- Whether there is a literal array for a goal. -/
def hasArray (query : Query) (limits : Limits) (goal : Ty) :
    Except Fault Bool := do
  match query.arrayItems? goal with
  | none => return false
  | some .truthValues => return true
  | some (.fromPool pool) =>
      return 1 ≤ (← Limits.count limits.maxArrayArity) && !pool.isEmpty

/-- What stops a recursion that goes too deep. -/
def tooDeep : Fault :=
  .bare .recursion

/-- Whether a hole of a goal type can be closed, as far as a recursion of some
depth shows. Goals in `visiting` are under consideration. -/
def inhabitedWithin (query : Query) (limits : Limits) (depth : Nat)
    (visiting : List Ty) (goal : Ty) : Except Fault Bool :=
  match depth with
  | 0 => throw tooDeep
  | depth + 1 =>
      match goal with
      | .literal _ => return true
      | .text _ => return true
      | .union members =>
          members.anyM fun t => query.inhabitedWithin limits depth visiting t
      | goal => do
          if ← query.env.anyM fun binding => binding.2.checkedLe goal then
            return true
          if ← query.pools.all.anyM fun value => value.fits goal then
            return true
          if ← query.hasArray limits goal then return true
          if ← visiting.anyM fun seen => goal.checkedEqual seen then
            return false
          let inner := visiting ++ [goal]
          match goal with
          | .record fields =>
              fields.anyM fun field =>
                query.inhabitedWithin limits depth inner field.2
          | goal =>
              query.callableEntries.anyM fun (className, _, signature) => do
                match signature.typesFor? className goal with
                | none => return false
                | some (receiver, _) =>
                    if !(← signature.yields goal) then return false
                    (receiver :: signature.arguments).allM fun t =>
                      query.inhabitedWithin limits depth inner t

end Query

mutual

def Ty.nodes : Ty → Nat
  | .generic _ param => nodes param + 1
  | .union ts => nodesOfAll ts + 1
  | .record fs => nodesOfFields fs + 1
  | _ => 1
termination_by structural t => t

def Ty.nodesOfAll : List Ty → Nat
  | [] => 0
  | t :: ts => nodes t + nodesOfAll ts
termination_by structural ts => ts

def Ty.nodesOfFields : List (String × Ty) → Nat
  | [] => 0
  | (_, t) :: fs => nodes t + nodesOfFields fs
termination_by structural fs => fs

end

namespace Query

/-- A depth beyond which goals only repeat, unless the catalog makes them
grow: every goal under consideration is a part of the goal or of a signature. -/
def inhabitationDepth (query : Query) (goal : Ty) : Nat :=
  let ofSignatures := query.catalog.entries.map fun (_, _, signature) =>
    Ty.nodesOfAll signature.arguments + 1
  let parts := goal.nodes + ofSignatures.foldr (· + ·) 0 + 1
  1000 + parts * parts

/-- Whether a hole of a goal type can be closed while the goals in `visiting`
are under consideration. -/
def isInhabited (query : Query) (limits : Limits) (visiting : List Ty)
    (goal : Ty) : Except Fault Bool :=
  query.inhabitedWithin limits (query.inhabitationDepth goal) visiting goal

end Query

end FunctionSynthesis
