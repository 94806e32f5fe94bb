import FunctionSynthesis.Term.Source
import FunctionSynthesis.Term.Traversal
import FunctionSynthesis.Typing

/-!
# Queries

A query says what program is wanted: the variables in scope, the type of the
result, the literals to build with, how large a program may be, how partial
programs are ranked and which methods there are.
-/

namespace FunctionSynthesis

/-- The literals that programs may be built with, preferred ones first. -/
structure Pools where
  strings : List Value := []
  integers : List Value := []
  deriving Inhabited

namespace Pools

/-- The pools of the items of two values. -/
def ofItems (strings integers : Value) : Except Fault Pools :=
  return ⟨← strings.elements, ← integers.elements⟩

/-- Texts first, then integers. -/
def all (pools : Pools) : List Value :=
  pools.strings ++ pools.integers

/-- The pools under the names they are reported by. -/
def toValue (pools : Pools) : Value :=
  .dict (Entries.ofFields
    [("str", .list pools.strings), ("int", .list pools.integers)])

end Pools

/-- The size of the largest program that is kept unless a query says
otherwise. -/
def defaultMaxSize : Int := 50

/-- What program is wanted. A partial program with a lower score is explored
first. -/
structure Query where
  env : Environment
  goal : Ty
  pools : Pools := {}
  maxSize : Value := .int defaultMaxSize
  score : Term → Int := fun t => t.size
  catalog : Catalog := Catalog.standard

namespace Query

/-- The wanted function as a type. -/
def summary (query : Query) : String :=
  let parameters := query.env.map fun (name, type) => s!"{name}: {type}"
  s!"({Value.commaSeparated parameters}) -> {query.goal}"

/-- Whether the summary can be written. -/
def isWritable (query : Query) : Bool :=
  query.env.all (fun binding => binding.2.isWritable) && query.goal.isWritable

/-- The summary, if it can be written. -/
def written (query : Query) : Except Fault String :=
  if query.isWritable then return query.summary
  else throw (Fault.tooManyDigits none)

theorem written_of_isWritable {query : Query} (writable : query.isWritable = true) :
    query.written = .ok query.summary :=
  if_pos writable

theorem isWritable_of_written {query : Query} {text : String} (written : query.written = .ok text) :
    query.isWritable = true := by
  unfold Query.written at written
  split at written
  next writable => exact writable
  next => cases written

theorem written_of_not_isWritable {query : Query} (unwritable : query.isWritable = false) :
    query.written = .error (Fault.tooManyDigits none) :=
  if_neg (ne_true_of_eq_false unwritable)

/-- Whether a program is small enough. Only a number can bound the size. -/
def admits (query : Query) (t : Term) : Except Fault Bool :=
  match query.maxSize.number? with
  | some limit => return !limit.isLess (.int t.size)
  | none => throw <| Fault.describe .type
      (s!"'>' not supported between instances of 'int' " ++
        s!"and '{query.maxSize.className}'")

def integerVariables (query : Query) : List String :=
  query.env.namesWhere Ty.isIntegerLike

def stringVariables (query : Query) : List String :=
  query.env.namesWhere Ty.isStringLike

end Query

end FunctionSynthesis
