import FunctionSynthesis.Example
import FunctionSynthesis.Execution

/-!
# Trials

A trial runs a candidate on an example and compares the outcome with the wanted
output. A candidate is accepted when all of its trials succeed.
-/

namespace FunctionSynthesis

namespace Value

/-- Equality of values without items of their own to look into: a truth value
only equals itself, and what is not a number equals nothing. -/
def agrees (actual wanted : Value) : Bool :=
  match actual, wanted with
  | .bool a, .bool b => a == b
  | a, b => !a.isTruth && !b.isTruth && !a.isNan && a == b

/-- The items of a list or a tuple, if there are so many of them. -/
def itemsIfMany? (count : Nat) : Value → Option (List Value)
  | .list items => if items.length = count then some items else Option.none
  | .tuple items => if items.length = count then some items else Option.none
  | _ => Option.none

mutual

/-- Whether a value is as good as a wanted one. A dictionary may have further
keys, which are compared by their text, and sequences of both kinds count as
the same. A key that is too long to be written is a fault, unless the values
differ before it is looked up. -/
def reproduces (actual : Value) : Value → Except Fault Bool
  | .dict wanted =>
      match actual with
      | .dict found => reproducesEntries found wanted
      | _ => return false
  | .list wanted =>
      match actual.itemsIfMany? wanted.length with
      | some found => reproducesItems found wanted
      | Option.none => return false
  | .tuple wanted =>
      match actual.itemsIfMany? wanted.length with
      | some found => reproducesItems found wanted
      | Option.none => return false
  | wanted => return agrees actual wanted
termination_by structural wanted => wanted

/-- Whether values are as good as wanted ones in turn, up to the end of either
list. -/
def reproducesItems (found : List Value) : List Value → Except Fault Bool
  | [] => return true
  | w :: wanted =>
      match found with
      | [] => return true
      | v :: found => do
          if ← reproduces v w then reproducesItems found wanted else return false
termination_by structural wanted => wanted

def reproducesEntries (found : Entries) : Entries → Except Fault Bool
  | [] => return true
  | (k, w) :: wanted => do
      let key ← k.written k.plainText
      match found.valueOf? (.str key) with
      | some v =>
          if ← reproduces v w then reproducesEntries found wanted
          else return false
      | Option.none => return false
termination_by structural wanted => wanted

end

end Value

/-- The outcome of running a candidate on an example. -/
structure Trial where
  wanted : Example
  passed : Bool
  actual : Value
  /-- Why there was no result. -/
  reason : Option String

namespace Trial

/-- Judge a run by the output that an example wants. -/
def judge (wanted : Example) : Run → Except Fault Trial
  | .ok actual => do
      return ⟨wanted, ← actual.reproduces wanted.output, actual, none⟩
  | .error reason => return ⟨wanted, false, .none, some reason⟩

def toValue (trial : Trial) : Value :=
  .dict <| Entries.ofFields
    [("input", .list trial.wanted.inputs), ("expected", trial.wanted.output),
      ("actual", trial.actual), ("match", .bool trial.passed),
      ("error", trial.reason.elim .none .str)]

/-- Try examples in order with a way to run the candidate, up to the first
failure if asked to. -/
def inOrder (run : List Value → Attempt Run) (stopAtFailure : Bool) :
    List Example → Attempt (List Trial)
  | [] => return []
  | wanted :: rest => do
      let trial ← judge wanted (← run wanted.inputs)
      if stopAtFailure && !trial.passed then return [trial]
      else return trial :: (← inOrder run stopAtFailure rest)

/-- Try a candidate with `arity` parameters on examples. -/
def allBy (runner : Runner) (examples : List Example) (arity : Nat) (t : Term)
    (stopAtFailure : Bool) : Attempt (List Trial) := do
  let code ← t.functionSource Executor.candidateName arity
  inOrder (runner t arity code) stopAtFailure examples

/-- Whether no trial of a candidate fails, up to the first that does. -/
def acceptsBy (runner : Runner) (examples : List Example) (arity : Nat) (t : Term) :
    Attempt Bool := do
  let trials ← allBy runner examples arity t true
  return trials.all (·.passed)

def all (executor : Executor) (launcher : Launcher) : List Example → Nat →
    Term → Bool → Attempt (List Trial) :=
  allBy (executor.run launcher)

def accepts (executor : Executor) (launcher : Launcher) : List Example → Nat →
    Term → Attempt Bool :=
  acceptsBy (executor.run launcher)

end Trial

end FunctionSynthesis
