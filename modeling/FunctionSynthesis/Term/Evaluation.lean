import FunctionSynthesis.Json.Writer
import FunctionSynthesis.Term.Names
import FunctionSynthesis.Term.Source
import FunctionSynthesis.Term.Traversal
import FunctionSynthesis.Text.Bracket
import FunctionSynthesis.Text.PlainForm
import FunctionSynthesis.Value.Method

/-!
# Evaluation of terms

`Term.evaluate` computes the value of a closed term from the values of its
variables, from left to right. `Term.callWith` evaluates a term as the body of a
function that takes a number of arguments and reduces the result to what can be
written down as JSON.
-/

namespace FunctionSynthesis.Term

/-- How deep the brackets of an expression may be nested. -/
def deepestNesting : Nat := 200

/-- Whether the text of a node can be read, if those of its parts can: it is no
hole, its names can be names, and something stands between the brackets of a
subscript. -/
def isReadableNode : Term → Bool
  | .var name => Names.canStand name
  | .call _ m [_] => (binaryOperator? m).isSome || Names.canBeMethod m
  | .call _ m _ => Names.canBeMethod m
  | .field _ "__getitem__" as => !as.isEmpty
  | .field _ name _ => Names.canBeMethod name
  | .hole _ _ => false
  | .filled _ _ => false
  | .foreign => false
  | _ => true

/-- Whether the text of a term can be read as an expression. -/
def isReadable (t : Term) : Bool :=
  t.walk.all isReadableNode &&
    match t.sourceText with
    | .ok text => Text.nesting text.toList ≤ deepestNesting
    | .error _ => false

/-- Whether a literal is written as a numeral or between brackets or quotes:
infinities have no numeral. -/
def isDenoted : Value → Bool
  | .float x => x.isFinite
  | _ => true

private def unboundName (name : String) : Fault :=
  Fault.describe .unboundName s!"name '{name}' is not defined"

/-- The value of a literal. -/
def literalValue (v : Value) : Except Fault Value :=
  if v.all isDenoted then return v else throw (unboundName "inf")

/-- A dictionary from entries in order; every key has to be hashable. -/
def dictionaryOf (entries : Entries) : Except Fault Value :=
  match entries.findSome? fun e => e.1.unhashable? with
  | some part =>
      throw (Fault.describe .type s!"unhashable type: '{part.className}'")
  | none => return .dict (Entries.ofList entries)

/-- What a name in its plain form stands for. -/
def meaningOf (env : List (String × Value)) (name : String) : Option Value :=
  env.lookup name <|> Names.meaning? name

/-- What stands between the brackets of a subscript. -/
def positionOf : List Value → Value
  | [v] => v
  | vs => .tuple vs

mutual

/-- The value of a term. -/
def evaluate (env : List (String × Value)) : Term → Except Fault Value
  | .literal v => literalValue v
  | .var name =>
      match env.lookup name <|> meaningOf env (Text.plainForm name) with
      | some v => return v
      | none => throw (unboundName name)
  | .call r m [a] => do
      let receiver ← evaluate env r
      match Operator.ofMethod? m with
      | some operator => operator.apply receiver (← evaluate env a)
      | none =>
          let m := Text.plainForm m
          receiver.requireMethod m
          receiver.callMethod m [← evaluate env a]
  | .call r m as => do
      let receiver ← evaluate env r
      let m := Text.plainForm m
      receiver.requireMethod m
      receiver.callMethod m (← evaluateAll env as)
  | .field r name as => do
      let receiver ← evaluate env r
      if name = "__getitem__" then
        receiver.itemAt (positionOf (← evaluateAll env as))
      else
        let name := Text.plainForm name
        receiver.requireMethod name
        if as.isEmpty then return receiver.uncalled name
        else receiver.callMethod name (← evaluateAll env as)
  | .array ts => return .list (← evaluateAll env ts)
  | .record es => do dictionaryOf (← evaluateEntries env es)
  | .slice r a b s => do
      let receiver ← evaluate env r
      let start ← evaluate env a
      let stop ← evaluate env b
      receiver.sliceAt start stop (← evaluateStep env s)
  | .hole _ _ => throw (Fault.describe .grammar "invalid syntax")
  | .filled _ _ => throw (Fault.describe .grammar "invalid syntax")
  | .foreign => throw (Fault.describe .grammar "invalid syntax")
termination_by structural t => t

def evaluateAll (env : List (String × Value)) :
    List Term → Except Fault (List Value)
  | [] => return []
  | t :: ts => do
      let v ← evaluate env t
      return v :: (← evaluateAll env ts)
termination_by structural ts => ts

def evaluateEntries (env : List (String × Value)) :
    List (Term × Term) → Except Fault Entries
  | [] => return []
  | (k, v) :: es => do
      let key ← evaluate env k
      let value ← evaluate env v
      return (key, value) :: (← evaluateEntries env es)
termination_by structural es => es

def evaluateStep (env : List (String × Value)) :
    Option Term → Except Fault Value
  | none => return .none
  | some s => evaluate env s
termination_by structural s => s

end

/-- The variables of a function of `arity` parameters with the arguments of a
call. -/
def bind (arity : Nat) (arguments : List Value) :
    Except Fault (List (String × Value)) :=
  if arguments.length = arity then
    return (parameterNames arity).zip arguments
  else throw <| Fault.describe .type
    s!"{arity} arguments expected but {arguments.length} given"

/-- The result of a function of `arity` parameters whose body is this term. -/
def callWith (t : Term) (arity : Nat) (arguments : List Value) :
    Except Fault Value := do
  if !t.isReadable then throw (Fault.describe .grammar "invalid syntax")
  let env ← bind arity arguments
  (← t.evaluate env).throughJson

end FunctionSynthesis.Term
