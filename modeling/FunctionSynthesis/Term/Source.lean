import FunctionSynthesis.Fault
import FunctionSynthesis.Term

/-!
# Source text of terms

A term is written as an expression and a closed term as the body of a function
of one line. A hole is written as a box. Operators are written between their
operands, with brackets where an operand binds more loosely than its place
allows; a number is bracketed where it is a receiver.
-/

namespace FunctionSynthesis.Term

/-- What stands in the place of a hole. -/
def holeMark : String := "□"

/-- The sign of a binary operator and how tightly it binds. -/
def binaryOperator? : String → Option (String × Nat)
  | "__add__" => some ("+", 1)
  | "__sub__" => some ("-", 1)
  | "__mul__" => some ("*", 2)
  | "__truediv__" => some ("/", 2)
  | "__floordiv__" => some ("//", 2)
  | "__mod__" => some ("%", 2)
  | _ => none

/-- How tightly everything but a binary operation binds. -/
def atomLevel : Nat := 10

/-- An expression together with how tightly it binds. -/
structure Source where
  text : String
  level : Nat

namespace Source

def atom (text : String) : Source := ⟨text, atomLevel⟩

/-- The text of an operand in a place that needs at least this level. -/
def bracketedBelow (source : Source) (level : Nat) : String :=
  if source.level < level then s!"({source.text})" else source.text

/-- The operation `left sign right`; equal levels group to the left. -/
def operation (left : Source) (sign : String) (level : Nat) (right : Source) :
    Source :=
  ⟨s!"{left.bracketedBelow level} {sign} {right.bracketedBelow (level + 1)}",
    level⟩

end Source

def isNumeral : Term → Bool
  | .literal v => v.number?.isSome
  | _ => false

/-- A term as something to call a method on, to index or to slice. -/
def receiverText (t : Term) (source : Source) : String :=
  if t.isNumeral then s!"({source.text})" else source.bracketedBelow atomLevel

def subscript (receiver index : String) : String :=
  receiver ++ "[" ++ index ++ "]"

def methodCall (receiver method : String) (args : List String) : String :=
  s!"{receiver}.{method}({Value.commaSeparated args})"

/-- A slice bound; an absent value is written as nothing. -/
def boundText (t : Term) (source : Source) : String :=
  if t == nothing then "" else source.text

mutual

/-- The expression for a term. An unknown kind of node has none, and neither has a
literal with an integer that is too long. -/
def source : Term → Except Fault Source
  | .literal v => return .atom (← v.written v.literalText)
  | .var name => return .atom name
  | .hole _ _ => return .atom holeMark
  | .filled _ _ => return .atom holeMark
  | .call r m [a] => do
      let left ← source r
      let right ← source a
      match binaryOperator? m with
      | some (sign, level) => return left.operation sign level right
      | none => return .atom (methodCall (receiverText r left) m [right.text])
  | .call r m as => do
      let receiver ← source r
      return .atom (methodCall (receiverText r receiver) m (← sources as))
  | .field r name as => do
      let receiver := receiverText r (← source r)
      let args ← sources as
      if name = "__getitem__" then
        return .atom (subscript receiver (Value.commaSeparated args))
      else if args.isEmpty then
        return .atom s!"{receiver}.{name}"
      else
        return .atom (methodCall receiver name args)
  | .slice r a b s => do
      let receiver := receiverText r (← source r)
      if isReversal (.slice r a b s) then return .atom (subscript receiver "::-1")
      else
        let start := boundText a (← source a)
        let stop := boundText b (← source b)
        let bounds := [start, stop] ++ (← stepSource s)
        return .atom (subscript receiver (":".intercalate bounds))
  | .array ts => return .atom ("[" ++ Value.commaSeparated (← sources ts) ++ "]")
  | .record es => do
      let entries ← entrySources es
      return .atom ("\x7b" ++ Value.commaSeparated entries ++ "\x7d")
  | .foreign => throw (Fault.describe .value s!"cannot unparse {kindName .foreign}")
termination_by structural t => t

def sources : List Term → Except Fault (List String)
  | [] => return []
  | t :: ts => do return (← source t).text :: (← sources ts)
termination_by structural ts => ts

def entrySources : List (Term × Term) → Except Fault (List String)
  | [] => return []
  | (k, v) :: es => do
      return s!"{(← source k).text}: {(← source v).text}" :: (← entrySources es)
termination_by structural es => es

/-- The bound that a step adds to a slice, if it has one. -/
def stepSource : Option Term → Except Fault (List String)
  | none => return []
  | some s => do return [boundText s (← source s)]
termination_by structural s => s

end

def sourceText (t : Term) : Except Fault String :=
  return (← t.source).text

def parameterName (position : Nat) : String :=
  s!"arg{position}"

def parameterNames (arity : Nat) : List String :=
  (List.range arity).map parameterName

/-- A function of one line that returns a term. -/
def functionSource (name : String) (arity : Nat) (t : Term) :
    Except Fault String := do
  let body ← t.sourceText
  let parameters := Value.commaSeparated (parameterNames arity)
  return s!"def {name}({parameters}):\n    return {body}\n"

end FunctionSynthesis.Term
