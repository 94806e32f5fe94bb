import FunctionSynthesis.Catalog
import FunctionSynthesis.Problem
import FunctionSynthesis.Term.Traversal

/-!
# Types of terms

`Term.typeIn` computes the abstract type of a term without evaluating it. A hole
has the type it is promised to be filled with, so the type of a partial program
is what the program has when every promise is kept. A call that the catalog does
not know has the greatest type, since calls are proposed on trial. Only an
unbound variable and a node that has no type at all are refused, and types that
cannot be compared end the computation.
-/

namespace FunctionSynthesis

/-- The types of the variables in scope. No name occurs twice. -/
abbrev Environment := List (String × Ty)

namespace Environment

def typeOf? (env : Environment) (name : String) : Option Ty :=
  Ty.firstField? env name

/-- An environment from bindings in which names may repeat: a name keeps its
first place and takes its last type. -/
def ofList (bindings : List (String × Ty)) : Environment :=
  Ty.fieldMapping bindings

/-- The names of the variables whose type passes a test. -/
def namesWhere (env : Environment) (test : Ty → Bool) : List String :=
  (env.filter fun binding => test binding.2).map (·.1)

end Environment

/-- Why a term has no type. -/
inductive TypingError where
  | unbound (name : String)
  | unexpected (node : Term)
  | incomparable (fault : Fault)
  deriving Inhabited

namespace TypingError

/-- The refusal of a node. It shows the node, so that it is a fault if the node
cannot be written. -/
def refusal (message : String) (node : Term) : Failure :=
  if node.isWritable then .problem (.untypable message (some node))
  else .fault (Fault.tooManyDigits none)

def toFailure : TypingError → Failure
  | .unbound name => refusal s!"unbound variable {Text.quoted name}" (.var name)
  | .unexpected node => refusal s!"unexpected AST node {node.kindName}" node
  | .incomparable fault => .fault fault

theorem toFailure_cases (error : TypingError) :
    (∃ text node, error.toFailure = .problem (.untypable text (some node))) ∨
      ∃ fault, error.toFailure = .fault fault := by
  have refused (message : String) (node : Term) :
      (∃ text node', refusal message node = .problem (.untypable text (some node'))) ∨
        ∃ fault, refusal message node = .fault fault := by
    unfold refusal
    split
    · exact Or.inl ⟨message, node, rfl⟩
    · exact Or.inr ⟨_, rfl⟩
  cases error with
  | unbound name => exact refused _ _
  | unexpected node => exact refused _ _
  | incomparable fault => exact Or.inr ⟨fault, rfl⟩

end TypingError

instance : MonadLift (Except Fault) (Except TypingError) where
  monadLift attempt := attempt.mapError .incomparable

namespace Term

/-- Whether a method is arithmetic on integers. -/
def isArithmetic (method : String) : Bool :=
  method == "__add__" || method == "__mul__"

/-- The type of a call that is settled without the catalog: a sum or product of
integers, a sum of texts, an item of a text. -/
def directCallType? (receiver : Ty) (method : String) (args : List Ty) :
    Option Ty :=
  let arithmetic : Option Ty :=
    match args with
    | [arg] =>
        if !isArithmetic method then none
        else if receiver.isIntegerLike && arg.isIntegerLike then some .integer
        else if method == "__add__" && receiver.isStringLike && arg.isStringLike
          then some .string
        else none
    | _ => none
  match arithmetic with
  | some type => some type
  | none =>
      if method == "__getitem__" && !args.isEmpty && receiver.isStringLike
        then some .string
      else none

/-- The type of a call by the first signature that accepts the arguments. -/
def listedCallType (catalog : Catalog) (receiver : Ty) (method : String)
    (args : List Ty) : Except Fault Ty :=
  match receiver.receiverClass? with
  | none => return .top
  | some className =>
      match catalog.lookup? className method with
      | none => return .top
      | some signatures => do
          match ← signatures.findM? fun signature => signature.accepts args with
          | some signature => return signature.resultFor receiver
          | none => return .top

def callType (catalog : Catalog) (receiver : Ty) (method : String)
    (args : List Ty) : Except Fault Ty :=
  match directCallType? receiver method args with
  | some type => return type
  | none => listedCallType catalog receiver method args

/-- The type of a slice: of a text a text, of a list a list whose items are
widened. -/
def sliceType (receiver : Ty) : Ty :=
  if receiver.isStringLike then .string
  else
    match receiver with
    | .generic "list" _ => receiver.promote
    | _ => .top

/-- The name of the field that a key of this type is sure to denote. -/
def staticKey? : Ty → Option String
  | .text key => some key
  | _ => none

/-- The types of terms without those of closed terms that have been seen, which
need not be told from themselves. -/
def typesOnce (seen : List Term) : List (Term × Ty) → List Ty
  | [] => []
  | (t, type) :: rest =>
      if t.isClosed && seen.any (· == t) then typesOnce seen rest
      else type :: typesOnce (t :: seen) rest

/-- The type of a container of items of several types: what the items widen
to is its parameter. -/
def containerType (base : String) (items : List Term) (types : List Ty) :
    Except Fault Ty :=
  if Ty.unionFails types && Ty.unionFails (typesOnce [] (items.zip types)) then
    throw Ty.incomparable
  else return .generic base (Ty.unionOf types).promote

/-- The type of a dictionary display from its entries and the types of their keys
and values: a record when every key is known. -/
def displayType (entries : List (Term × Term)) (types : List (Ty × Ty)) :
    Except Fault Ty :=
  let fields := types.mapM fun (key, value) =>
    (staticKey? key).map fun name => (name, value)
  match fields with
  | some fields => return .record fields
  | none => containerType "dict" (entries.map (·.2)) (types.map (·.2))

mutual

/-- The abstract type of a term in an environment. The bounds of a slice and
the insides of a hole are not looked at. -/
def typeIn (catalog : Catalog) (env : Environment) : Term → Except TypingError Ty
  | .literal v => return .ofValue v
  | .var name =>
      match env.typeOf? name with
      | some type => return type
      | none => throw (.unbound name)
  | .hole goal _ => return goal
  | .call r m as => do
      let receiver ← typeIn catalog env r
      let args ← typesIn catalog env as
      callType catalog receiver m args
  | .field r m as => do
      let receiver ← typeIn catalog env r
      let args ← typesIn catalog env as
      callType catalog receiver m args
  | .slice r _ _ _ => return sliceType (← typeIn catalog env r)
  | .array ts => do
      let types ← typesIn catalog env ts
      containerType "list" ts types
  | .record es => do
      let types ← entryTypesIn catalog env es
      displayType es types
  | .filled goal candidates => throw (.unexpected (.filled goal candidates))
  | .foreign => throw (.unexpected .foreign)
termination_by structural t => t

def typesIn (catalog : Catalog) (env : Environment) :
    List Term → Except TypingError (List Ty)
  | [] => return []
  | t :: ts => do
      let type ← typeIn catalog env t
      return type :: (← typesIn catalog env ts)
termination_by structural ts => ts

/-- The types of keys and values; a value is looked at before its key. -/
def entryTypesIn (catalog : Catalog) (env : Environment) :
    List (Term × Term) → Except TypingError (List (Ty × Ty))
  | [] => return []
  | (k, v) :: es => do
      let value ← typeIn catalog env v
      let key ← typeIn catalog env k
      return (key, value) :: (← entryTypesIn catalog env es)
termination_by structural es => es

end

/-! ### Calls that the catalog does not know -/

/-- The class and method of a call if it is looked up in vain. -/
def missedCall? (catalog : Catalog) (receiver : Ty) (method : String)
    (args : List Ty) : Option (String × String) :=
  match directCallType? receiver method args, receiver.receiverClass? with
  | none, some className =>
      if catalog.contains className method then none
      else some (className, method)
  | _, _ => none

/-- The call of a method of `r` itself if it is looked up in vain. -/
def missedHere (catalog : Catalog) (env : Environment) (r : Term) (m : String)
    (as : List Term) : List (String × String) :=
  match typeIn catalog env r, typesIn catalog env as with
  | .ok receiver, .ok args => (missedCall? catalog receiver m args).toList
  | _, _ => []

mutual

/-- The calls of a term that are looked up in vain when its type is computed,
in the order of the look-ups. -/
def missedCalls (catalog : Catalog) (env : Environment) :
    Term → List (String × String)
  | .call r m as =>
      missedCalls catalog env r ++ missedInAll catalog env as ++
        missedHere catalog env r m as
  | .field r m as =>
      missedCalls catalog env r ++ missedInAll catalog env as ++
        missedHere catalog env r m as
  | .slice r _ _ _ => missedCalls catalog env r
  | .array ts => missedInAll catalog env ts
  | .record es => missedInEntries catalog env es
  | _ => []
termination_by structural t => t

def missedInAll (catalog : Catalog) (env : Environment) :
    List Term → List (String × String)
  | [] => []
  | t :: ts => missedCalls catalog env t ++ missedInAll catalog env ts
termination_by structural ts => ts

def missedInEntries (catalog : Catalog) (env : Environment) :
    List (Term × Term) → List (String × String)
  | [] => []
  | (k, v) :: es =>
      missedCalls catalog env v ++ missedCalls catalog env k ++
        missedInEntries catalog env es
termination_by structural es => es

end

end Term

end FunctionSynthesis
