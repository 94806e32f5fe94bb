import FunctionSynthesis.Fault
import FunctionSynthesis.Term

/-!
# Traversal of terms

The direct subterms of a term, its nodes in pre-order, its size and holes, and
rewriting from the top down. No traversal looks into the candidates of a filled
hole: `Term.materialize` is what puts a chosen candidate in its place.
-/

namespace FunctionSynthesis.Term

/-! ### Direct subterms -/

/-- Keys and values of entries in turn. -/
def flattenEntries : List (Term × Term) → List Term
  | [] => []
  | (key, value) :: entries => key :: value :: flattenEntries entries

/-- Entries made of terms in turn, unless a value is missing at the end. -/
def pairEntries? : List Term → Option (List (Term × Term))
  | [] => some []
  | [_] => none
  | key :: value :: rest => (pairEntries? rest).map ((key, value) :: ·)

/-- The direct subterms in the order in which they are evaluated. -/
def children : Term → List Term
  | .call receiver _ args => receiver :: args
  | .field receiver _ args => receiver :: args
  | .array items => items
  | .record entries => flattenEntries entries
  | .slice receiver start stop step => receiver :: start :: stop :: step.toList
  | _ => []

/-- The same node with other direct subterms. Subterms that the node has no
place for are ignored; nothing comes of too few. -/
def withChildren? (t : Term) (parts : List Term) : Option Term :=
  match t, parts with
  | .call _ method _, receiver :: args => some (.call receiver method args)
  | .call _ _ _, [] => none
  | .field _ name _, receiver :: args => some (.field receiver name args)
  | .field _ _ _, [] => none
  | .array _, items => some (.array items)
  | .record _, parts => (pairEntries? parts).map .record
  | .slice _ _ _ _, receiver :: start :: stop :: rest =>
      some (.slice receiver start stop rest.head?)
  | .slice _ _ _ _, _ => none
  | t, _ => some t

/-! ### Nodes, size and holes -/

mutual

/-- The nodes of a term, each before its subterms. -/
def walk : Term → List Term
  | .call r m as => .call r m as :: (walk r ++ walkAll as)
  | .field r m as => .field r m as :: (walk r ++ walkAll as)
  | .array ts => .array ts :: walkAll ts
  | .record es => .record es :: walkEntries es
  | .slice r a b s => .slice r a b s :: (walk r ++ walk a ++ walk b ++ walkStep s)
  | t => [t]
termination_by structural t => t

def walkAll : List Term → List Term
  | [] => []
  | t :: ts => walk t ++ walkAll ts
termination_by structural ts => ts

def walkEntries : List (Term × Term) → List Term
  | [] => []
  | (k, v) :: es => walk k ++ walk v ++ walkEntries es
termination_by structural es => es

def walkStep : Option Term → List Term
  | none => []
  | some s => walk s
termination_by structural s => s

end

def size (t : Term) : Nat :=
  t.walk.length

def isRegularHole : Term → Bool
  | .hole _ dependent => !dependent
  | _ => false

def isDependentHole : Term → Bool
  | .hole _ dependent => dependent
  | _ => false

/-- The number of holes to be expanded. -/
def regularHoles (t : Term) : Nat :=
  t.walk.countP isRegularHole

/-- The number of holes to be filled from the context. -/
def dependentHoles (t : Term) : Nat :=
  t.walk.countP isDependentHole

/-- A term is closed when it has no holes of either sort. -/
def isClosed (t : Term) : Bool :=
  t.walk.all fun node => !node.isRegularHole && !node.isDependentHole

/-! ### Rewriting -/

section Rewriting

variable {m : Type → Type} [Monad m]

/-- A replacement if there is one, else what comes of descending. -/
def replacedOr (replacement : m (Option Term)) (descend : Unit → m Term) :
    m Term := do
  match ← replacement with
  | some t => pure t
  | none => descend ()

mutual

/-- Replace every topmost node for which `replace` has a replacement. Nodes are
visited in pre-order, and a replacement is not looked into. -/
def rewriteM (replace : Term → m (Option Term)) : Term → m Term
  | .call r name as =>
      replacedOr (replace (.call r name as)) fun _ => do
        return .call (← rewriteM replace r) name (← rewriteAllM replace as)
  | .field r name as =>
      replacedOr (replace (.field r name as)) fun _ => do
        return .field (← rewriteM replace r) name (← rewriteAllM replace as)
  | .array ts =>
      replacedOr (replace (.array ts)) fun _ => do
        return .array (← rewriteAllM replace ts)
  | .record es =>
      replacedOr (replace (.record es)) fun _ => do
        return .record (← rewriteEntriesM replace es)
  | .slice r a b s =>
      replacedOr (replace (.slice r a b s)) fun _ => do
        return .slice (← rewriteM replace r) (← rewriteM replace a)
          (← rewriteM replace b) (← rewriteStepM replace s)
  | t => replacedOr (replace t) fun _ => pure t
termination_by structural t => t

def rewriteAllM (replace : Term → m (Option Term)) : List Term → m (List Term)
  | [] => pure []
  | t :: ts => do return (← rewriteM replace t) :: (← rewriteAllM replace ts)
termination_by structural ts => ts

def rewriteEntriesM (replace : Term → m (Option Term)) :
    List (Term × Term) → m (List (Term × Term))
  | [] => pure []
  | (k, v) :: es => do
      return (← rewriteM replace k, ← rewriteM replace v) ::
        (← rewriteEntriesM replace es)
termination_by structural es => es

def rewriteStepM (replace : Term → m (Option Term)) :
    Option Term → m (Option Term)
  | none => pure none
  | some s => do return some (← rewriteM replace s)
termination_by structural s => s

end

end Rewriting

/-! ### Choosing candidates -/

/-- The item at a position, a negative one counting from the end. -/
def itemAt? (items : List Term) (position : Int) : Option Term :=
  let index := if position < 0 then position + items.length else position
  if index < 0 then none else items[index.toNat]?

/-- The candidate of a filled hole that the next number of a selection picks. -/
def pick (t : Term) : StateT (List Int) (Except Fault) (Option Term) := do
  match t with
  | .filled _ candidates =>
      match ← get with
      | [] => throw (Fault.bare .stop)
      | position :: rest =>
          set rest
          match itemAt? candidates position with
          | some candidate => return some candidate
          | none => throw (Fault.describe .index "tuple index out of range")
  | _ => return none

/-- Put a candidate in the place of every filled hole. The numbers of the
selection belong to the filled holes in pre-order. -/
def materialize (expanded : Term) (selection : List Int) : Except Fault Term :=
  (rewriteM pick expanded).run' selection

end FunctionSynthesis.Term
