import FunctionSynthesis.Grammar.Inhabitation

/-!
# Filling dependent holes

A dependent hole is filled from the context: by the first variable that fits,
else by the first pool literal that fits, else by the literal that the goal
itself carries.
-/

namespace FunctionSynthesis

namespace Query

/-- The literal that a goal carries. -/
def carriedLiteral? : Ty → Option Term
  | .literal value => some (.literal value)
  | .text value => some (Term.str value)
  | _ => none

/-- What a dependent hole of a goal type is filled with. -/
def filling? (query : Query) (goal : Ty) : Except Fault (Option Term) := do
  match ← query.env.findM? fun binding => binding.2.checkedLe goal with
  | some (name, _) => return some (.var name)
  | none =>
      match ← query.pools.all.findM? fun value => value.fits goal with
      | some value => return some (.literal value)
      | none => return carriedLiteral? goal

end Query

namespace Term

/-- What filling has done so far: how many holes were filled, and whether one
could not be. -/
structure FillingState where
  filled : Nat := 0
  unresolved : Bool := false

/-- The filling of a dependent hole, recorded. A hole without one stays. -/
def fillHole (query : Query) (t : Term) :
    StateT FillingState (Except Fault) (Option Term) := do
  match t with
  | .hole goal true =>
      match ← query.filling? goal with
      | some filling =>
          modify fun state => { state with filled := state.filled + 1 }
          return some filling
      | none =>
          modify fun state => { state with unresolved := true }
          return some (.hole goal true)
  | _ => return none

/-- A program with its dependent holes filled, or nothing when one cannot be,
and how many were filled. -/
def fillDependent (query : Query) (t : Term) :
    Except Fault (Option Term × Nat) := do
  let (resolved, state) ← (rewriteM (fillHole query) t).run {}
  return (if state.unresolved then none else some resolved, state.filled)

end Term

end FunctionSynthesis
