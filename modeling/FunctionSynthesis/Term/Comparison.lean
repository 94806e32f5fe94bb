import FunctionSynthesis.Term
import FunctionSynthesis.Ty.Comparison

/-!
# Comparisons of terms that may fail

Terms are compared part by part, from left to right, up to the first two parts
that differ. The goals of holes are types, and two types cannot always be told
apart: a comparison that gets to two such goals fails. `Term.checkedEqual` agrees
with `Term.equal` where it does not fail.
-/

namespace FunctionSynthesis.Term

mutual

/-- Whether the equality of two terms cannot be decided. -/
def equalFails : Term → Term → Bool
  | .call r m as, .call r' m' as' =>
      equalFails r r' || (r == r' && m == m' && equalFailsAmong as as')
  | .field r m as, .field r' m' as' =>
      equalFails r r' || (r == r' && m == m' && equalFailsAmong as as')
  | .array ts, .array us => equalFailsAmong ts us
  | .record es, .record fs => equalFailsAmongEntries es fs
  | .slice r a b s, .slice r' a' b' s' =>
      equalFails r r' ||
        (r == r' && (equalFails a a' ||
          (a == a' && (equalFails b b' || (b == b' && equalFailsAtStep s s')))))
  | .hole g _, .hole g' _ => g.equalFails g'
  | .filled g cs, .filled g' cs' =>
      g.equalFails g' || (g == g' && equalFailsAmong cs cs')
  | _, _ => false
termination_by structural t => t

/-- Whether comparing the terms of two lists pairwise fails before two of them
differ. -/
def equalFailsAmong : List Term → List Term → Bool
  | t :: ts, u :: us =>
      equalFails t u || (t == u && equalFailsAmong ts us)
  | _, _ => false
termination_by structural ts => ts

def equalFailsAmongEntries : List (Term × Term) → List (Term × Term) → Bool
  | (k, v) :: es, f :: fs =>
      equalFails k f.1 ||
        (k == f.1 && (equalFails v f.2 ||
          (v == f.2 && equalFailsAmongEntries es fs)))
  | _, _ => false
termination_by structural es => es

def equalFailsAtStep : Option Term → Option Term → Bool
  | .some s, .some s' => equalFails s s'
  | _, _ => false
termination_by structural s => s

end

/-- Equality, if it can be decided. -/
def checkedEqual (a b : Term) : Except Fault Bool :=
  if equalFails a b then throw Ty.incomparable else return a == b

/-- The first pair of a table whose first term equals a term. -/
def findEqual? (t : Term) : List (Term × Term) → Except Fault (Option (Term × Term))
  | [] => return none
  | pair :: rest => do
      if ← pair.1.checkedEqual t then return some pair
      else findEqual? t rest

end FunctionSynthesis.Term
