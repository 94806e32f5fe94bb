import FunctionSynthesis.Grammar.Rule
import FunctionSynthesis.Term.Fingerprint

/-!
# Expansion of holes

An expander lists the fillings that a hole may take. `Expander.ofRules` applies
rules in order and keeps the first of equal proposals. `Term.expandHoles`
replaces every regular hole of a program by the list of its fillings; dependent
holes stay, to be filled from the context later.
-/

namespace FunctionSynthesis

/-- The fillings of a hole of a given goal type, in the order in which they are
tried. -/
abbrev Expander := Query → Ty → Except Fault (List Term)

namespace Expander

/-- Terms with their fingerprints, none of which occurs twice. -/
abbrev Kept := List (UInt64 × Term)

/-- Whether a term is kept. Only a term with the same fingerprint has to be
looked at. -/
def isKept (kept : Kept) (t : Term) : Bool :=
  let print := t.fingerprint
  kept.any fun k => print == k.1 && t.isSameMember k.2

/-- Add terms in turn at the front of `kept`, without those that are kept. Only a
term that can be a member of a set can be looked up. -/
def addDistinct (kept : Kept) : List Term → Except Fault Kept
  | [] => return kept
  | t :: ts =>
      if !t.isHashable then throw (Fault.describe .type "unhashable type")
      else addDistinct (if isKept kept t then kept else (t.fingerprint, t) :: kept) ts

/-- Add what rules propose in turn at the front of `kept`. -/
def addProposals (limits : Limits) (query : Query) (goal : Ty) (kept : Kept) :
    List Rule → Except Fault Kept
  | [] => return kept
  | rule :: rules => do
      let proposals := rule.propose goal query limits
      let kept ← addDistinct kept proposals.terms
      match proposals.fault with
      | some fault => throw fault
      | none => addProposals limits query goal kept rules

/-- The expander that applies rules in order. -/
def ofRules (rules : List Rule) (limits : Limits) : Expander :=
  fun query goal => do
    let kept ← addProposals limits query goal [] rules
    return kept.reverse.map (·.2)

def standard (limits : Limits) : Expander :=
  ofRules Rule.standard limits

/-- The expander that proposes the same terms for every hole. -/
def fixed (terms : List Term) : Expander :=
  fun _ _ => return terms

end Expander

namespace Term

/-- The fillings of a hole in its place, recording how many there are. -/
def expandHole (expander : Expander) (query : Query) (t : Term) :
    StateT (List Nat) (Except Fault) (Option Term) := do
  match t with
  | .hole goal true => return some (.hole goal true)
  | .hole goal false =>
      let candidates ← expander query goal
      modify fun counts => counts ++ [candidates.length]
      return some (.filled goal candidates)
  | _ => return none

/-- A program with the fillings of every regular hole in its place, and how
many there are for each hole in pre-order. -/
def expandHoles (expander : Expander) (query : Query) (t : Term) :
    Except Fault (Term × List Nat) :=
  (rewriteM (expandHole expander query) t).run []

/-- The goals of the filled holes in pre-order, with their numbers of
fillings. -/
def frontiers (t : Term) : List (Ty × Nat) :=
  t.walk.filterMap fun
    | .filled goal candidates => some (goal, candidates.length)
    | _ => none

/-- The goals of the regular holes in pre-order, with their numbers of fillings,
up to the first hole that cannot be expanded. -/
def frontiersReached (expander : Expander) (query : Query) (t : Term) :
    List (Ty × Nat) :=
  let goals := t.walk.filterMap fun
    | .hole goal false => some goal
    | _ => none
  let expansions := goals.map fun goal =>
    (expander query goal).toOption.map fun candidates =>
      (goal, candidates.length)
  (expansions.takeWhile Option.isSome).filterMap id

end Term

end FunctionSynthesis
