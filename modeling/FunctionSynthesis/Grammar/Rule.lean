import FunctionSynthesis.Grammar.Choice
import FunctionSynthesis.Grammar.Inhabitation
import FunctionSynthesis.Term.Idioms

/-!
# Rules

A rule proposes fillings for a hole from the goal type, the query and the limits
of the grammar. Proposals are not checked against examples, and some have holes
of their own. `Rule.standard` lists the rules in the order in which they are
tried:

* pool literals, the literal of the goal itself and variables that fit,
* for a union a hole per member, for lists literal arrays, for records literals
  with a hole per field,
* sums and products of integers, joined texts, telephone numbers, slices, case
  changes and `key=value` parsing,
* calls of catalog methods whose holes can be closed.
-/

namespace FunctionSynthesis

/-- What a rule proposes, in order, and what stopped it, if anything did. -/
structure Proposals where
  terms : List Term
  fault : Option Fault := none

namespace Proposals

def ofList (terms : List Term) : Proposals := ⟨terms, none⟩

def nothing : Proposals := ofList []

def stopped (fault : Fault) : Proposals := ⟨[], some fault⟩

/-- Proposals that need the result of an attempt. -/
def needing {α : Type} (attempt : Except Fault α) (propose : α → Proposals) :
    Proposals :=
  match attempt with
  | .ok a => propose a
  | .error fault => stopped fault

/-- First the one and, unless it was stopped, then the other. -/
def andThen (first : Proposals) (second : Unit → Proposals) : Proposals :=
  match first.fault with
  | some _ => first
  | none =>
      let rest := second ()
      ⟨first.terms ++ rest.terms, rest.fault⟩

instance : AndThen Proposals := ⟨andThen⟩

/-- What is made of the items that pass a test, as far as the test goes. -/
def selecting {α : Type} (test : α → Except Fault Bool) (make : α → Term) :
    List α → Proposals
  | [] => nothing
  | x :: xs =>
      needing (test x) fun passed =>
        ofList (if passed then [make x] else []) >> selecting test make xs

/-- All of the proposals, unless something stopped them. -/
def toList (proposals : Proposals) : Except Fault (List Term) :=
  match proposals.fault with
  | some fault => throw fault
  | none => return proposals.terms

end Proposals

/-- The rules that propose fillings for a hole. -/
inductive Rule where
  | poolLiterals
  | goalLiteral
  | fittingVariables
  | caseSplit
  | arrays
  | records
  | arithmetic
  | joinedTexts
  | phoneNumbers
  | slices
  | caseChanges
  | queryStrings
  | catalogCalls
  deriving DecidableEq, Inhabited

namespace Rule

/-- The rules in the order in which they are tried. -/
def standard : List Rule :=
  [.poolLiterals, .goalLiteral, .fittingVariables, .caseSplit, .arrays, .records,
    .arithmetic, .joinedTexts, .phoneNumbers, .slices, .caseChanges,
    .queryStrings, .catalogCalls]

/-! ### Terminals -/

def proposePoolLiterals (goal : Ty) (query : Query) : Proposals :=
  .selecting (fun value => value.fits goal) .literal query.pools.all

/-- The literal that the goal allows only. -/
def proposeGoalLiteral : Ty → List Term
  | .literal value => [.literal value]
  | .text value => [Term.str value]
  | _ => []

def proposeVariables (goal : Ty) (query : Query) : Proposals :=
  .selecting (fun binding => binding.2.checkedLe goal)
    (fun binding => .var binding.1) query.env

/-! ### Shapes that follow the goal -/

/-- For a union a hole per member, to be filled from the context. -/
def proposeCaseSplit : Ty → List Term
  | .union members => members.map fun member => .hole member true
  | _ => []

private def truths (bs : List Bool) : Term :=
  .array (bs.map fun b => .literal (.bool b))

/-- Literal arrays of pool values, shorter ones first. -/
def proposeArrays (goal : Ty) (query : Query) (limits : Limits) : Proposals :=
  match query.arrayItems? goal with
  | none => .nothing
  | some .truthValues =>
      .ofList [truths [true, false], truths [true, false, true]]
  | some (.fromPool pool) =>
      .needing (Limits.count limits.maxArrayArity) fun longest =>
        let arities := (List.range (min longest.toNat pool.length)).map (· + 1)
        .ofList <| arities.flatMap fun arity =>
          (arrangements arity pool).map fun values =>
            .array (values.map .literal)

/-- For a record literals with some of its keys and a hole per value, fewer
keys first. -/
def proposeRecords : Ty → List Term
  | .record fields =>
      let keys := fields.map (·.1)
      let hole (key : String) : Term :=
        .hole ((Ty.firstField? fields key).getD .bottom) false
      let widths := (List.range keys.length).map (· + 1)
      widths.flatMap fun width =>
        (choices width keys).map fun selected =>
          .record (selected.map fun key => (Term.str key, hole key))
  | _ => []

/-! ### Integers and texts -/

/-- An integer may be wanted: for a union, by one of its members. -/
def wantsInteger : Ty → Bool
  | .union members => members.any Ty.isIntegerLike
  | goal => goal.isIntegerLike

def wantsString (goal : Ty) : Bool :=
  goal.isStringLike

/-- Sums and products of two variables, of a variable and a pool integer, sums
of two pool integers and of three variables. -/
def proposeArithmetic (goal : Ty) (query : Query) (limits : Limits) :
    Proposals :=
  if !wantsInteger goal then .nothing
  else
    let names := query.integerVariables
    let integers := query.pools.integers
    .needing (Limits.leading limits.arithmeticConstants integers) fun constants =>
      let ofVariables := (orderedPairs names).flatMap fun (a, b) =>
        [(Term.var a).plus (.var b), (Term.var a).times (.var b)]
      let withConstants := names.flatMap fun name =>
        constants.flatMap fun c =>
          let x := Term.var name
          let k := Term.literal c
          [x.plus k, k.plus x, x.times k, k.times x]
      .ofList (ofVariables ++ withConstants) >>
        (.needing (Limits.first limits.constantPairs (pairs integers)) fun sums =>
          .ofList (sums.map fun (a, b) => (Term.literal a).plus (.literal b))) >>
        (if names.length < 3 then .nothing
        else
          .needing (Limits.first limits.variableTriples (orderedTriples names))
            fun triples =>
              .ofList <| triples.flatMap fun (a, b, c) =>
                let x := Term.var a
                let y := Term.var b
                let z := Term.var c
                [(x.plus y).plus z, x.plus (y.plus z)])

/-- Joins of two variables, and of a variable and a pool text. -/
def proposeJoinedTexts (goal : Ty) (query : Query) (limits : Limits) :
    Proposals :=
  if !wantsString goal then .nothing
  else
    let names := query.stringVariables
    .needing (Limits.leading limits.concatConstants query.pools.strings)
      fun constants =>
        .ofList <| names.flatMap fun name =>
          let x := Term.var name
          let others := names.filter fun other => other != name
          others.map (fun other => x.plus (.var other)) ++
            constants.flatMap fun c => [x.plus (.literal c), (Term.literal c).plus x]

/-- Terms made from every text variable when a text is wanted. -/
def fromTexts (goal : Ty) (query : Query) (make : Term → List Term) :
    List Term :=
  if wantsString goal then
    query.stringVariables.flatMap fun name => make (.var name)
  else []

def proposePhoneNumbers (goal : Ty) (query : Query) : List Term :=
  fromTexts goal query fun x => [x.phoneNumber]

def sliceStarts : List Int := [0, 1, 2, 3, 6]

def sliceStops : List Int := [3, 6, 10]

/-- Variables reversed, and cut at fixed positions. -/
def proposeSlices (goal : Ty) (query : Query) : List Term :=
  fromTexts goal query fun x =>
    x.reversed :: sliceStarts.flatMap fun start =>
      (sliceStops.filter fun stop => start < stop).map fun stop =>
        x.between (.int start) (.int stop)

def caseMethods : List String :=
  ["capitalize", "title", "upper", "lower"]

/-- Variables in another case. -/
def proposeCaseChanges (goal : Ty) (query : Query) : List Term :=
  fromTexts goal query fun x =>
    caseMethods.map fun method => .call x method []

/-- How many pairs a parsed text has at most. -/
def maxQueryPairs : Nat := 2

/-- For a record dictionaries parsed from a variable: from a single pair, and
from the first pairs of several while the record has that many fields. -/
def proposeQueryStrings (goal : Ty) (query : Query) : List Term :=
  match goal with
  | .record fields =>
      let counts := (List.range maxQueryPairs).map (· + 1)
      let counts := counts.takeWhile fun count =>
        count ≤ 1 || count ≤ fields.length
      query.stringVariables.flatMap fun name =>
        let x := Term.var name
        .record [x.keyValueEntry] :: counts.map fun count =>
          .record ((x.queryPairs count).map Term.keyValueEntry)
  | _ => []

/-! ### Methods of the catalog -/

/-- A call with holes for the receiver and the arguments, or nothing when the
result does not fit the goal or a hole could never be closed. -/
def callFor? (goal : Ty) (query : Query) (limits : Limits)
    (className method : String) (signature : Signature) :
    Except Fault (Option Term) := do
  match signature.typesFor? className goal with
  | none => return none
  | some (receiver, _) =>
      if !(← signature.yields goal) then return none
      let holes := receiver :: signature.arguments
      if ← holes.allM fun t => query.isInhabited limits [goal] t then
        let args := signature.arguments.map fun t => Term.hole t false
        if signature.isProperty then
          return some (.field (.hole receiver false) method args)
        else
          return some (.call (.hole receiver false) method args)
      else
        return none

/-- The calls for a goal among some entries of the catalog. -/
def callsAmong (goal : Ty) (query : Query) (limits : Limits) :
    List (String × String × Signature) → Proposals
  | [] => .nothing
  | (className, method, signature) :: entries =>
      .needing (callFor? goal query limits className method signature)
        fun call => .ofList call.toList >> callsAmong goal query limits entries

def proposeCatalogCalls (goal : Ty) (query : Query) (limits : Limits) :
    Proposals :=
  callsAmong goal query limits query.callableEntries

/-! ### All rules -/

def propose (rule : Rule) (goal : Ty) (query : Query) (limits : Limits) :
    Proposals :=
  match rule with
  | .poolLiterals => proposePoolLiterals goal query
  | .goalLiteral => .ofList (proposeGoalLiteral goal)
  | .fittingVariables => proposeVariables goal query
  | .caseSplit => .ofList (proposeCaseSplit goal)
  | .arrays => proposeArrays goal query limits
  | .records => .ofList (proposeRecords goal)
  | .arithmetic => proposeArithmetic goal query limits
  | .joinedTexts => proposeJoinedTexts goal query limits
  | .phoneNumbers => .ofList (proposePhoneNumbers goal query)
  | .slices => .ofList (proposeSlices goal query)
  | .caseChanges => .ofList (proposeCaseChanges goal query)
  | .queryStrings => .ofList (proposeQueryStrings goal query)
  | .catalogCalls => proposeCatalogCalls goal query limits

end Rule

end FunctionSynthesis
