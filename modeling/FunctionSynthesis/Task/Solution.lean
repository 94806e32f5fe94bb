import FunctionSynthesis.Report

/-!
# Solutions of tasks

A solution is what came of a task: the code of a function, or a report of why
there is none. `Solution.combined` puts solutions into one program text, in
which a function that was not found is a comment.
-/

namespace FunctionSynthesis

/-- What came of a task. -/
structure Solution where
  name : String
  code : Option String := none
  term : Option Term := none
  counters : Option Counters := none
  report : Option Report := none
  /-- How long it took, in thousandths of a second. -/
  elapsed : Value := .float (Binary64.zero false)
  deriving Inhabited

namespace Value

/-- A number with at most two fraction digits. Integers stay as they are. -/
def rounded (v : Value) : Except Fault Value :=
  match v.number? with
  | some (.float x) => return .float (x.roundToPlaces 2)
  | some (.int n) => return .int n
  | Option.none => throw <| Fault.describe .type
      s!"type {v.className} doesn't define __round__ method"

end Value

namespace Solution

def isFound (solution : Solution) : Bool :=
  solution.code.isSome

def toValue (solution : Solution) : Except Fault Value := do
  return .dict <| Entries.ofFields
    [("name", .str solution.name), ("success", .bool solution.isFound),
      ("code", solution.code.elim .none .str),
      ("stats", solution.counters.elim .none Counters.toValue),
      ("error", solution.report.elim .none Report.toValue),
      ("elapsed_ms", ← solution.elapsed.rounded)]

/-- A text without line feeds at its end. -/
def withoutLastLineEnds (text : String) : String :=
  String.ofList (text.toList.reverse.dropWhile (· = '\n')).reverse

/-- The part of a program that belongs to a solution. -/
def chunk (solution : Solution) : String :=
  match solution.code with
  | some code => code
  | none =>
      let reason := solution.report.elim "not synthesized" Report.message
      s!"# {solution.name}: {reason}\n"

/-- One program with all functions, a blank line after each. -/
def combined (solutions : List Solution) : String :=
  let chunks := solutions.map fun s => withoutLastLineEnds s.chunk
  "\n\n".intercalate chunks ++ "\n"

end Solution

namespace Tally

/-- The tally after a solution. -/
def count (tally : Tally) (solution : Solution) : Tally :=
  if solution.isFound then tally.succeed
  else solution.report.elim tally tally.add

end Tally

end FunctionSynthesis
