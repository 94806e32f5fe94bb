import FunctionSynthesis.Problem

/-!
# Reports of failures

A report says of a failure what people are told about it. `Report.ofFailure`
reports any failure, and a `Tally` counts the successes of a batch and keeps
the reports of what failed.
-/

namespace FunctionSynthesis

/-- What people are told about a failure. -/
structure Report where
  category : Category
  message : String
  /-- The kind of failure, unless it was a request to end the program. -/
  source : Option String
  suggestion : Option String
  /-- The circumstances by name, as far as they were told. -/
  context : Value
  recoverable : Bool
  deriving Inhabited

namespace Report

/-- The category of a fault and what to try against it, if its kind is one that
is expected to occur. -/
def classify? (kind : Fault.Kind) : Option (Category × Option String) :=
  if kind = .fileNotFound then some (.fileNotFound, some "Check path exists")
  else if kind = .interrupt then some (.cancelled, none)
  else if kind = .timeout then some (.timeout, some "Increase the timeout")
  else if kind.isSystem then some (.external, none)
  else if kind.isValue || kind = .type then some (.validation, none)
  else none

def ofProblem (problem : Problem) : Report where
  category := problem.category
  message := problem.message
  source := some problem.className
  suggestion := problem.suggestion
  context := .dict problem.context
  recoverable := problem.isRecoverable

def ofFault (fault : Fault) (context : Value) : Report :=
  let source :=
    if fault.kind.endsProgram then none else some fault.kind.text
  match classify? fault.kind with
  | some (category, suggestion) =>
      ⟨category, fault.message, source, suggestion, context, true⟩
  | none =>
      ⟨.internal, fault.message, source,
        some "This may be a bug in the synthesis engine", context, false⟩

/-- The report of a failure in given circumstances, which are added to what a
problem knows itself. -/
def ofFailure (failure : Failure) (context : Option Entries) : Report :=
  match failure with
  | .fault fault => ofFault fault (context.elim .none .dict)
  | .problem problem =>
      let report := ofProblem problem
      match context with
      | some more =>
          { report with context := .dict (Entries.merge problem.context more) }
      | none => report

/-- The report of a failure in circumstances that are told by any value. What a
problem knows itself is only added to by names. -/
def ofFailureIn (failure : Failure) (context : Value) : Except Fault Report :=
  match failure, context with
  | .fault fault, context => return ofFault fault context
  | .problem problem, .dict more => return ofFailure (.problem problem) (some more)
  | .problem problem, context =>
      if context.isTruthy then
        throw <| Fault.describe .type
          s!"'{context.qualifiedClassName}' object is not a mapping"
      else return ofProblem problem

/-- A report on one line, and what to try on a second. -/
def compact (report : Report) : String :=
  let headline := s!"[{report.category.text}] {report.message}"
  match report.suggestion with
  | some suggestion =>
      if suggestion = "" then headline else s!"{headline}\n  Try: {suggestion}"
  | none => headline

/-- A report as a value, by the names of its parts. -/
def toValue (report : Report) : Value :=
  .dict <| Entries.ofFields
    [("category", .str report.category.text),
      ("message", .str report.message),
      ("suggestion", report.suggestion.elim .none .str),
      ("recoverable", .bool report.recoverable),
      ("context", report.context)]

end Report

/-- The successes of a batch and the reports of what failed. -/
structure Tally where
  successes : Nat := 0
  reports : List Report := []
  deriving Inhabited

namespace Tally

def succeed (tally : Tally) : Tally :=
  { tally with successes := tally.successes + 1 }

def add (tally : Tally) (report : Report) : Tally :=
  { tally with reports := tally.reports ++ [report] }

def hasFailures (tally : Tally) : Bool :=
  !tally.reports.isEmpty

/-- How many reports a summary lists. -/
def listed : Nat := 10

/-- The counts and the first reports. -/
def summary (tally : Tally) : String :=
  let failed := tally.reports.length
  let total := tally.successes + failed
  if failed = 0 then s!"All {total} functions synthesized"
  else
    let headline := s!"{tally.successes}/{total} synthesized, {failed} errors:"
    let lines := (tally.reports.take listed).mapIdx fun i report =>
      s!"  {i + 1}. {report.compact}"
    let rest :=
      if listed < failed then [s!"  ... and {failed - listed} more"] else []
    "\n".intercalate (headline :: lines ++ rest)

end Tally

end FunctionSynthesis
