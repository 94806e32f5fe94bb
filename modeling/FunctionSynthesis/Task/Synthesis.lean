import FunctionSynthesis.Example.Inference
import FunctionSynthesis.Search.Run
import FunctionSynthesis.Task
import FunctionSynthesis.Task.Solution
import FunctionSynthesis.Trial

/-!
# Solving tasks

A task is solved by a search for a function that has its examples. A search that
ends without a program and examples that say nothing usable are part of the
solution; a failure of the search itself ends the work. The clock is the same
for all tasks, so its readings go on from one to the next.
-/

namespace FunctionSynthesis

/-- The means by which tasks are solved. The settings decide how holes are expanded
and how candidates are run unless there is another expander or execution. -/
structure Workshop where
  settings : Settings := {}
  catalog : Option Catalog := none
  launcher : Launcher := Launcher.unavailable
  clock : Search.Clock := Search.Clock.stopped
  otherExpander : Option Expander := none
  otherExecution : Option Execution := none

namespace Workshop

def expander (workshop : Workshop) : Expander :=
  workshop.otherExpander.getD (Expander.standard workshop.settings.limits)

/-- How candidates are run. -/
def runner (workshop : Workshop) : Runner :=
  match workshop.otherExecution with
  | some execute => execute.runner
  | none => (Executor.ofSettings workshop.settings).run workshop.launcher

/-- What a failure to run a candidate means for a search. -/
def verdictOf (failure : Failure) : Search.Verdict :=
  match failure with
  | .problem (.operational message context) =>
      .broken (.problem (.operational message context))
  | failure => if failure.isOrdinary then .raised failure else .broken failure

/-- The tester that accepts the programs which have all examples of a task. -/
def tester (workshop : Workshop) (task : Task) : Search.Tester Unit where
  test _ program :=
    match Trial.acceptsBy workshop.runner task.examples task.arity program with
    | .ok true => (.accepted, ())
    | .ok false => (.rejected, ())
    | .error failure => (verdictOf failure, ())

/-- The search for the function of a task. -/
def plan (workshop : Workshop) (task : Task) (query : Query) :
    Search.Plan Unit where
  query := query
  expander := workshop.expander
  tester := workshop.tester task
  clock := workshop.clock
  limit := workshop.settings.timeoutSeconds

end Workshop

/-- How a task was worked on: the query that its examples gave, the search that
was made, what came of it, and how often the clock has been read by then. -/
structure Work where
  task : Task
  query : Option Query
  search : Option (Search.Progress Unit)
  result : Attempt Solution
  readings : Nat

namespace Workshop

/-- A failure that leaves a task without a function, or ends the work. A search
that ended without a program keeps its counters. -/
def unsolved (task : Task) (failure : Failure) : Attempt Solution :=
  match failure with
  | .problem (.exhausted message counters) =>
      return { name := task.name, counters,
               report := some (Report.ofProblem (.exhausted message counters)) }
  | .problem (.timedOut limit counters) =>
      return { name := task.name, counters,
               report := some (Report.ofProblem (.timedOut limit counters)) }
  | .fault fault =>
      if fault.kind.isValue then
        let context := Entries.ofFields [("function", .str task.name)]
        return { name := task.name,
                 report := some (Report.ofFault fault (.dict context)) }
      else .error (.fault fault)
  | failure => .error failure

/-- The solution with a program that was found. -/
def solved (task : Task) (program : Term) (counters : Counters) :
    Attempt Solution := do
  let code ← program.functionSource task.name task.arity
  return { name := task.name, code := some code, term := some program,
           counters := some counters }

/-- The solution of a task without examples. -/
def withoutExamples (task : Task) : Solution :=
  let fault := Fault.describe .value s!"{task.name} has no examples"
  { name := task.name, report := some (Report.ofFault fault .none) }

def search (workshop : Workshop) (readings : Nat) (task : Task)
    (query : Query) : Work :=
  let plan := workshop.plan task query
  let start := Search.start plan task.examples.length readings ()
  let progress := Search.run plan Search.ampleRounds start
  let state := progress.state
  let result :=
    match progress.outcome? with
    | some (.found program) => solved task program state.counters
    | some (.failed failure) => unsolved task failure
    | none => unsolved task Search.outOfRounds
  ⟨task, some query, some progress, result, state.readings⟩

/-- Work on a task when the clock has been read so often. Before the search the
query is summed up for the log, which fails when it cannot be written. -/
def work (workshop : Workshop) (readings : Nat) (task : Task) : Work :=
  if task.examples.isEmpty then
    ⟨task, none, none, .ok (withoutExamples task), readings⟩
  else
    match Query.ofExamples task.examples workshop.settings workshop.catalog with
    | .error fault =>
        ⟨task, none, none, unsolved task (.fault fault), readings⟩
    | .ok query =>
        match query.written with
        | .error fault =>
            ⟨task, some query, none, unsolved task (.fault fault), readings⟩
        | .ok _ => workshop.search readings task query

/-- Work on tasks in order, up to the first failure that ends the work. -/
def workOn (workshop : Workshop) (readings : Nat) : List Task → List Work
  | [] => []
  | task :: tasks =>
      let work := workshop.work readings task
      match work.result with
      | .error _ => [work]
      | .ok _ => work :: workshop.workOn work.readings tasks

def solve (workshop : Workshop) (tasks : List Task) :
    Attempt (List Solution) :=
  (workshop.workOn 0 tasks).mapM Work.result

end Workshop

end FunctionSynthesis
