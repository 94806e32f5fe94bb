import FunctionSynthesis.Log.Logger
import FunctionSynthesis.Task.Synthesis

/-!
# Journals

The journal of the work on a task is what a log has to tell of it: in detail
what the search did, which only interests people who look for an error, and at
the end that the task is completed and how.
-/

namespace FunctionSynthesis

namespace Log

/-- The logger of a part of the search. -/
def searchPart (part : String) : String := s!"{rootName}.synthesis.{part}"

/-- A detail of the search. -/
def detail (part message : String) : Record where
  logger := searchPart part
  level := debugLevel
  message := message

end Log

namespace Search

open Log

/-- What a log tells of the expansion of a hole. -/
def expansionNote (goal : Ty) (candidates : Nat) : Record :=
  detail "expansion" <|
    if candidates = 0 then s!"No expansions for goal type {goal.display}"
    else s!"Expanded hole {goal.display} into {candidates} candidates"

/-- What a log tells of an event in the search for the function of a task. -/
def Event.notes (task : Task) (query : Query) : Event → List Record
  | .expanded frontiers => frontiers.map fun (goal, n) => expansionNote goal n
  | .typed candidate =>
      (candidate.missedCalls query.catalog query.env).map fun (name, method) =>
        detail "interpreter" s!"No catalog entry for {name}.{method}"
  | .dropped _ =>
      [detail "engine" "Dropping candidate with unresolvable dependent hole"]
  | .tested _ .accepted =>
      [detail "oracle" s!"Candidate passed {task.examples.length} examples"]
  | .tested _ (.raised failure) =>
      [detail "engine" <|
        s!"Oracle raised {failure.message} for candidate, " ++
          "treating as failure"]
  | _ => []

/-- What a log tells of the end of a search. -/
def Outcome.notes (counters : Counters) : Outcome → List Record
  | .found _ =>
      [detail "engine" s!"Found program after {counters.tested} tests"]
  | .failed (.problem (.timedOut _ _)) =>
      [detail "engine" s!"Timed out: {counters.toValue.literalText}"]
  | .failed (.problem (.exhausted _ _)) =>
      [detail "engine" s!"Queue exhausted: {counters.toValue.literalText}"]
  | .failed _ => []

/-- Whether a search got as far as its first round. Before that only a fault can
end it. -/
def Progress.hasBegun {σ : Type} : Progress σ → Bool
  | .ended (.failed (.fault _)) s => !s.events.isEmpty
  | _ => true

/-- What a log tells of a search. -/
def Progress.notes {σ : Type} (task : Task) (query : Query)
    (progress : Progress σ) : List Record :=
  let state := progress.state
  let beginning :=
    if progress.hasBegun then
      [detail "engine" s!"Synthesizing {query.summary}"]
    else []
  beginning ++ state.events.reverse.flatMap (Event.notes task query) ++
    progress.outcome?.elim [] (Outcome.notes state.counters)

end Search

namespace Work

open Log

/-- The logger for the work on a task. -/
def logger (work : Work) : Logger where
  name := Logger.fullName "tasks"
  context :=
    { component := "tasks", operation := "synthesize",
      extra := Entries.ofFields [("function", .str work.task.name)] }

/-- How the work on a task came out, if it did not end all work. -/
def outcomeText? (work : Work) : Option String :=
  match work.result with
  | .error _ => none
  | .ok solution =>
      if solution.isFound then some "FOUND"
      else solution.report.map fun report => report.category.text

/-- The record of the end of the work on a task. -/
def completion (work : Work) : Record :=
  work.logger.make infoLevel s!"{work.task.name} completed"
    (Entries.ofFields <|
      [("operation", .str work.task.name),
        (Logger.elapsedField, .str Logger.elapsedText),
        ("examples", .int work.task.examples.length)] ++
      work.outcomeText?.toList.map fun text => ("outcome", .str text))
    none

/-- What a log tells of the query that the examples gave. -/
def queryNotes (work : Work) (query : Query) : List Record :=
  detail "examples" s!"Pools: {query.pools.toValue.literalText}" ::
    if query.isWritable then
      [work.logger.make debugLevel s!"Searching {query.summary}" [] none]
    else []

/-- What a log tells of the work on a task. -/
def journal (work : Work) : List Record :=
  if work.task.examples.isEmpty then
    [work.logger.make warningLevel "Skipping function without examples" [] none]
  else
    let found :=
      match work.query with
      | none => []
      | some query =>
          work.queryNotes query ++
            work.search.elim [] (Search.Progress.notes work.task query)
    found ++ [work.completion]

end Work

end FunctionSynthesis
