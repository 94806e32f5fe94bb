import FunctionSynthesis.Grammar.Expander
import FunctionSynthesis.Search.Filling
import FunctionSynthesis.Search.Queue
import FunctionSynthesis.Value.Number

/-!
# Best-first search

The search keeps a queue of partial programs, cheapest first. In every round the
next one is taken, all of its regular holes are expanded at once, and every
combination of fillings is considered:

* one that has holes is dropped when its type does not fit the goal and queued
  otherwise, after its dependent holes have been filled if no other is left,
* one without holes is tested.

The first program that passes its test ends the search. So do an empty queue,
a passed deadline and a failure that is not the fault of a candidate. A run is a
function of the plan: the readings of the clock and the state of the tester are
part of its state, and what happened is kept as a list of events.
-/

namespace FunctionSynthesis.Search

/-- What a test says of a program. -/
inductive Verdict where
  | accepted
  | rejected
  /-- The test itself went wrong, which counts against the program. -/
  | raised (failure : Failure)
  /-- Nothing can be tested any more. -/
  | broken (failure : Failure)

/-- Something that tests programs one after the other. -/
structure Tester (σ : Type) where
  test : σ → Term → Verdict × σ

/-- The readings of a clock in turn. -/
abbrev Clock := Nat → Number

/-- The clock that stands still. -/
def Clock.stopped : Clock := fun _ => .int 0

/-- The clock that advances by the same step with every reading. -/
def Clock.steady (step : Number) : Clock := step.scale

/-- What is searched for, and by which means. An absent limit is no limit. -/
structure Plan (σ : Type) where
  query : Query
  expander : Expander
  tester : Tester σ
  clock : Clock := Clock.stopped
  limit : Value := .none

/-- What happened in a search. -/
inductive Event where
  | popped (program : Term)
  | expanded (frontiers : List (Ty × Nat))
  | typed (candidate : Term)
  | eliminated (candidate : Term)
  | dropped (candidate : Term)
  | queued (program : Term) (score : Int)
  | tested (program : Term) (verdict : Verdict)

/-- The state of a search: the programs that wait, the counters, the tester's
state, how often the clock was read, and the events with the latest first. -/
structure State (σ : Type) where
  queue : Queue
  counters : Counters
  tester : σ
  readings : Nat
  events : List Event

namespace State

variable {σ : Type}

def record (state : State σ) (event : Event) : State σ :=
  { state with events := event :: state.events }

/-- The state after the clock has been read for a deadline, if there is one. -/
def readFor (deadline : Option Number) (state : State σ) : State σ :=
  if deadline.isSome then { state with readings := state.readings + 1 } else state

def testedPrograms (state : State σ) : List Term :=
  state.events.reverse.filterMap fun
    | .tested program _ => some program
    | _ => none

end State

inductive Outcome where
  | found (program : Term)
  | failed (failure : Failure)

/-- A program that was found, with what the search has counted and the size of the
program. -/
structure Finding where
  program : Term
  counters : Counters
  size : Nat

/-- A search that goes on or has ended. -/
inductive Progress (σ : Type) where
  | ongoing (state : State σ)
  | ended (outcome : Outcome) (state : State σ)

namespace Progress

variable {σ : Type}

def state : Progress σ → State σ
  | .ongoing s => s
  | .ended _ s => s

def outcome? : Progress σ → Option Outcome
  | .ongoing _ => none
  | .ended outcome _ => some outcome

/-- What a search that found a program gives. -/
def finding? : Progress σ → Option Finding
  | .ended (.found program) s => some ⟨program, s.counters, program.size⟩
  | _ => none

/-- Go on with another step unless the search has ended. -/
def next (progress : Progress σ) (step : State σ → Progress σ) : Progress σ :=
  match progress with
  | .ongoing s => step s
  | .ended outcome s => .ended outcome s

def fail (failure : Failure) (state : State σ) : Progress σ :=
  .ended (.failed failure) state

/-- A step that needs the result of an attempt. -/
def needing {α : Type} (attempt : Except Fault α) (state : State σ)
    (step : α → Progress σ) : Progress σ :=
  match attempt with
  | .ok a => step a
  | .error fault => fail (.fault fault) state

end Progress

variable {σ : Type}

/-! ### The deadline -/

/-- The deadline of a plan when the clock reads `now`, if it has one. -/
def deadline? (limit : Value) (now : Number) : Except Fault (Option Number) :=
  match limit with
  | .none => return none
  | limit =>
      match limit.number? with
      | some span => return some (← now.add span)
      | none => throw <| Fault.describe .type
          (s!"unsupported operand type(s) for +: 'float' " ++
            s!"and '{limit.className}'")

/-- What ends a search when its limit is reached. The problem shows the limit, so
that it is a fault if the limit cannot be written. -/
def timedOut (limit : Value) (counters : Counters) : Failure :=
  if limit.isWritable then .problem (.timedOut limit (some counters))
  else .fault (Fault.tooManyDigits none)

/-- Read the clock if there is a deadline, and end the search when it has
passed. -/
def checkDeadline (plan : Plan σ) (deadline : Option Number)
    (state : State σ) : Progress σ :=
  match deadline with
  | none => .ongoing state
  | some instant =>
      let now := plan.clock state.readings
      let state := { state with readings := state.readings + 1 }
      if instant.isLess now then
        .fail (timedOut plan.limit state.counters) state
      else .ongoing state

/-! ### Candidates -/

/-- Queue a program unless it is too large. -/
def enqueue (plan : Plan σ) (program : Term) (state : State σ) : Progress σ :=
  .needing (plan.query.admits program) state fun admitted =>
    if admitted then
      let score := plan.query.score program
      .ongoing <| State.record
        { state with queue := state.queue.push program score }
        (.queued program score)
    else .ongoing state

/-- Fill the dependent holes of a candidate that has no others, and queue it. -/
def resolve (plan : Plan σ) (candidate : Term) (state : State σ) :
    Progress σ :=
  .needing (candidate.fillDependent plan.query) state fun
    | (none, _) => .ongoing (state.record (.dropped candidate))
    | (some resolved, filled) =>
        if filled = candidate.dependentHoles then enqueue plan resolved state
        else
          .fail (.problem (.invariant
            "dependent hole count changed during resolution"
            (Entries.ofFields
              [("counted", .int candidate.dependentHoles),
                ("filled", .int filled)]))) state

def considerPartial (plan : Plan σ) (candidate : Term) (state : State σ) :
    Progress σ :=
  let query := plan.query
  let state := state.record (.typed candidate)
  match candidate.typeIn query.catalog query.env with
  | .error error => .fail error.toFailure state
  | .ok type =>
      .needing (type.checkedLe query.goal) state fun fits =>
        if !fits then
          let counters := { state.counters with
            eliminated := state.counters.eliminated + 1 }
          .ongoing (State.record { state with counters } (.eliminated candidate))
        else if candidate.regularHoles = 0 then resolve plan candidate state
        else enqueue plan candidate state

def test (plan : Plan σ) (program : Term) (state : State σ) : Progress σ :=
  let counters := { state.counters with tested := state.counters.tested + 1 }
  let (verdict, tester) := plan.tester.test state.tester program
  let state := State.record { state with counters, tester }
    (.tested program verdict)
  match verdict with
  | .accepted => .ended (.found program) state
  | .broken failure => .fail failure state
  | _ => .ongoing state

def considerClosed (plan : Plan σ) (candidate : Term) (state : State σ) :
    Progress σ :=
  .needing (plan.query.admits candidate) state fun admitted =>
    if admitted then test plan candidate state else .ongoing state

def consider (plan : Plan σ) (candidate : Term) (state : State σ) :
    Progress σ :=
  if candidate.isClosed then considerClosed plan candidate state
  else considerPartial plan candidate state

/-! ### Rounds -/

/-- Visit every way to choose a number below each count, the last number
changing fastest, until the search ends. -/
def eachSelection (visit : List Int → State σ → Progress σ) :
    List Nat → List Int → State σ → Progress σ
  | [], chosen, state => visit chosen.reverse state
  | count :: counts, chosen, state =>
      (List.range count).foldl (fun progress (i : Nat) => progress.next fun s =>
        eachSelection visit counts (Int.ofNat i :: chosen) s) (.ongoing state)

/-- Consider the candidate that a selection picks from an expanded program. -/
def visit (plan : Plan σ) (deadline : Option Number) (expanded : Term)
    (selection : List Int) (state : State σ) : Progress σ :=
  (checkDeadline plan deadline state).next fun state =>
    .needing (expanded.materialize selection) state fun candidate =>
      consider plan candidate state

/-- Expand a program and consider every choice of fillings. -/
def explore (plan : Plan σ) (deadline : Option Number) (program : Term)
    (state : State σ) : Progress σ :=
  match program.expandHoles plan.expander plan.query with
  | .error fault =>
      let reached := program.frontiersReached plan.expander plan.query
      .fail (.fault fault) (state.record (.expanded reached))
  | .ok (expanded, counts) =>
      let state := state.record (.expanded expanded.frontiers)
      if counts.isEmpty then
        (checkDeadline plan deadline state).next (consider plan program)
      else eachSelection (visit plan deadline expanded) counts [] state

/-- Take the next program from the queue and explore it. -/
def round (plan : Plan σ) (deadline : Option Number) (state : State σ) :
    Progress σ :=
  (checkDeadline plan deadline state).next fun state =>
    match state.queue.pop? with
    | none =>
        .fail (.problem (.exhausted Problem.nothingFound (some state.counters)))
          state
    | some (program, queue) =>
        explore plan deadline program
          (State.record { state with queue } (.popped program))

/-- At most so many rounds. -/
def rounds (plan : Plan σ) (deadline : Option Number) :
    Nat → State σ → Progress σ
  | 0, state => .ongoing state
  | n + 1, state => (round plan deadline state).next (rounds plan deadline n)

/-- The score of the program that a search starts from. -/
def seedScore : Int := 1

def start (plan : Plan σ) (examples : Int) (readings : Nat) (tester : σ) :
    State σ where
  queue := Queue.empty.push (.hole plan.query.goal false) seedScore
  counters := ⟨examples, 0, 0⟩
  tester := tester
  readings := readings
  events := []

/-- Search for at most `limit` rounds from a state. The clock is read once for
the deadline, and the query is summed up, as a log wants it, before the first
round. -/
def run (plan : Plan σ) (limit : Nat) (state : State σ) : Progress σ :=
  let now := plan.clock state.readings
  .needing (deadline? plan.limit now) state fun deadline =>
    let state := state.readFor deadline
    .needing plan.query.written state fun _ => rounds plan deadline limit state

/-- A number of rounds that no search is expected to reach. -/
def ampleRounds : Nat := Nat.pow 10 15

/-- What becomes of a search that has not ended by then: it would go on until the
memory is used up. -/
def outOfRounds : Failure := .fault (Fault.bare .memory)

end FunctionSynthesis.Search
