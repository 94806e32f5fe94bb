import FunctionSynthesis.Proofs.Search.Accounting
import FunctionSynthesis.Proofs.Search.Exactness
import FunctionSynthesis.Proofs.Trial.Acceptance
import FunctionSynthesis.Task.Synthesis

/-!
# Solved tasks

A task is only solved by a program that the search found, and the search only finds
what the trials accept, so that the code of a solution has all of the examples
(`reproduces_of_work`).
-/

namespace FunctionSynthesis

open Attempt

/-! ### Searches -/

theorem Query.isLess_of_admits {query : Query} {t : Term}
    (admitted : query.admits t = .ok true) :
    ∃ limit, query.maxSize.number? = some limit ∧ limit.isLess (.int t.size) = false := by
  unfold admits at admitted
  cases known : query.maxSize.number? with
  | none =>
      rw [known] at admitted
      exact (throw_eq_ok_iff.1 admitted).elim
  | some limit =>
      rw [known] at admitted
      exact ⟨limit, rfl, by simpa using pure_eq_ok_iff.1 admitted⟩

theorem Query.maxSize_ofExamples {examples : List Example} {settings : Settings}
    {catalog : Option Catalog} {query : Query}
    (made : ofExamples examples settings catalog = .ok query) :
    query.maxSize = settings.maxSize := by
  obtain ⟨_, _, rest⟩ := bind_eq_ok_iff.1 made
  obtain ⟨_, _, joined⟩ := bind_eq_ok_iff.1 rest
  obtain rfl := pure_eq_ok_iff.1 joined
  rfl

namespace Search

variable {σ : Type} {plan : Plan σ} {n : Nat} {examples : Int} {readings : Nat} {memory : σ}
  {program : Term}

/-- A program that is found was accepted by the tester in some state of it. It is one
of the programs that were tested, closed and not too large. -/
theorem found_of_run
    (ended : (run plan n (start plan examples readings memory)).outcome? =
      some (.found program)) :
    let s := (run plan n (start plan examples readings memory)).state
    program.isClosed = true ∧ plan.query.admits program = .ok true ∧
      (∃ earlier, (plan.tester.test earlier program).1 = .accepted) ∧
      1 ≤ s.counters.tested ∧ s.counters.examples = examples ∧
      (plan.ProposesUnfilled → program.Everywhere fun node => node.isUnfilled = true) := by
  intro s
  obtain ⟨made, history, initial, conclusion⟩ :=
    exists_history_of_satisfies (settled_run plan n examples readings memory)
  cases conclusion _ ended with
  | @found _ earlier last _ =>
      have member : (program, Verdict.accepted) ∈ s.trials := by
        rw [last]
        exact List.mem_append_right earlier (List.mem_singleton_self _)
      obtain ⟨closed, admitted⟩ :=
        Query.isTestable_iff.1 (history.isTestable_of_mem_trials member)
      have replayed : (program, Verdict.accepted) ∈
          (plan.tester.replay memory (made.filter plan.query.isTestable)).1 := by
        rw [history.trials]
        exact member
      obtain ⟨state, verdict⟩ := Tester.exists_verdict_of_mem replayed
      have counted : 1 ≤ s.counters.tested := by
        rw [history.tested]
        exact List.length_pos_of_mem member
      refine ⟨closed, admitted, ⟨state, verdict.symm⟩, counted, history.examples, ?_⟩
      intro unfilled
      have tested : program ∈ s.testedPrograms := by
        rw [State.testedPrograms_eq_map]
        exact List.mem_map_of_mem member
      exact unfilled.everywhere_of_testable
        (history.testable_of_mem unfilled.staysUnfilled initial tested)

end Search

/-! ### Solutions -/

namespace Workshop

/-- A tester of a task accepts what has all of its examples. -/
theorem acceptsBy_of_tester {workshop : Workshop} {task : Task} {program : Term}
    (accepted : ((workshop.tester task).test () program).1 = .accepted) :
    Trial.acceptsBy workshop.runner task.examples task.arity program = .ok true := by
  unfold tester at accepted
  dsimp only at accepted
  split at accepted
  next passed => exact passed
  next => cases accepted
  next failure _ =>
    unfold verdictOf at accepted
    split at accepted
    · cases accepted
    · split at accepted <;> cases accepted

/-- A task that is given up has a report for a solution, and no code. -/
theorem exists_report_of_unsolved {task : Task} {failure : Failure} {solution : Solution}
    (given : unsolved task failure = .ok solution) :
    ∃ counters report, solution = { name := task.name, counters, report := some report } := by
  unfold unsolved at given
  split at given
  · obtain rfl := pure_eq_ok_iff.1 given
    exact ⟨_, _, rfl⟩
  · obtain rfl := pure_eq_ok_iff.1 given
    exact ⟨_, _, rfl⟩
  · split at given
    · obtain rfl := pure_eq_ok_iff.1 given
      exact ⟨none, _, rfl⟩
    · cases given
  · cases given

/-- A solution comes of a task without examples, of a failure by which the task is given
up, or of a program that a search found. -/
theorem cases_of_work {workshop : Workshop} {readings : Nat} {task : Task}
    {solution : Solution} (worked : (workshop.work readings task).result = .ok solution) :
    solution = withoutExamples task ∨
    (∃ failure, unsolved task failure = .ok solution) ∨
    ∃ query program,
      Query.ofExamples task.examples workshop.settings workshop.catalog = .ok query ∧
      query.isWritable = true ∧
      let plan := workshop.plan task query
      let progress := Search.run plan Search.ampleRounds
        (Search.start plan task.examples.length readings ())
      progress.outcome? = some (.found program) ∧
        solved task program progress.state.counters = .ok solution := by
  unfold work at worked
  split at worked
  · exact Or.inl (Except.ok.inj worked).symm
  · right
    split at worked
    next fault _ => exact Or.inl ⟨.fault fault, worked⟩
    next query made =>
      split at worked
      next fault _ => exact Or.inl ⟨.fault fault, worked⟩
      next written =>
        unfold search at worked
        dsimp only at worked
        split at worked
        next program ended =>
          exact Or.inr ⟨query, program, made, Query.isWritable_of_written written, ended, worked⟩
        next failure _ => exact Or.inl ⟨failure, worked⟩
        next _ => exact Or.inl ⟨_, worked⟩

/-- A solution with code comes of a search that found a program. -/
theorem exists_found_of_work {workshop : Workshop} {readings : Nat} {task : Task}
    {solution : Solution} (worked : (workshop.work readings task).result = .ok solution)
    (coded : solution.code.isSome = true) :
    ∃ query program,
      Query.ofExamples task.examples workshop.settings workshop.catalog = .ok query ∧
      query.isWritable = true ∧
      let plan := workshop.plan task query
      let progress := Search.run plan Search.ampleRounds
        (Search.start plan task.examples.length readings ())
      progress.outcome? = some (.found program) ∧
        solved task program progress.state.counters = .ok solution := by
  obtain rfl | ⟨failure, given⟩ | found := cases_of_work worked
  · exact Bool.noConfusion coded
  · obtain ⟨_, _, rfl⟩ := exists_report_of_unsolved given
    exact Bool.noConfusion coded
  · exact found

/-- A solution with code has the code of a program without holes that is not larger
than the settings allow and that passes the trial of every example of its task, in
trials that go on after a failure. It counts at least the test of this program, and
there is nothing to report. -/
theorem reproduces_of_work (workshop : Workshop) (readings : Nat) (task : Task)
    {solution : Solution} {code : String}
    (worked : (workshop.work readings task).result = .ok solution)
    (coded : solution.code = some code) :
    ∃ (program : Term) (counters : Counters) (limit : Number) (trials : List Trial),
      solution.name = task.name ∧ solution.term = some program ∧
      solution.counters = some counters ∧ solution.report = none ∧
      program.isClosed = true ∧
      ((∀ query, Query.ofExamples task.examples workshop.settings workshop.catalog = .ok query →
          (workshop.plan task query).ProposesUnfilled) →
        program.Everywhere fun node => node.isUnfilled = true) ∧
      workshop.settings.maxSize.number? = some limit ∧
      limit.isLess (.int program.size) = false ∧
      (∀ largest, workshop.settings.maxSize = .int largest →
        (program.size : Int) ≤ largest) ∧
      program.functionSource task.name task.arity = .ok code ∧
      Trial.allBy workshop.runner task.examples task.arity program false = .ok trials ∧
      trials.map (·.wanted) = task.examples ∧ (∀ trial ∈ trials, trial.passed = true) ∧
      counters.examples = task.examples.length ∧ 1 ≤ counters.tested := by
  obtain ⟨query, program, made, _, ended, given⟩ :=
    exists_found_of_work worked (Option.isSome_iff_exists.2 ⟨code, coded⟩)
  obtain ⟨text, written, joined⟩ := bind_eq_ok_iff.1 given
  obtain ⟨closed, admitted, ⟨_, accepted⟩, tested, counted, unfilled⟩ :=
    Search.found_of_run ended
  obtain ⟨trials, tried, ofExamples, passed⟩ :=
    Trial.exists_allBy_of_acceptsBy (acceptsBy_of_tester accepted)
  have sizes := Query.maxSize_ofExamples made
  obtain ⟨limit, bounded, notLess⟩ := Query.isLess_of_admits admitted
  obtain rfl := pure_eq_ok_iff.1 joined
  obtain rfl := Option.some.inj coded
  refine ⟨program, _, limit, trials, rfl, rfl, rfl, rfl, closed,
    fun proposed => unfilled (proposed query made), sizes ▸ bounded, notLess, ?_,
    ok_of_lift written, tried, ofExamples, passed, counted, tested⟩
  intro largest isInteger
  exact Query.size_le_of_admits (sizes.trans isInteger) admitted

/-- A program that doubles is found after a sum with a dependent hole was filled, by
an execution that looks for a sum in the source text. The program that returns its
argument has none of the two examples, and the one with a 2 in it has the first. -/
theorem reproduces_of_work_double :
    let doubling : Execution := fun code _ inputs =>
      match inputs, code.toList.contains '+' with
      | [.int n], true => return .ok (.int (n + n))
      | _, _ => if code.toList.contains '2' then return .ok (.int 2) else return .error "no sum"
    let workshop : Workshop :=
      { settings := { maxSize := .int 3 }
        otherExecution := some doubling
        otherExpander := some (.fixed
          [.var "arg0", .str "2", .plus (.var "arg0") (.hole .integer true)]) }
    let task : Task := ⟨"double", [⟨[.int 1], .int 2⟩, ⟨[.int 3], .int 6⟩]⟩
    ∃ solution program trials, (workshop.work 0 task).result = .ok solution ∧
      solution.term = some program ∧ program.isClosed = true ∧
      program.functionSource "double" 1 = .ok "def double(arg0):\n    return arg0 + arg0\n" ∧
      Trial.allBy workshop.runner task.examples 1 program false = .ok trials ∧
      ∀ trial ∈ trials, trial.passed = true := by
  intro doubling workshop task
  have worked : (workshop.work 0 task).result = .ok
      { name := "double", code := some "def double(arg0):\n    return arg0 + arg0\n",
        term := some (.plus (.var "arg0") (.var "arg0")), counters := some ⟨2, 3, 0⟩ } := by
    unfold workshop task doubling
    rfl
  obtain ⟨program, _, _, trials, _, found, _, _, closed, _, _, _, _, coded, tried, _, passed, _⟩ :=
    reproduces_of_work workshop 0 task worked rfl
  exact ⟨_, program, trials, worked, found, closed, coded, tried, passed⟩

end Workshop

end FunctionSynthesis
