import FunctionSynthesis.Proofs.Search.Deadline
import FunctionSynthesis.Proofs.Search.FirstRound
import FunctionSynthesis.Proofs.Task.Solution
import FunctionSynthesis.Proofs.Trial.Projection
import FunctionSynthesis.Proofs.Trial.Writability

/-!
# Tasks for a projection

A task whose examples all have one of their arguments for the output is solved by the standard
means when candidates are run within the program: the parameter is a filling of the goal, it
passes all trials, and a candidate that cannot be run only counts as one that fails. Integers
that are too long to be written are the exception. The outputs must not have any, for JSON would
not carry them, and neither must the types of the arguments, for the query would not be summed
up (`isFound_iff_of_projections`).
-/

namespace FunctionSynthesis

open Attempt (FailsOnly)

/-! ### Runs within the program -/

/-- Whether a failure is the fault of a value that cannot be used. -/
def Failure.IsOfValue (failure : Failure) : Prop :=
  ∃ fault, failure = .fault fault ∧ fault.IsOfValue

theorem Executor.failsOnly_run_inProcess (launcher : Launcher) (t : Term) (arity : Nat)
    (code : String) (inputs : List Value) :
    FailsOnly Failure.IsOfValue (Executor.inProcess.run launcher t arity code inputs) := by
  unfold run
  dsimp only
  split
  next => exact Attempt.failsOnly_pure _
  next fault _ =>
    exact FailsOnly.bind (failsOnly_lift fault.failsOnly_written) fun _ => Attempt.failsOnly_pure _

/-- A result within the program is what JSON makes of a value. -/
theorem Executor.isFromJson_of_run {launcher : Launcher} {t : Term} {arity : Nat} {code : String}
    {inputs : List Value} {v : Value}
    (ran : Executor.inProcess.run launcher t arity code inputs = .ok (.ok v)) : v.IsFromJson := by
  unfold run at ran
  dsimp only at ran
  split at ran
  next result called =>
    obtain rfl := Except.ok.inj (Attempt.pure_eq_ok_iff.1 ran)
    unfold Term.callWith at called
    split at called
    next => cases called
    next =>
      obtain ⟨env, _, evaluated⟩ := Attempt.bind_eq_ok_iff.1 called
      obtain ⟨value, _, written⟩ := Attempt.bind_eq_ok_iff.1 evaluated
      exact ⟨value, written⟩
  next =>
    obtain ⟨message, _, ran⟩ := Attempt.bind_eq_ok_iff.1 ran
    cases Attempt.pure_eq_ok_iff.1 ran

theorem Trial.failsOnly_judge (wanted : Example) (result : Run) :
    FailsOnly Fault.IsOfValue (judge wanted result) := by
  cases result with
  | error reason => exact Attempt.failsOnly_pure _
  | ok v =>
      exact (Value.failsOnly_reproduces (fun _ => Fault.isOfValue_tooManyDigits) v).bind
        fun _ => Attempt.failsOnly_pure _

theorem Trial.failsOnly_inOrder {run : List Value → Attempt Run}
    (runs : ∀ inputs, FailsOnly Failure.IsOfValue (run inputs)) (stops : Bool)
    (examples : List Example) : FailsOnly Failure.IsOfValue (inOrder run stops examples) := by
  induction examples with
  | nil => exact Attempt.failsOnly_pure []
  | cons x examples ih =>
      refine (runs x.inputs).bind fun result => ?_
      refine FailsOnly.bind (failsOnly_lift (failsOnly_judge x result)) fun trial => ?_
      split
      · exact Attempt.failsOnly_pure _
      · exact ih.bind fun _ => Attempt.failsOnly_pure _

/-- Within the program a candidate can be tried unless something cannot be written. -/
theorem Trial.failsOnly_acceptsBy (launcher : Launcher) (examples : List Example) (arity : Nat)
    (t : Term) :
    FailsOnly Failure.IsOfValue
      (acceptsBy (Executor.inProcess.run launcher) examples arity t) := by
  have code := failsOnly_lift (Term.failsOnly_functionSource Executor.candidateName arity t)
  have trials (code : String) := failsOnly_inOrder
    (Executor.failsOnly_run_inProcess launcher t arity code) true examples
  exact (FailsOnly.bind code trials).bind fun _ => Attempt.failsOnly_pure _

namespace Workshop

/-! ### Standard means -/

/-- Whether a workshop has standard means, runs candidates within the program and has settings
of the proper kinds, with room for programs of one node. -/
structure RunsWithin (workshop : Workshop) : Prop where
  catalog : workshop.catalog = none
  expander : workshop.otherExpander = none
  execution : workshop.otherExecution = none
  executor : workshop.settings.executor = .str "inprocess"
  limits : workshop.settings.limits.AreCounts
  maxSize : ∃ largest : Int, workshop.settings.maxSize = .int largest ∧ 1 ≤ largest
  poolSize : ∃ size : Int, workshop.settings.maxPoolSize = .int size
  literalLength : ∃ length : Int, workshop.settings.maxLiteralLength = .int length

variable {workshop : Workshop} {task : Task}

/-- The default settings are of the proper kinds. -/
theorem runsWithin_default {maxSize : Int} (room : 1 ≤ maxSize) :
    RunsWithin { settings := { executor := .str "inprocess", maxSize := .int maxSize } } :=
  ⟨rfl, rfl, rfl, rfl, Limits.areCounts_default, ⟨maxSize, rfl, room⟩, ⟨20, rfl⟩, ⟨20, rfl⟩⟩

theorem runner_inProcess (execution : workshop.otherExecution = none)
    (executor : workshop.settings.executor = .str "inprocess") :
    workshop.runner = Executor.inProcess.run workshop.launcher := by
  have same : (workshop.settings.executor == .str "inprocess") = true := by
    rw [executor]
    exact (Value.beq_str_iff _ _).2 rfl
  unfold Workshop.runner Executor.ofSettings
  rw [execution, if_pos same]

theorem RunsWithin.runner (within : workshop.RunsWithin) :
    workshop.runner = Executor.inProcess.run workshop.launcher :=
  runner_inProcess within.execution within.executor

/-- Nothing stops the tests of candidates that are run within the program. -/
theorem RunsWithin.answers (within : workshop.RunsWithin) (task : Task) :
    (workshop.tester task).Answers := by
  intro _ t failure broken
  have fails := Trial.failsOnly_acceptsBy workshop.launcher task.examples task.arity t
  rw [← within.runner] at fails
  unfold Workshop.tester at broken
  dsimp only at broken
  generalize Trial.acceptsBy workshop.runner task.examples task.arity t = attempt at fails broken
  match attempt with
  | .ok true => cases broken
  | .ok false => cases broken
  | .error failure =>
      obtain ⟨fault, rfl, isValue⟩ := fails failure rfl
      have ordinary : (Failure.fault fault).isOrdinary = true := by
        change (!fault.kind.endsProgram) = true
        rw [isValue]
        decide
      dsimp only [verdictOf] at broken
      rw [if_pos ordinary] at broken
      cases broken

theorem RunsWithin.accepted (within : workshop.RunsWithin) {position : Nat}
    (projections : Example.AreProjections task.examples position)
    (writable : ∀ x ∈ task.examples, x.output.isWritable = true) (memory : Unit) :
    ((workshop.tester task).test memory (.var (Term.parameterName position))).1 = .accepted := by
  have passes := Trial.acceptsBy_parameter workshop.launcher projections writable
  rw [← within.runner] at passes
  unfold Workshop.tester
  dsimp only
  rw [show task.arity = Example.arityOf task.examples from rfl, passes]

/-! ### Solutions -/

/-- A program that was found is written down. -/
theorem exists_solution_of_found {readings : Nat} {query : Query} {program : Term}
    (ended : (Search.run (workshop.plan task query) Search.ampleRounds
      (Search.start (workshop.plan task query) task.examples.length readings ())).outcome? =
        some (.found program)) :
    ∃ solution, (workshop.search readings task query).result = .ok solution ∧
      solution.isFound = true := by
  obtain ⟨_, _, ⟨_, accepted⟩, _⟩ := Search.found_of_run ended
  obtain ⟨text, written, _⟩ := (Trial.acceptsBy_iff _ _ _ _).1 (acceptsBy_of_tester accepted)
  obtain ⟨code, coded⟩ := Term.succeeds_functionSource ⟨text, written⟩ task.name
  unfold search
  dsimp only
  rw [ended]
  dsimp only [solved]
  rw [coded]
  exact ⟨_, rfl, rfl⟩

theorem work_eq_search {readings : Nat} {query : Query} (nonempty : task.examples ≠ [])
    (made : Query.ofExamples task.examples workshop.settings workshop.catalog = .ok query)
    (summed : query.isWritable = true) :
    workshop.work readings task = workshop.search readings task query := by
  unfold work
  rw [if_neg (by simpa using nonempty), made]
  dsimp only
  rw [Query.written_of_isWritable summed]

/-- A task whose examples all have the argument at a position for the output is solved with
standard means within the program, as long as no deadline is passed and all that has to be
written can be. -/
theorem exists_isFound_of_projections {readings position : Nat} (within : workshop.RunsWithin)
    (timely : workshop.clock.IsTimely workshop.settings.timeoutSeconds readings)
    (projections : Example.AreProjections task.examples position)
    (outputs : ∀ x ∈ task.examples, x.output.isWritable = true)
    (types : ∀ i < Example.arityOf task.examples,
      (Example.argumentType (task.examples.filterMap fun x => x.inputs[i]?)).isWritable = true) :
    ∃ solution, (workshop.work readings task).result = .ok solution ∧
      solution.isFound = true := by
  obtain ⟨largest, isLargest, room⟩ := within.maxSize
  obtain ⟨size, isSize⟩ := within.poolSize
  obtain ⟨length, isLength⟩ := within.literalLength
  obtain ⟨query, type, made, summed, bound, below⟩ :=
    Query.exists_ofExamples_of_areProjections projections types isSize isLength
  have ordinary := (Query.isInferred_of_ofExamples made).isOrdinary
  have bounded : query.maxSize = .int largest := (Query.maxSize_ofExamples made).trans isLargest
  have expander : workshop.expander = .standard workshop.settings.limits := by
    unfold Workshop.expander
    rw [within.expander]
    rfl
  have standard : (workshop.plan task query).IsStandard workshop.settings.limits largest :=
    ⟨expander, within.limits, ordinary, bounded⟩
  have testable : query.isTestable (.var (Term.parameterName position)) = true :=
    Query.isTestable_iff.2 ⟨rfl, (Query.admits_iff_size_le bounded).2 room⟩
  obtain ⟨n, rounds⟩ : ∃ n, Search.ampleRounds = n + 1 :=
    Nat.exists_eq_add_one.2 (Nat.pow_pos (by decide))
  obtain ⟨program, found⟩ := Search.exists_found_of_offered standard summed (within.answers task)
    timely (standard.var_mem_fillings bound below) testable (within.accepted projections outputs) n
    task.examples.length ()
  rw [← rounds] at found
  rw [work_eq_search projections.nonempty (within.catalog ▸ made) summed]
  exact exists_solution_of_found found

/-! ### What stands in the way -/

section

variable {readings : Nat} {solution : Solution}

/-- A task that is solved within the program wants no integer that is too long to be
written. -/
theorem isWritable_of_isFound (execution : workshop.otherExecution = none)
    (executor : workshop.settings.executor = .str "inprocess")
    (worked : (workshop.work readings task).result = .ok solution)
    (isFound : solution.isFound = true) {x : Example} (inside : x ∈ task.examples)
    (json : x.output.isJson = true) : x.output.isWritable = true := by
  obtain ⟨query, program, _, _, ended, _⟩ := exists_found_of_work worked isFound
  obtain ⟨_, _, ⟨_, accepted⟩, _⟩ := Search.found_of_run ended
  obtain ⟨code, _, ran⟩ := (Trial.acceptsBy_iff _ _ _ _).1 (acceptsBy_of_tester accepted)
  obtain ⟨v, result, same⟩ := ran x inside
  rw [runner_inProcess execution executor] at result
  exact Value.isWritable_of_reproduces (Executor.isFromJson_of_run result) json same

/-- The types of the arguments of a task that is solved can be written as well. -/
theorem isWritable_argumentType_of_isFound
    (even : ∀ x ∈ task.examples, x.inputs.length = Example.arityOf task.examples)
    (worked : (workshop.work readings task).result = .ok solution)
    (isFound : solution.isFound = true) {i : Nat} (below : i < Example.arityOf task.examples) :
    (Example.argumentType (task.examples.filterMap fun x => x.inputs[i]?)).isWritable = true := by
  have nonempty : task.examples ≠ [] := by
    intro none
    rw [none] at below
    exact Nat.not_lt_zero i below
  have signature := Example.signature_eq_ok nonempty fun x inside => (even x inside).ge
  obtain ⟨query, program, made, writable, _⟩ := exists_found_of_work worked isFound
  obtain ⟨inferred, known, made⟩ := Attempt.bind_eq_ok_iff.1 made
  obtain rfl := Except.ok.inj (signature.symm.trans known)
  obtain ⟨pools, _, made⟩ := Attempt.bind_eq_ok_iff.1 made
  obtain rfl := Attempt.pure_eq_ok_iff.1 made
  have types := List.all_eq_true.1 (Bool.and_eq_true_iff.1 writable).1
  exact types _ (List.mem_map_of_mem (List.mem_range.2 below))

/-- No task is solved in a time that cannot be added to the reading of a floating clock. -/
theorem not_isFound_of_overflow {x : Binary64} {k : Int}
    (floating : workshop.clock readings = .float x)
    (limited : workshop.settings.timeoutSeconds = .int k)
    (large : (Binary64.ofInt k).isFinite = false) :
    ¬ ∃ solution, (workshop.work readings task).result = .ok solution ∧
      solution.isFound = true := by
  rintro ⟨solution, worked, isFound⟩
  obtain ⟨query, program, _, _, ended, _⟩ := exists_found_of_work worked isFound
  let plan := workshop.plan task query
  let start := Search.start plan task.examples.length readings ()
  have failed : Search.run plan Search.ampleRounds start = .fail (.fault
      (Fault.describe .overflow "int too large to convert to float")) start :=
    Search.run_of_overflow floating limited large Search.ampleRounds
  rw [failed] at ended
  cases ended

end

/-! ### Tasks for a projection -/

/-- A task whose examples all have the argument at a position for the output is solved with
standard means within the program, as long as no deadline is passed, if and only if no integer
that is too long to be written is in an output or in the type of an argument. -/
theorem isFound_iff_of_projections (workshop : Workshop) (readings : Nat) (task : Task)
    (position : Nat) (within : workshop.RunsWithin)
    (timely : workshop.clock.IsTimely workshop.settings.timeoutSeconds readings)
    (projections : Example.AreProjections task.examples position) :
    (∃ solution, (workshop.work readings task).result = .ok solution ∧
        solution.isFound = true) ↔
      (∀ x ∈ task.examples, x.output.isWritable = true) ∧
      ∀ i < Example.arityOf task.examples,
        (Example.argumentType (task.examples.filterMap fun x => x.inputs[i]?)).isWritable =
          true := by
  constructor
  · rintro ⟨solution, worked, isFound⟩
    exact ⟨fun x inside => isWritable_of_isFound within.execution within.executor worked isFound
        inside (projections.outputs x inside).json,
      fun i below => isWritable_argumentType_of_isFound projections.even worked isFound below⟩
  · rintro ⟨outputs, types⟩
    exact exists_isFound_of_projections within timely projections outputs types

/-- The second argument is returned, be it a text or a dictionary whose keys come in another
order. The first one may have a long integer in a list, for the type of a list does not tell its
items. -/
theorem isFound_iff_of_projections_second :
    let workshop : Workshop := { settings := { executor := .str "inprocess" } }
    let first : Example :=
      ⟨[.list [.int Value.numeralBound], .dict [(.str "a", .int 1), (.str "b", .list [.none])]],
        .dict [(.str "b", .list [.none]), (.str "a", .int 1)]⟩
    let second : Example := ⟨[.bool true, .str "x"], .str "x"⟩
    let task : Task := ⟨"second", [first, second]⟩
    workshop.RunsWithin ∧
      workshop.clock.IsTimely workshop.settings.timeoutSeconds 0 ∧
      Example.AreProjections task.examples 1 ∧
      ∃ solution, (workshop.work 0 task).result = .ok solution ∧ solution.isFound = true := by
  have small : (Value.int 1).isWritable = true :=
    (Value.isWritable_int_iff 1).2 (Value.lt_numeralBound (by decide))
  generalize Value.numeralBound = long
  intro workshop first second task
  have within : workshop.RunsWithin := runsWithin_default (by decide)
  have timely : workshop.clock.IsTimely workshop.settings.timeoutSeconds 0 :=
    Search.Clock.isTimely_stopped (by decide) 0
  have projections : Example.AreProjections task.examples 1 :=
    { nonempty := by simp [task]
      even := by simp [task, first, second, Example.arityOf]
      inputs := by
        simp only [task, first, second, List.forall_mem_cons]
        exact ⟨⟨⟨rfl, nofun, rfl⟩, ⟨by decide, by decide, by decide⟩, nofun⟩,
          ⟨⟨rfl, nofun, rfl⟩, ⟨rfl, by decide, rfl⟩, nofun⟩, nofun⟩
      outputs := by
        simp only [task, first, second, List.forall_mem_cons]
        exact ⟨⟨by decide, by decide, by decide⟩, ⟨rfl, by decide, rfl⟩, nofun⟩
      same := by
        simp only [task, first, second, List.forall_mem_cons]
        exact ⟨⟨_, rfl, by decide⟩, ⟨_, rfl, by decide⟩, nofun⟩ }
  have dictionary (entries : Entries) (each : ∀ entry ∈ entries,
      entry.1.isWritable = true ∧ entry.2.isWritable = true) :
      (Value.dict entries).isWritable = true := (Value.all_dict _ entries).2 each
  have outputs : ∀ x ∈ task.examples, x.output.isWritable = true := by
    simp only [task, first, second, List.forall_mem_cons]
    refine ⟨dictionary _ ?_, rfl, nofun⟩
    simp only [List.forall_mem_cons]
    exact ⟨⟨rfl, rfl⟩, ⟨rfl, small⟩, nofun⟩
  have types : ∀ i < Example.arityOf task.examples,
      (Example.argumentType (task.examples.filterMap fun x => x.inputs[i]?)).isWritable = true := by
    have arity : Example.arityOf task.examples = 2 := rfl
    have column : task.examples.filterMap (fun x => x.inputs[1]?) =
      [.dict [(.str "a", .int 1), (.str "b", .list [.none])], .str "x"] := rfl
    rintro (_ | _ | i) below
    · rfl
    · rw [column]
      refine Example.isWritable_argumentType ?_
      simp only [List.forall_mem_cons]
      refine ⟨dictionary _ ?_, rfl, nofun⟩
      simp only [List.forall_mem_cons]
      exact ⟨⟨rfl, small⟩, ⟨rfl, rfl⟩, nofun⟩
    · rw [arity] at below
      omega
  exact ⟨within, timely, projections,
    (isFound_iff_of_projections workshop 0 task 1 within timely projections).2 ⟨outputs, types⟩⟩

/-- An integer with a digit too many stands in the way of a task when it is in the argument that
is returned, and also when it is another argument of all examples. A limit of many digits stands
in the way of any task. -/
theorem not_isFound_of_projections :
    let workshop : Workshop :=
      { settings := { executor := .str "inprocess", maxSize := .int 1 } }
    let patient : Workshop :=
      { settings :=
          { executor := .str "inprocess", maxSize := .int 1, timeoutSeconds := .int (10 ^ 309) }
        clock := .steady (.float (.zero false)) }
    let long : Value := .int Value.numeralBound
    let short : Task := ⟨"same", [⟨[.int 5], .int 5⟩]⟩
    let returned : Task := ⟨"same", [⟨[.list [long]], .list [long]⟩]⟩
    let passedOver : Task := ⟨"second", [⟨[long, .list [.int 1]], .list [.int 1]⟩]⟩
    workshop.RunsWithin ∧ patient.RunsWithin ∧
      workshop.clock.IsTimely workshop.settings.timeoutSeconds 0 ∧
      Example.AreProjections short.examples 0 ∧
      Example.AreProjections returned.examples 0 ∧
      Example.AreProjections passedOver.examples 1 ∧
      ∀ unsolvable ∈ [(workshop, returned), (workshop, passedOver), (patient, short)],
        ¬ ∃ solution, (unsolvable.1.work 0 unsolvable.2).result = .ok solution ∧
          solution.isFound = true := by
  intro workshop patient long short returned passedOver
  have within : workshop.RunsWithin := runsWithin_default le_rfl
  have patiently : patient.RunsWithin :=
    ⟨rfl, rfl, rfl, rfl, Limits.areCounts_default, ⟨1, rfl, le_rfl⟩, ⟨20, rfl⟩, ⟨20, rfl⟩⟩
  have timely : workshop.clock.IsTimely workshop.settings.timeoutSeconds 0 :=
    Search.Clock.isTimely_stopped (by decide) 0
  have unwritable : ¬ long.isWritable = true := Value.not_isWritable_numeralBound
  have data : long.IsJsonData := ⟨rfl, nofun, rfl⟩
  have listed (item : Value) (data : item.IsJsonData) : (Value.list [item]).IsJsonData :=
    ⟨(Value.isJson_list _).2 (List.forall_mem_singleton.2 data.json),
      (Value.everyDictionary_list _).2 (List.forall_mem_singleton.2 data.keyed),
      (Value.all_list _ _).2 (List.forall_mem_singleton.2 data.numbers)⟩
  have ofOne : (Value.list [.int 1]).IsJsonData := listed _ ⟨rfl, nofun, rfl⟩
  have shortly : Example.AreProjections short.examples 0 :=
    Example.areProjections_singleton (List.forall_mem_singleton.2 ⟨rfl, nofun, rfl⟩)
      ⟨rfl, nofun, rfl⟩ rfl (Value.sameLiteral_refl rfl)
  have projection : Example.AreProjections returned.examples 0 :=
    Example.areProjections_singleton (List.forall_mem_singleton.2 (listed long data))
      (listed long data) rfl ((Value.isSame_list_iff _ _).2
        ⟨_, rfl, .cons (Value.sameLiteral_refl rfl) .nil⟩)
  have projection' : Example.AreProjections passedOver.examples 1 :=
    Example.areProjections_singleton
      (List.forall_mem_cons.2 ⟨data, List.forall_mem_singleton.2 ofOne⟩) ofOne rfl (by decide)
  refine ⟨within, patiently, timely, shortly, projection, projection', ?_⟩
  simp only [List.forall_mem_cons]
  refine ⟨?_, ?_, ?_, nofun⟩
  · rintro ⟨solution, worked, isFound⟩
    have writable := isWritable_of_isFound rfl rfl worked isFound (List.mem_singleton_self _)
      (listed long data).json
    exact unwritable ((Value.all_list _ _).1 writable long (List.mem_singleton_self _))
  · rintro ⟨solution, worked, isFound⟩
    have written := isWritable_argumentType_of_isFound (i := 0) projection'.even worked isFound
      Nat.zero_lt_two
    have column : passedOver.examples.filterMap (fun x => x.inputs[0]?) = [long] := rfl
    have type : Example.argumentType [long] = .literal long := rfl
    rw [column, type] at written
    exact unwritable written
  · exact not_isFound_of_overflow rfl rfl (by decide +kernel)

end Workshop

end FunctionSynthesis
