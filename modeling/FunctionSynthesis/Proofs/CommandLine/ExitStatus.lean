import Mathlib
import FunctionSynthesis.CommandLine
import FunctionSynthesis.Proofs.Task.Batch

/-!
# How an order ends

To carry out an order, tasks are solved one after the other as those of a batch are, but with
something told in between. This ends as the batch does unless it ends with a fault of its own
(`follows_solveEach`), so that the code at the end says whether all of the wanted tasks have
been found (`follows_carryOut`).
-/

namespace FunctionSynthesis.CommandLine

open Attempt

/-! ### Acts and attempts -/

namespace Act

variable {α β : Type}

/-- Whether an act ends as an attempt does, whatever the traces, unless it ends with a fault. -/
def Follows (act : Act α) (attempt : Attempt α) : Prop :=
  ∀ traces, (act.run.run traces).1 = attempt ∨
    ∃ fault, (act.run.run traces).1 = .error (.fault fault)

theorem run_bind (act : Act α) (next : α → Act β) (traces : Traces) :
    (act >>= next).run.run traces =
      match act.run.run traces with
      | (.ok a, later) => (next a).run.run later
      | (.error failure, later) => (.error failure, later) := by
  rw [ExceptT.run_bind, StateT.run_bind]
  rcases act.run.run traces with ⟨_ | _, _⟩ <;> rfl

/-- An act whose failures are caught gives what it would have ended with. -/
theorem run_caught (act : Act α) (traces : Traces) :
    (tryCatch (Except.ok <$> act) fun failure => pure (.error failure) :
        Act (Except Failure α)).run.run traces =
      (.ok (act.run.run traces).1, (act.run.run traces).2) := by
  rw [ExceptT.run_tryCatch, ExceptT.run_map, StateT.run_bind, StateT.run_map]
  rcases act.run.run traces with ⟨_ | _, _⟩ <;> rfl

theorem follows_pure (a : α) : Follows (pure a) (.ok a) :=
  fun _ => Or.inl rfl

theorem follows_throw (fault : Fault) (attempt : Attempt α) :
    Follows (throw (.fault fault)) attempt :=
  fun _ => Or.inr ⟨fault, rfl⟩

theorem follows_use (attempt : Attempt α) : Follows (use attempt) attempt := by
  intro traces
  cases attempt <;> exact Or.inl rfl

theorem follows_tell (shown : Except Fault Transcript) : Follows (tell shown) (.ok ()) := by
  intro traces
  cases shown with
  | ok transcript => exact Or.inl rfl
  | error fault => exact Or.inr ⟨fault, rfl⟩

theorem follows_log (sink : Log.Sink) (records : List Log.Record) :
    Follows (log sink records) (.ok ()) :=
  follows_tell _

theorem Follows.bind {act : Act α} {attempt : Attempt α} {next : α → Act β}
    {next' : α → Attempt β} (now : act.Follows attempt)
    (later : ∀ a, attempt = .ok a → (next a).Follows (next' a)) :
    (act >>= next).Follows (attempt >>= next') := by
  intro traces
  rw [run_bind]
  have ended := now traces
  generalize act.run.run traces = result at ended
  obtain ⟨result, after⟩ := result
  obtain rfl | ⟨fault, rfl⟩ := ended
  · cases result with
    | error failure => exact Or.inl rfl
    | ok a => exact later a rfl after
  · exact Or.inr ⟨fault, rfl⟩

/-- What is done before an act and succeeds makes no difference to its end. -/
theorem Follows.before {act : Act α} {a : α} {next : α → Act β} {attempt : Attempt β}
    (now : act.Follows (.ok a)) (later : (next a).Follows attempt) :
    (act >>= next).Follows attempt := by
  change (act >>= next).Follows ((.ok a : Attempt α) >>= fun _ => attempt)
  refine now.bind fun b same => ?_
  obtain rfl := Except.ok.inj same
  exact later

/-- An act that is told how another one ended can rely on the attempt that this follows, but for
faults. -/
theorem Follows.caught {act : Act α} {attempt : Attempt α} {next : Except Failure α → Act β}
    {result : Attempt β} (now : act.Follows attempt) (later : (next attempt).Follows result)
    (faults : ∀ fault, (next (.error (.fault fault))).Follows result) :
    ((tryCatch (Except.ok <$> act) fun failure => pure (.error failure)) >>= next).Follows
      result := by
  intro traces
  rw [run_bind, run_caught]
  obtain same | ⟨fault, failed⟩ := now traces
  · rw [same]
    exact later _
  · rw [failed]
    exact faults fault _

/-- It is enough to look at what an act does with each of the traces that it may find. -/
theorem follows_get_bind {next : Traces → Act α} {attempt : Attempt α}
    (later : ∀ traces, (next traces).Follows attempt) :
    ((get : Act Traces) >>= next).Follows attempt := by
  intro traces
  rw [run_bind]
  exact later traces traces

theorem follows_use_bind {attempt : Except Fault α} {next : α → Act β} {result : Attempt β}
    (later : ∀ a, (next a).Follows result) : (use attempt >>= next).Follows result := by
  cases attempt with
  | ok a => exact (follows_use (.ok a)).before (later a)
  | error fault => exact fun _ => Or.inr ⟨fault, rfl⟩

theorem follows_writeFile (path : Path) (text : String) :
    Follows (writeFile path text) (.ok ()) := by
  unfold writeFile
  refine follows_get_bind fun traces => ?_
  split
  · exact fun _ => Or.inl rfl
  · exact follows_throw _ _

theorem follows_report (console : Console) (failure : Failure) :
    Follows (report console failure) (.ok ()) :=
  follows_tell _

theorem Follows.before_if {act : Act Unit} {next : Unit → Act β} {attempt : Attempt β}
    (condition : Prop) [Decidable condition] (now : act.Follows (.ok ()))
    (later : (next ()).Follows attempt) :
    (if condition then act >>= next else next ()).Follows attempt := by
  split
  · exact now.before later
  · exact later

end Act

open Act

/-! ### Solutions that are shown -/

theorem follows_showSolution (console : Console) (solution : Solution) :
    (showSolution console solution).Follows (.ok ()) := by
  unfold showSolution
  cases solution.counters with
  | none => cases solution.code <;> exact (follows_tell _).before (follows_pure ())
  | some counters =>
      have told (elapsed : String) := follows_tell <| console.verbose
        s!"  {counters.toValue.literalText} in {elapsed}ms"
      cases solution.code <;> exact (follows_tell _).before (follows_use_bind told)

/-- To solve tasks and to tell of it ends as to solve them does. -/
theorem follows_solveEach (workshop : Workshop) (console : Console) (sink : Log.Sink)
    (readings : Nat) (tasks : List Task) :
    (solveEach workshop console sink readings tasks).Follows
      ((workshop.workOn readings tasks).mapM Work.result) := by
  induction tasks generalizing readings with
  | nil => exact follows_pure []
  | cons task tasks ih =>
      rw [solveEach, Workshop.mapM_result_workOn_cons]
      refine (follows_tell _).before_if _ ?_
      refine (follows_log sink _).before ?_
      refine (follows_use _).bind fun solution _ => ?_
      refine (follows_showSolution console solution).before_if _ ?_
      exact (ih _).bind fun later _ => follows_pure _

/-! ### The code at the end -/

/-- The code that solutions of tasks end with. -/
def codeOf (solved : Attempt (List Solution)) : Attempt Nat :=
  match solved with
  | .ok solutions => .ok (if solutions.all Solution.isFound then 0 else 1)
  | .error (.problem _) => .ok 1
  | .error (.fault fault) => .error (.fault fault)

theorem eq_zero_iff_of_codeOf {solved : Attempt (List Solution)} {code : Nat}
    (ended : codeOf solved = .ok code) :
    (code = 0 ∨ code = 1) ∧
    (code = 0 ↔ ∃ solutions, solved = .ok solutions ∧
      ∀ solution ∈ solutions, solution.code.isSome = true) := by
  unfold codeOf at ended
  split at ended
  next solutions =>
    have iff : solutions.all Solution.isFound = true ↔
        ∃ solutions', (.ok solutions : Attempt (List Solution)) = .ok solutions' ∧
          ∀ solution ∈ solutions', solution.code.isSome = true := by
      simp [Solution.isFound]
    obtain rfl := Except.ok.inj ended
    rw [← iff]
    cases solutions.all Solution.isFound <;> simp
  next problem =>
    obtain rfl := Except.ok.inj ended
    simp
  next => cases ended

theorem follows_conclude (console : Console) (order : Order) (solutions : List Solution) :
    (conclude console order solutions).Follows
      (.ok (if (solutions.foldl Tally.count {}).hasFailures then 1 else 0)) := by
  unfold conclude
  refine (follows_writeFile _ _).before_if _ ?_
  dsimp only
  split
  · refine (follows_tell _).before_if _ ?_
    exact (follows_tell _).before (follows_pure _)
  · refine follows_use_bind fun functions => ?_
    exact (follows_tell _).before (follows_pure _)

/-- The tally of a batch has failures unless all tasks are found. -/
theorem codeOf_ok {tasks : List Task} {solutions : List Solution}
    (answers : List.Forall₂ (fun task solution => solution.Answers task) tasks solutions) :
    codeOf (.ok solutions) =
      .ok (if (solutions.foldl Tally.count {}).hasFailures then 1 else 0) := by
  rw [codeOf, (Tally.accounts_foldl {} answers).hasFailures]
  cases solutions.all Solution.isFound <;> rfl

/-- The workshop of a performance. -/
def Surroundings.workshop (surroundings : Surroundings) (settings : Settings) : Workshop where
  settings := settings
  launcher := surroundings.launcher
  clock := surroundings.clock

theorem follows_carryOut (order : Order) (surroundings : Surroundings) (console : Console)
    (ready : Preparation) (wanted : order.functions ≠ [] → order.wanted ready.tasks ≠ []) :
    (order.carryOut surroundings console ready).Follows
      (codeOf ((surroundings.workshop ready.settings).solve (order.wanted ready.tasks))) := by
  have isWanted : ¬ (!order.functions.isEmpty && (order.wanted ready.tasks).isEmpty) = true := by
    simpa [-List.isEmpty_iff] using wanted
  unfold Order.carryOut Workshop.solve Surroundings.workshop
  rw [if_neg isWanted]
  refine (follows_solveEach _ console ready.sink 0 _).caught ?_ fun fault => follows_throw _ _
  generalize solved : List.mapM Work.result _ = attempt
  cases attempt with
  | ok solutions =>
      rw [codeOf_ok (Workshop.answers_of_solved solved)]
      exact follows_conclude console order solutions
  | error failure =>
      cases failure with
      | problem problem => exact (follows_report console _).before (follows_pure 1)
      | fault fault => exact follows_throw _ _

/-! ### Batches -/

/-- A batch that comes to its end answers each task, with the name of the task and with either
code or a report, and a tally of it counts each of them in one way. To carry out an order with
the wanted tasks ends with code 0 if they are all found, and else with code 1, unless it fails. -/
theorem accounts_and_code_eq_zero_iff :
    (∀ (workshop : Workshop) (tasks : List Task) (solutions : List Solution) (earlier : Tally),
      workshop.solve tasks = .ok solutions →
        List.Forall₂ (fun task solution =>
          ∃ readings, (workshop.work readings task).result = .ok solution) tasks solutions ∧
        (solutions.foldl Tally.count earlier).Accounts earlier tasks solutions) ∧
    ∀ (surroundings : Surroundings) (options : Options) (order : Order) (ready : Preparation)
      (traces : Traces) (code : Nat),
      order.prepare options surroundings = .ok ready →
      (order.functions ≠ [] → order.wanted ready.tasks ≠ []) →
      (((Command.synth order).carryOut surroundings options).run.run traces).1 = .ok code →
        (code = 0 ∨ code = 1) ∧
        (code = 0 ↔ ∃ solutions,
          (surroundings.workshop ready.settings).solve (order.wanted ready.tasks) =
            .ok solutions ∧
          ∀ solution ∈ solutions, solution.code.isSome = true) := by
  constructor
  · intro workshop tasks solutions earlier solved
    exact ⟨Workshop.forall₂_of_solved solved,
      Tally.accounts_foldl earlier (Workshop.answers_of_solved solved)⟩
  · intro surroundings options order ready traces code prepared wanted ended
    have carried : (Command.synth order).carryOut surroundings options =
        order.carryOut surroundings (options.console surroundings) ready := by
      rw [Command.carryOut, prepared]
      rfl
    rw [carried] at ended
    obtain same | ⟨fault, failed⟩ := follows_carryOut order surroundings _ ready wanted traces
    · rw [same] at ended
      exact eq_zero_iff_of_codeOf ended
    · rw [failed] at ended
      cases ended

/-- The first of two tasks is found by an execution that adds, and the second one has no
examples. It is the only one that is ordered, from a file, when no warnings are logged. -/
theorem accounts_and_code_eq_zero_iff_lacking :
    let lacking : Task := ⟨"f", []⟩
    let doubling : Execution := fun code _ inputs =>
      match inputs, code.toList.contains '+' with
      | [.int n], true => return .ok (.int (n + n))
      | _, _ => return .error "no sum"
    let workshop : Workshop :=
      { otherExecution := some doubling
        otherExpander := some (.fixed [.plus (.var "arg0") (.var "arg0")]) }
    let tasks : List Task := [⟨"double", [⟨[.int 1], .int 2⟩, ⟨[.int 3], .int 6⟩]⟩, lacking]
    let files := [(["s"], "[logging]\nlevel=\"ERROR\""), (["t"], "[\x7b\"name\":\"f\"\x7d]")]
    let surroundings : Surroundings := { files := { files } }
    let options : Options := { quiet := true, config := some "s" }
    let order : Order := { file := "t", functions := [some "f"] }
    let command := (Command.synth order).carryOut surroundings options
    (∃ solutions, workshop.solve tasks = .ok solutions ∧
      solutions.map Solution.isFound = [true, false] ∧
      (solutions.foldl Tally.count ⟨3, []⟩).Accounts ⟨3, []⟩ tasks solutions) ∧
    ∃ ready, order.prepare options surroundings = .ok ready ∧
      order.wanted ready.tasks = [lacking] ∧ (command.run.run {}).1 = .ok 1 ∧
      ¬ ∃ solutions, (surroundings.workshop ready.settings).solve [lacking] = .ok solutions ∧
        ∀ solution ∈ solutions, solution.code.isSome = true := by
  intro lacking doubling workshop tasks files surroundings options order command
  obtain ⟨batches, orders⟩ := accounts_and_code_eq_zero_iff
  constructor
  · have solved : ∃ solutions, workshop.solve tasks = .ok solutions ∧
        solutions.map Solution.isFound = [true, false] := by
      unfold workshop tasks lacking doubling
      exact ⟨_, rfl, rfl⟩
    obtain ⟨solutions, solved, found⟩ := solved
    exact ⟨solutions, solved, found, (batches workshop tasks solutions ⟨3, []⟩ solved).2⟩
  · let ready : Preparation :=
      { settings := { logLevel := .str "ERROR" }
        sink := ⟨40, .text "%(asctime)s %(levelname)s %(message)s"⟩
        tasks := [lacking] }
    have prepared : order.prepare options surroundings = .ok ready := by
      unfold order options surroundings files ready lacking
      cbv
    have wanted : order.wanted ready.tasks = [lacking] := by
      unfold order ready lacking
      cbv
    have ended : (command.run.run {}).1 = .ok 1 := by
      unfold command Command.carryOut
      dsimp only
      rw [prepared]
      unfold order surroundings files options ready lacking
      cbv
    have code := (orders surroundings options order ready {} 1 prepared
      (fun _ => by rw [wanted]; exact List.cons_ne_nil _ _) ended).2
    rw [wanted] at code
    exact ⟨ready, prepared, wanted, ended, fun all => absurd (code.2 all) Nat.one_ne_zero⟩

end FunctionSynthesis.CommandLine
