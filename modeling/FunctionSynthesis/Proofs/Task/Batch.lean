import FunctionSynthesis.Proofs.Task.Solution

/-!
# Batches of tasks

The solutions of a batch answer its tasks one by one, each with code or with a report of why
there is none (`forall₂_of_solved`, `answers_of_work`), and a tally of them counts every task
once (`accounts_foldl`).
-/

namespace FunctionSynthesis

open Attempt

/-- Whether a solution answers a task: it has the name of the task, and either code or a report
of why there is none. -/
structure Solution.Answers (solution : Solution) (task : Task) : Prop where
  name : solution.name = task.name
  reported : solution.report.isSome = !solution.isFound

/-! ### Solutions in order -/

namespace Workshop

variable {workshop : Workshop} {readings : Nat} {task : Task} {tasks : List Task}
  {solution : Solution} {solutions : List Solution}

theorem answers_of_work (worked : (workshop.work readings task).result = .ok solution) :
    solution.Answers task := by
  obtain rfl | ⟨failure, given⟩ | ⟨_, program, _, _, _, given⟩ := cases_of_work worked
  · exact ⟨rfl, rfl⟩
  · obtain ⟨_, _, rfl⟩ := exists_report_of_unsolved given
    exact ⟨rfl, rfl⟩
  · obtain ⟨code, _, joined⟩ := bind_eq_ok_iff.1 given
    obtain rfl := pure_eq_ok_iff.1 joined
    exact ⟨rfl, rfl⟩

/-- Work on tasks goes on after a task that has a solution, and ends with any other. -/
theorem mapM_result_workOn_cons (workshop : Workshop) (readings : Nat) (task : Task)
    (tasks : List Task) :
    (workshop.workOn readings (task :: tasks)).mapM Work.result = (do
      let solution ← (workshop.work readings task).result
      let later ← (workshop.workOn (workshop.work readings task).readings tasks).mapM Work.result
      return solution :: later) := by
  rw [workOn]
  cases worked : (workshop.work readings task).result with
  | error failure =>
      simp only [List.mapM_cons, worked]
      rfl
  | ok solution =>
      simp only [List.mapM_cons, worked]

/-- The solutions of a batch come of the work on its tasks, in order. -/
theorem forall₂_of_solved
    (solved : (workshop.workOn readings tasks).mapM Work.result = .ok solutions) :
    List.Forall₂ (fun task solution =>
      ∃ readings, (workshop.work readings task).result = .ok solution) tasks solutions := by
  induction tasks generalizing readings solutions with
  | nil =>
      obtain rfl := pure_eq_ok_iff.1 solved
      exact .nil
  | cons task tasks ih =>
      rw [mapM_result_workOn_cons] at solved
      obtain ⟨solution, worked, rest⟩ := bind_eq_ok_iff.1 solved
      obtain ⟨later, solvedLater, joined⟩ := bind_eq_ok_iff.1 rest
      obtain rfl := pure_eq_ok_iff.1 joined
      exact .cons ⟨readings, worked⟩ (ih solvedLater)

theorem answers_of_solved
    (solved : (workshop.workOn readings tasks).mapM Work.result = .ok solutions) :
    List.Forall₂ (fun task solution => solution.Answers task) tasks solutions := by
  apply (forall₂_of_solved solved).imp
  rintro task solution ⟨later, worked⟩
  exact answers_of_work worked

end Workshop

/-! ### Tallies -/

namespace Tally

/-- Whether a tally has counted the solutions of some tasks since an earlier one: each task has
been answered, and is counted as a success or by its report. -/
structure Accounts (tally earlier : Tally) (tasks : List Task) (solutions : List Solution) :
    Prop where
  answers : List.Forall₂ (fun task solution => solution.Answers task) tasks solutions
  successes : tally.successes = earlier.successes + solutions.countP Solution.isFound
  reports : tally.reports = earlier.reports ++ solutions.filterMap Solution.report
  all : tally.successes + tally.reports.length =
    earlier.successes + earlier.reports.length + tasks.length

variable {tally earlier : Tally} {task : Task} {tasks : List Task} {solution : Solution}
  {solutions : List Solution}

theorem count_of_found (found : solution.isFound = true) :
    tally.count solution = tally.succeed :=
  if_pos found

theorem count_of_report {report : Report} (missed : solution.isFound = false)
    (known : solution.report = some report) : tally.count solution = tally.add report := by
  rw [count, missed, known]
  rfl

theorem accounts_nil (tally : Tally) : tally.Accounts tally [] [] :=
  ⟨.nil, rfl, (List.append_nil _).symm, rfl⟩

/-- What accounts for the tasks after one accounts for this one too when it has been counted. -/
theorem Accounts.cons (answers : solution.Answers task)
    (later : tally.Accounts (earlier.count solution) tasks solutions) :
    tally.Accounts earlier (task :: tasks) (solution :: solutions) := by
  have reported := answers.reported
  have all := later.all
  by_cases found : solution.isFound = true
  · have unreported : solution.report = none := by simpa [found] using reported
    rw [count_of_found found] at later all
    refine ⟨.cons answers later.answers, ?_, ?_, ?_⟩
    · simp only [later.successes, List.countP_cons_of_pos found, succeed]
      omega
    · rw [later.reports, List.filterMap_cons_none unreported, succeed]
    · simp only [all, succeed, List.length_cons]
      omega
  · have missed : solution.isFound = false := by simpa using found
    have known : ∃ report, solution.report = some report := by
      rwa [missed, Bool.not_false, Option.isSome_iff_exists] at reported
    obtain ⟨report, known⟩ := known
    rw [count_of_report missed known] at later all
    refine ⟨.cons answers later.answers, ?_, ?_, ?_⟩
    · rw [later.successes, List.countP_cons_of_neg found, add]
    · rw [later.reports, List.filterMap_cons_some known, add, List.append_assoc,
        List.singleton_append]
    · simp only [all, add, List.length_append, List.length_cons, List.length_nil]
      omega

/-- The tally of solutions that answer tasks accounts for them. -/
theorem accounts_foldl (earlier : Tally)
    (answers : List.Forall₂ (fun task solution => solution.Answers task) tasks solutions) :
    (solutions.foldl count earlier).Accounts earlier tasks solutions := by
  induction answers generalizing earlier with
  | nil => exact accounts_nil earlier
  | cons here _ ih => exact (ih _).cons here

/-- A tally of answers has failures unless all tasks are found. -/
theorem Accounts.hasFailures (accounts : tally.Accounts {} tasks solutions) :
    tally.hasFailures = !solutions.all Solution.isFound := by
  have all := accounts.all
  have successes := accounts.successes
  rw [accounts.answers.length_eq] at all
  rw [Tally.hasFailures, Bool.not_inj_iff, Bool.eq_iff_iff, List.isEmpty_iff_length_eq_zero,
    List.all_eq_true, ← List.countP_eq_length]
  simp only [successes, List.length_nil] at all ⊢
  omega

end Tally

end FunctionSynthesis
