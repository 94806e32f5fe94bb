import FunctionSynthesis.Proofs.Term.Source
import FunctionSynthesis.Proofs.Trial.Acceptance
import FunctionSynthesis.Proofs.Trial.Comparison

/-!
# Trials that stop at a failure

A candidate is accepted by trials that stop at the first failure, and reported on by the trials of
all examples. The former are the latter up to the first one that fails (`upToFailure`), so that
both come to the same verdict if all results can be compared (`verdict_of_stopping`).
-/

namespace FunctionSynthesis

open Attempt

namespace Trial

/-! ### The trials up to a failure -/

/-- Trials up to the first one that fails, which is the last of them. -/
def upToFailure : List Trial → List Trial
  | [] => []
  | trial :: trials =>
      if trial.passed then trial :: upToFailure trials else [trial]

/-- Whether trials are cut off behind the first one that fails, or not at all if none does. -/
def IsCutAtFailure (trials cut : List Trial) : Prop :=
  ((∀ trial ∈ trials, trial.passed = true) ∧ cut = trials) ∨
    ∃ before failed after,
      trials = before ++ failed :: after ∧
      (∀ trial ∈ before, trial.passed = true) ∧
      failed.passed = false ∧
      cut = before ++ [failed]

theorem upToFailure_cons_of_passed {trial : Trial} (trials : List Trial)
    (passed : trial.passed = true) :
    upToFailure (trial :: trials) = trial :: upToFailure trials := by
  simp [upToFailure, passed]

theorem upToFailure_cons_of_failed {trial : Trial} (trials : List Trial)
    (failed : trial.passed = false) :
    upToFailure (trial :: trials) = [trial] := by
  simp [upToFailure, failed]

theorem isCutAtFailure_cons_of_passed {trial : Trial} {trials cut : List Trial}
    (passed : trial.passed = true) (isCut : IsCutAtFailure trials cut) :
    IsCutAtFailure (trial :: trials) (trial :: cut) := by
  rcases isCut with ⟨all, same⟩ | ⟨before, failed, after, parts, earlier, fails, same⟩
  · apply Or.inl
    exact ⟨List.forall_mem_cons.2 ⟨passed, all⟩, by rw [same]⟩
  · apply Or.inr
    refine ⟨trial :: before, failed, after, ?_,
      List.forall_mem_cons.2 ⟨passed, earlier⟩, fails, ?_⟩
    · rw [parts, List.cons_append]
    · rw [same, List.cons_append]

theorem isCutAtFailure_upToFailure (trials : List Trial) :
    IsCutAtFailure trials (upToFailure trials) := by
  induction trials with
  | nil =>
      exact Or.inl ⟨fun _ member => absurd member List.not_mem_nil, rfl⟩
  | cons trial trials inductionHypothesis =>
      by_cases passed : trial.passed = true
      · rw [upToFailure_cons_of_passed trials passed]
        exact isCutAtFailure_cons_of_passed passed inductionHypothesis
      · have failed : trial.passed = false := by simpa using passed
        apply Or.inr
        exact ⟨[], trial, trials, rfl,
          fun _ member => absurd member List.not_mem_nil, failed,
          upToFailure_cons_of_failed trials failed⟩

/-- A failure among the trials is not lost when they are cut off behind it. -/
theorem all_upToFailure (trials : List Trial) :
    (upToFailure trials).all (·.passed) = trials.all (·.passed) := by
  induction trials with
  | nil => rfl
  | cons trial trials inductionHypothesis =>
      by_cases passed : trial.passed = true
      · rw [upToFailure_cons_of_passed trials passed]
        simp only [List.all_cons, inductionHypothesis]
      · have failed : trial.passed = false := by simpa using passed
        rw [upToFailure_cons_of_failed trials failed]
        simp only [List.all_cons, failed, Bool.false_and]

/-! ### Trials in order -/

section Results

variable {run : List Value → Attempt Run} {results : List Value → Run} {examples : List Example}
  {trials : List Trial}

/-- Whether trials are those of examples by the results of their runs. -/
def AreJudged (results : List Value → Run) : List Example → List Trial → Prop :=
  List.Forall₂ fun wanted trial => judge wanted (results wanted.inputs) = .ok trial

theorem AreJudged.unique {others : List Trial} (judged : AreJudged results examples trials)
    (judged' : AreJudged results examples others) : trials = others :=
  List.right_unique_forall₂' (fun _ _ _ here there => Except.ok.inj (here.symm.trans there))
    judged judged'

/-- One more example is tried first, and the others follow unless it is a failure at which the
trials stop. -/
theorem inOrder_cons {result : Run} {wanted : Example} {trial : Trial}
    (ran : run wanted.inputs = .ok result) (judged : judge wanted result = .ok trial)
    (stops : Bool) (examples : List Example) :
    inOrder run stops (wanted :: examples) =
      if stops && !trial.passed then .ok [trial]
      else (trial :: ·) <$> inOrder run stops examples := by
  rw [inOrder, ran]
  change ((liftM (judge wanted result) : Attempt Trial) >>= fun trial =>
    if stops && !trial.passed then pure [trial]
    else inOrder run stops examples >>= fun rest => pure (trial :: rest)) = _
  rw [lift_of_ok judged]
  cases inOrder run stops examples <;> rfl

/-- The trials of all examples are those that can be judged. -/
theorem inOrder_to_the_end_iff (runs : ∀ inputs, run inputs = .ok (results inputs)) :
    inOrder run false examples = .ok trials ↔ AreJudged results examples trials := by
  induction examples generalizing trials with
  | nil => exact ⟨fun tried => Except.ok.inj tried ▸ .nil, fun judged => by cases judged; rfl⟩
  | cons wanted examples inductionHypothesis =>
      constructor
      · intro tried
        obtain ⟨result, ran, continued⟩ := bind_eq_ok_iff.1 tried
        obtain ⟨trial, judged, continued⟩ := bind_eq_ok_iff.1 continued
        obtain ⟨others, triedRest, joined⟩ := bind_eq_ok_iff.1 continued
        obtain rfl := pure_eq_ok_iff.1 joined
        obtain rfl := Except.ok.inj ((runs wanted.inputs).symm.trans ran)
        exact .cons (ok_of_lift judged) (inductionHypothesis.1 triedRest)
      · rintro (_ | ⟨judged, rest⟩)
        rw [inOrder_cons (runs wanted.inputs) judged, inductionHypothesis.2 rest]
        rfl

theorem inOrder_to_a_failure (runs : ∀ inputs, run inputs = .ok (results inputs))
    (judged : AreJudged results examples trials) :
    inOrder run true examples = .ok (upToFailure trials) := by
  induction judged with
  | nil => rfl
  | @cons wanted trial examples trials judged _ inductionHypothesis =>
      rw [inOrder_cons (runs wanted.inputs) judged, inductionHypothesis]
      by_cases passed : trial.passed = true
      · rw [upToFailure_cons_of_passed _ passed, passed]
        rfl
      · have failed : trial.passed = false := by simpa using passed
        rw [upToFailure_cons_of_failed _ failed, failed]
        rfl

/-- A run can be judged unless it has a result that cannot be compared. -/
theorem exists_judge_iff {wanted : Example} {result : Run} :
    (∃ trial, judge wanted result = .ok trial) ↔
      ∀ v, result = .ok v → ∃ same, v.reproduces wanted.output = .ok same := by
  cases result with
  | error reason => exact iff_of_true ⟨_, rfl⟩ nofun
  | ok v =>
      constructor
      · rintro ⟨trial, judged⟩ _ isResult
        obtain rfl := Except.ok.inj isResult
        obtain ⟨same, compared, _⟩ := bind_eq_ok_iff.1 judged
        exact ⟨same, compared⟩
      · intro answers
        obtain ⟨same, compared⟩ := answers v rfl
        exact ⟨_, bind_eq_ok_iff.2 ⟨same, compared, rfl⟩⟩

theorem exists_areJudged_iff (results : List Value → Run) (examples : List Example) :
    (∃ trials, AreJudged results examples trials) ↔
      ∀ wanted ∈ examples, ∀ v, results wanted.inputs = .ok v →
        ∃ same, v.reproduces wanted.output = .ok same := by
  constructor
  · rintro ⟨trials, judged⟩ wanted inside
    obtain ⟨trial, _, judged⟩ := Attempt.exists_of_mem_right judged.flip inside
    exact exists_judge_iff.1 ⟨trial, judged⟩
  · exact fun answers => Attempt.exists_forall₂ fun wanted inside =>
      exists_judge_iff.2 (answers wanted inside)

end Results

/-! ### Verdicts -/

variable {runner : Runner} {arity : Nat} {t : Term} {code : String}

theorem allBy_of_written (written : t.functionSource Executor.candidateName arity = .ok code)
    (examples : List Example) (stops : Bool) :
    allBy runner examples arity t stops = inOrder (runner t arity code) stops examples := by
  rw [allBy, written]
  rfl

theorem acceptsBy_of_stopped {examples : List Example} {trials : List Trial}
    (stopping : allBy runner examples arity t true = .ok (upToFailure trials)) :
    acceptsBy runner examples arity t = .ok (trials.all (·.passed)) := by
  rw [acceptsBy, stopping, ← all_upToFailure]
  rfl

/-- Stopping at a failure does not change the verdict. Of a candidate it is supposed that it has a
source text, and that each of its runs has a result or a reason why it has none. It is accepted
exactly when each run has a result that reproduces the output of its example.

It can be tried on all examples exactly when every result can be compared, as it can if all keys in
the outputs can be written. Then there is one trial for each example, the trials that stop are
these up to and including the first that fails, and there is a verdict, which says that none of
them fails. -/
theorem verdict_of_stopping (runner : Runner) (results : List Value → Run)
    (examples : List Example) (arity : Nat) (t : Term) (code : String)
    (written : t.functionSource Executor.candidateName arity = .ok code)
    (runs : ∀ inputs, runner t arity code inputs = .ok (results inputs)) :
    (acceptsBy runner examples arity t = .ok true ↔ ∀ wanted ∈ examples, ∃ v,
      results wanted.inputs = .ok v ∧ v.reproduces wanted.output = .ok true) ∧
    ((∃ trials, allBy runner examples arity t false = .ok trials) ↔
      ∀ wanted ∈ examples, ∀ v, results wanted.inputs = .ok v →
        ∃ same, v.reproduces wanted.output = .ok same) ∧
    ((∀ wanted ∈ examples, wanted.output.EveryDictionary Entries.HasWritableKeys) →
      ∃ trials, allBy runner examples arity t false = .ok trials) ∧
    ∀ trials, allBy runner examples arity t false = .ok trials →
      AreJudged results examples trials ∧
      ∃ stopped verdict,
        allBy runner examples arity t true = .ok stopped ∧
        IsCutAtFailure trials stopped ∧
        acceptsBy runner examples arity t = .ok verdict ∧
        (verdict = true ↔ ∀ trial ∈ trials, trial.passed = true) := by
  have whole (trials : List Trial) : allBy runner examples arity t false = .ok trials ↔
      AreJudged results examples trials := by
    rw [allBy_of_written written, inOrder_to_the_end_iff runs]
  have goesThrough := (exists_congr whole).trans (exists_areJudged_iff results examples)
  refine ⟨?_, goesThrough, fun keys => goesThrough.2 ?_, fun trials tried => ?_⟩
  · rw [acceptsBy_iff]
    constructor
    · rintro ⟨code', written', reproduced⟩ wanted inside
      obtain rfl := Except.ok.inj (written.symm.trans written')
      obtain ⟨v, ran, same⟩ := reproduced wanted inside
      exact ⟨v, Except.ok.inj ((runs _).symm.trans ran), same⟩
    · intro reproduced
      refine ⟨code, written, fun wanted inside => ?_⟩
      obtain ⟨v, result, same⟩ := reproduced wanted inside
      exact ⟨v, (runs _).trans (congrArg Except.ok result), same⟩
  · exact fun wanted inside v _ => Value.succeeds_reproduces (keys wanted inside) v
  · have judged := (whole trials).1 tried
    have stopping : allBy runner examples arity t true = .ok (upToFailure trials) := by
      rw [allBy_of_written written, inOrder_to_a_failure runs judged]
    exact ⟨judged, _, _, stopping, isCutAtFailure_upToFailure trials,
      acceptsBy_of_stopped stopping, List.all_eq_true⟩

/-- What a function that divides ten by its argument gives. -/
private def quotients : List Value → Run
  | [.int n] =>
      if n = 0 then .error "ZeroDivisionError: integer division or modulo by zero"
      else .ok (.int (Int.fdiv 10 n))
  | _ => .error "TypeError: unsupported operand"

/-- The quotient is tried on an example that it has, on one where there is no result, on one where
the result is another one and on one that it has. -/
theorem verdict_of_stopping_division :
    let quotient := Term.call (.int 10) "__floordiv__" [.var "arg0"]
    let runner := Execution.runner fun _ _ inputs => .ok (quotients inputs)
    let examples : List Example :=
      [⟨[.int 5], .int 2⟩, ⟨[.int 0], .int 1⟩, ⟨[.int 3], .int 4⟩, ⟨[.int 2], .int 5⟩]
    ∃ trials stopped,
      allBy runner examples 1 quotient false = .ok trials ∧
      trials.map (·.passed) = [true, false, false, true] ∧
      allBy runner examples 1 quotient true = .ok stopped ∧
      IsCutAtFailure trials stopped ∧
      acceptsBy runner examples 1 quotient = .ok false := by
  intro quotient runner examples
  have written : quotient.functionSource Executor.candidateName 1 =
      .ok "def synthesized_function(arg0):\n    return 10 // arg0\n" := by
    rw [Term.functionSource, Term.sourceText, Term.source, Term.source_int (by decide)]
    rfl
  obtain ⟨_, _, goesThrough, verdicts⟩ :=
    verdict_of_stopping runner quotients examples 1 quotient _ written fun _ => rfl
  have keys : ∀ wanted ∈ examples, wanted.output.EveryDictionary Entries.HasWritableKeys := by
    have atom (n : Int) : (Value.int n).EveryDictionary Entries.HasWritableKeys :=
      Value.everyDictionary_of_isAtom rfl
    simp only [examples, List.forall_mem_cons]
    exact ⟨atom 2, atom 1, atom 4, atom 5, List.forall_mem_nil _⟩
  obtain ⟨trials, tried⟩ := goesThrough keys
  obtain ⟨judged, stopped, verdict, stopping, isCut, decided, isVerdict⟩ := verdicts trials tried
  have outcomes : trials.map (·.passed) = [true, false, false, true] := by
    have known : AreJudged quotients examples
        [⟨⟨[.int 5], .int 2⟩, true, .int 2, none⟩,
          ⟨⟨[.int 0], .int 1⟩, false, .none,
            some "ZeroDivisionError: integer division or modulo by zero"⟩,
          ⟨⟨[.int 3], .int 4⟩, false, .int 3, none⟩, ⟨⟨[.int 2], .int 5⟩, true, .int 5, none⟩] :=
      .cons rfl (.cons rfl (.cons rfl (.cons rfl .nil)))
    rw [judged.unique known]
    rfl
  have rejected : verdict = false := by
    by_contra accepted
    have all := isVerdict.1 (by simpa using accepted)
    have each : ∀ outcome ∈ trials.map (·.passed), outcome = true :=
      List.forall_mem_map.2 all
    rw [outcomes] at each
    exact absurd (each false (by decide)) Bool.noConfusion
  exact ⟨trials, stopped, tried, outcomes, stopping, isCut, by rw [decided, rejected]⟩

section

variable {run : List Value → Attempt Run} {key value : Value} {inputs : List Value}
  {found : Entries}

/-- An example whose output begins with a key that is too long cannot be judged. -/
theorem inOrder_of_not_isWritable (unwritable : ¬ key.isWritable = true)
    (ran : run inputs = .ok (.ok (.dict found))) (stops : Bool) (examples : List Example) :
    inOrder run stops (⟨inputs, .dict [(key, value)]⟩ :: examples) =
      .error (.fault (Fault.tooManyDigits none)) := by
  have failed : judge ⟨inputs, .dict [(key, value)]⟩ (.ok (.dict found)) =
      .error (Fault.tooManyDigits none) := by
    change (Value.reproducesEntries found [(key, value)] >>= _) = _
    rw [Value.reproducesEntries_of_not_isWritable unwritable]
    rfl
  rw [inOrder, ran]
  change ((liftM (judge _ (.ok (.dict found))) : Attempt Trial) >>= _) = _
  rw [failed]
  rfl

end

/-- A candidate fails on the first of two examples. The other one cannot be compared, for a key in
its output is too long to be written. So the trials that stop have a verdict, and there are no
trials of both examples. -/
theorem not_verdict_of_stopping_long_key :
    let runner := Execution.runner fun _ _ _ => .ok (.ok (.dict []))
    let examples : List Example :=
      [⟨[.none], .none⟩, ⟨[.none], .dict [(.int Value.numeralBound, .none)]⟩]
    allBy runner examples 1 (.var "arg0") true = .ok [⟨⟨[.none], .none⟩, false, .dict [], none⟩] ∧
      acceptsBy runner examples 1 (.var "arg0") = .ok false ∧
      allBy runner examples 1 (.var "arg0") false =
        .error (.fault (Fault.tooManyDigits none)) := by
  have unwritable := Value.not_isWritable_numeralBound
  generalize Value.int Value.numeralBound = key at unwritable ⊢
  intro runner examples
  have written : (Term.var "arg0").functionSource Executor.candidateName 1 =
      .ok "def synthesized_function(arg0):\n    return arg0\n" := rfl
  have judged : judge ⟨[.none], .none⟩ (.ok (.dict [])) =
      .ok ⟨⟨[.none], .none⟩, false, .dict [], none⟩ := rfl
  refine ⟨?_, ?_, ?_⟩
  · rw [allBy_of_written written, inOrder_cons rfl judged]
    rfl
  · rw [acceptsBy, allBy_of_written written, inOrder_cons rfl judged]
    rfl
  · rw [allBy_of_written written, inOrder_cons rfl judged, inOrder_of_not_isWritable unwritable rfl]
    rfl

end Trial

end FunctionSynthesis
