import FunctionSynthesis.Proofs.Attempt
import FunctionSynthesis.Trial

/-!
# Accepted candidates

Trials that stop at the first failure are all the trials of a candidate if none of them fails
(`inOrder_of_passed`). So a candidate is accepted when it has a source text and each example is
reproduced by a run of its own (`acceptsBy_iff`).
-/

namespace FunctionSynthesis

open Attempt

/-- An attempt succeeds as part of another one just as on its own. -/
theorem ok_of_lift {α : Type} {attempt : Except Fault α} {a : α}
    (lifted : (liftM attempt : Attempt α) = .ok a) : attempt = .ok a := by
  cases attempt with
  | error fault => cases lifted
  | ok b => exact congrArg Except.ok (Except.ok.inj lifted)

/-- An attempt that succeeds succeeds as part of another one. -/
theorem lift_of_ok {α : Type} {attempt : Except Fault α} {a : α} (succeeded : attempt = .ok a) :
    (liftM attempt : Attempt α) = .ok a := by
  rw [succeeded]
  rfl

/-- An attempt fails as part of another one just as on its own. -/
theorem failsOnly_lift {α : Type} {kind : Fault → Prop} {attempt : Except Fault α}
    (fails : FailsOnly kind attempt) :
    FailsOnly (fun failure => ∃ fault, failure = .fault fault ∧ kind fault)
      (liftM attempt : Attempt α) := by
  cases attempt with
  | ok a => exact failsOnly_pure a
  | error fault =>
      exact fun failure same => ⟨fault, (Except.error.inj same).symm, fails fault rfl⟩

namespace Trial

variable {wanted : Example} {result : Run} {trial : Trial}

theorem wanted_of_judge (judged : judge wanted result = .ok trial) : trial.wanted = wanted := by
  cases result with
  | error reason =>
      obtain rfl := pure_eq_ok_iff.1 judged
      rfl
  | ok v =>
      obtain ⟨passed, _, rest⟩ := bind_eq_ok_iff.1 judged
      obtain rfl := pure_eq_ok_iff.1 rest
      rfl

theorem passed_iff_of_judge (judged : judge wanted result = .ok trial) :
    trial.passed = true ↔ ∃ v, result = .ok v ∧ v.reproduces wanted.output = .ok true := by
  cases result with
  | error reason =>
      obtain rfl := pure_eq_ok_iff.1 judged
      exact iff_of_false Bool.false_ne_true nofun
  | ok v =>
      obtain ⟨passed, compared, rest⟩ := bind_eq_ok_iff.1 judged
      obtain rfl := pure_eq_ok_iff.1 rest
      constructor
      · exact fun same => ⟨v, rfl, compared.trans (congrArg Except.ok same)⟩
      · rintro ⟨_, isResult, same⟩
        obtain rfl := Except.ok.inj isResult
        exact Except.ok.inj (compared.symm.trans same)

/-- A run that reproduces an output passes its trial. -/
theorem judge_of_reproduces {v : Value} (same : v.reproduces wanted.output = .ok true) :
    judge wanted (.ok v) = .ok ⟨wanted, true, v, none⟩ := by
  rw [judge, same]
  rfl

/-- Trials without a failure are the same whether they would have stopped at one or
not, and there is one for each example. -/
theorem inOrder_of_passed {run : List Value → Attempt Run} {stops : Bool}
    {examples : List Example} {trials : List Trial}
    (tried : inOrder run stops examples = .ok trials)
    (passed : ∀ trial ∈ trials, trial.passed = true) :
    inOrder run false examples = .ok trials ∧ trials.map (·.wanted) = examples := by
  induction examples generalizing trials with
  | nil =>
      obtain rfl := pure_eq_ok_iff.1 tried
      exact ⟨rfl, rfl⟩
  | cons wanted rest ih =>
      obtain ⟨result, ran, continued⟩ := bind_eq_ok_iff.1 tried
      obtain ⟨trial, judged, continued⟩ := bind_eq_ok_iff.1 continued
      by_cases stopped : (stops && !trial.passed) = true
      · rw [if_pos stopped] at continued
        obtain rfl := pure_eq_ok_iff.1 continued
        have failed : trial.passed = false := by simpa using (Bool.and_eq_true_iff.1 stopped).2
        have accepted := passed _ (List.mem_singleton_self _)
        exact absurd (accepted.symm.trans failed) Bool.noConfusion
      · rw [if_neg stopped] at continued
        obtain ⟨others, triedRest, joined⟩ := bind_eq_ok_iff.1 continued
        obtain rfl := pure_eq_ok_iff.1 joined
        obtain ⟨complete, ofExamples⟩ :=
          ih triedRest fun trial inside => passed trial (List.mem_cons_of_mem _ inside)
        refine ⟨?_, by rw [List.map_cons, wanted_of_judge (ok_of_lift judged), ofExamples]⟩
        refine bind_eq_ok_iff.2 ⟨result, ran, bind_eq_ok_iff.2 ⟨trial, judged, ?_⟩⟩
        exact bind_eq_ok_iff.2 ⟨others, complete, rfl⟩

/-- An accepted candidate passes the trial of every example. -/
theorem exists_allBy_of_acceptsBy {runner : Runner} {examples : List Example}
    {arity : Nat} {t : Term} (accepted : acceptsBy runner examples arity t = .ok true) :
    ∃ trials, allBy runner examples arity t false = .ok trials ∧
      trials.map (·.wanted) = examples ∧ ∀ trial ∈ trials, trial.passed = true := by
  obtain ⟨trials, tried, all⟩ := bind_eq_ok_iff.1 accepted
  have passed := List.all_eq_true.1 (pure_eq_ok_iff.1 all)
  obtain ⟨code, coded, inTurn⟩ := bind_eq_ok_iff.1 tried
  obtain ⟨complete, ofExamples⟩ := inOrder_of_passed inTurn passed
  exact ⟨trials, bind_eq_ok_iff.2 ⟨code, coded, complete⟩, ofExamples, passed⟩

/-- A trial after which the others are tried as well is one that passes. -/
theorem exists_passed_inOrder_cons_iff {run : List Value → Attempt Run} {x : Example}
    {examples : List Example} :
    (∃ trials, inOrder run true (x :: examples) = .ok trials ∧
        ∀ trial ∈ trials, trial.passed = true) ↔
      (∃ v, run x.inputs = .ok (.ok v) ∧ v.reproduces x.output = .ok true) ∧
        ∃ trials, inOrder run true examples = .ok trials ∧
          ∀ trial ∈ trials, trial.passed = true := by
  constructor
  · rintro ⟨trials, tried, passed⟩
    obtain ⟨result, ran, continued⟩ := bind_eq_ok_iff.1 tried
    obtain ⟨trial, judged, continued⟩ := bind_eq_ok_iff.1 continued
    split at continued
    next stopped =>
      obtain rfl := pure_eq_ok_iff.1 continued
      rw [passed _ (List.mem_singleton_self _)] at stopped
      cases stopped
    next =>
      obtain ⟨others, triedRest, joined⟩ := bind_eq_ok_iff.1 continued
      obtain rfl := pure_eq_ok_iff.1 joined
      obtain ⟨first, rest⟩ := List.forall_mem_cons.1 passed
      obtain ⟨v, rfl, same⟩ := (passed_iff_of_judge (ok_of_lift judged)).1 first
      exact ⟨⟨v, ran, same⟩, others, triedRest, rest⟩
  · rintro ⟨⟨v, ran, same⟩, trials, tried, passed⟩
    refine ⟨⟨x, true, v, none⟩ :: trials, bind_eq_ok_iff.2 ⟨.ok v, ran, ?_⟩,
      List.forall_mem_cons.2 ⟨rfl, passed⟩⟩
    refine bind_eq_ok_iff.2 ⟨_, lift_of_ok (judge_of_reproduces same), ?_⟩
    exact bind_eq_ok_iff.2 ⟨trials, tried, rfl⟩

/-- All trials pass when each example is reproduced by a run of its own. -/
theorem exists_passed_inOrder_iff (run : List Value → Attempt Run) (examples : List Example) :
    (∃ trials, inOrder run true examples = .ok trials ∧
        ∀ trial ∈ trials, trial.passed = true) ↔
      ∀ x ∈ examples, ∃ v, run x.inputs = .ok (.ok v) ∧ v.reproduces x.output = .ok true := by
  induction examples with
  | nil => simp [inOrder, pure_eq_ok_iff]
  | cons x examples ih => rw [exists_passed_inOrder_cons_iff, ih, List.forall_mem_cons]

theorem acceptsBy_iff (runner : Runner) (examples : List Example) (arity : Nat) (t : Term) :
    acceptsBy runner examples arity t = .ok true ↔
      ∃ code, t.functionSource Executor.candidateName arity = .ok code ∧
        ∀ x ∈ examples, ∃ v, runner t arity code x.inputs = .ok (.ok v) ∧
          v.reproduces x.output = .ok true := by
  simp only [← exists_passed_inOrder_iff]
  constructor
  · intro accepted
    obtain ⟨trials, tried, all⟩ := bind_eq_ok_iff.1 accepted
    obtain ⟨code, coded, inTurn⟩ := bind_eq_ok_iff.1 tried
    exact ⟨code, ok_of_lift coded, trials, inTurn, List.all_eq_true.1 (pure_eq_ok_iff.1 all)⟩
  · rintro ⟨code, coded, trials, inTurn, passed⟩
    exact bind_eq_ok_iff.2 ⟨trials, bind_eq_ok_iff.2 ⟨code, lift_of_ok coded, inTurn⟩,
      pure_eq_ok_iff.2 (List.all_eq_true.2 passed)⟩

end Trial

end FunctionSynthesis
