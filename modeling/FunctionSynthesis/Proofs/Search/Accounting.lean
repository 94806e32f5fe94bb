import FunctionSynthesis.Proofs.Search.History

/-!
# What a search tests and counts

Whatever the expander, the tester and the clock do, only closed programs of
admitted size are tested, the counters of a search count its tests and the
candidates it eliminated, and the program that a search finds is the one that was
tested last, the only one that was accepted (`accounts_of_run`).
-/

namespace FunctionSynthesis

theorem Number.isLess_int (m n : Int) : Number.isLess (.int m) (.int n) = decide (m < n) := by
  rw [Bool.eq_iff_iff, decide_eq_true_iff, ← Int.compare_eq_lt]
  simp [Number.isLess, Number.compare?]

/-- A query with an integer for its bound admits the programs that are not larger. -/
theorem Query.admits_iff_size_le {query : Query} {t : Term} {largest : Int}
    (bounded : query.maxSize = .int largest) :
    query.admits t = .ok true ↔ (t.size : Int) ≤ largest := by
  have isNumber : query.maxSize.number? = some (.int largest) := by
    rw [bounded]
    rfl
  unfold admits
  rw [isNumber]
  dsimp only
  rw [Number.isLess_int, Attempt.pure_eq_ok_iff]
  simp

theorem Query.size_le_of_admits {query : Query} {t : Term} {largest : Int}
    (bounded : query.maxSize = .int largest) (admitted : query.admits t = .ok true) :
    (t.size : Int) ≤ largest :=
  (admits_iff_size_le bounded).1 admitted

namespace Search

variable {σ : Type} {plan : Plan σ} {examples : Int} {memory : σ}
  {made : List Term} {s : State σ}

theorem History.testedPrograms_eq (history : History plan examples memory made s) :
    s.testedPrograms = made.filter plan.query.isTestable := by
  rw [State.testedPrograms_eq_map,
    ← Tester.map_fst_replay plan.tester memory (made.filter _), history.trials]

theorem History.isTestable_of_mem_trials
    (history : History plan examples memory made s) {trial : Term × Verdict}
    (member : trial ∈ s.trials) : plan.query.isTestable trial.1 = true := by
  have tested : trial.1 ∈ made.filter plan.query.isTestable := by
    rw [← history.testedPrograms_eq, State.testedPrograms_eq_map]
    exact List.mem_map_of_mem member
  exact (List.mem_filter.1 tested).2

/-- Trouble with a candidate is not reported with counters. -/
theorem counters?_of_trouble {query : Query} {candidate : Term} {failure : Failure}
    (trouble : query.Trouble candidate failure) : failure.counters? = none := by
  rcases trouble.kinds with ⟨fault, rfl⟩ | ⟨text, node, rfl⟩ | ⟨text, context, rfl⟩
  · rfl
  · rfl
  · rfl

/-- The counters that an ended search reports are those of its last state, unless
the test of the last program ended it with a failure of its own. -/
theorem Conclusion.counters_eq {failure : Failure} {counters : Counters}
    (conclusion : Conclusion plan made s (.failed failure))
    (reported : failure.counters? = some counters) :
    (∃ earlier t, s.trials = earlier ++ [(t, .broken failure)]) ∨
      counters = s.counters := by
  cases conclusion with
  | broken last _ => exact Or.inl ⟨_, _, last⟩
  | exhausted _ _ _ => exact Or.inr (Option.some.inj reported).symm
  | timedOut _ _ _ => exact Or.inr (Option.some.inj reported).symm
  | troubled _ trouble _ =>
      rw [counters?_of_trouble trouble] at reported
      simp at reported
  | _ => simp [Failure.counters?] at reported

/-- The same history explains a search that goes on and one that has ended. -/
theorem exists_history_of_satisfies {progress : Progress σ}
    (settled : progress.Satisfies (fun s => ∃ popped, Settled plan examples memory popped s)
      (Over plan examples memory)) :
    ∃ made, History plan examples memory made progress.state ∧
      made.map .ok <+: progress.state.poppedPrograms.flatMap plan.attempts ∧
      ∀ outcome, progress.outcome? = some outcome →
        Conclusion plan made progress.state outcome := by
  cases progress with
  | ongoing s =>
      obtain ⟨popped, made, underway, complete⟩ := settled
      refine ⟨made, underway.history, ?_, fun outcome ended => by cases ended⟩
      rw [complete, ← underway.popped]
      exact List.prefix_rfl
  | ended outcome s =>
      obtain ⟨made, history, initial, conclusion⟩ := settled
      refine ⟨made, history, initial, fun outcome' ended => ?_⟩
      obtain rfl := Option.some.inj ended
      exact conclusion

theorem Progress.outcome?_of_finding? {progress : Progress σ} {finding : Finding}
    (found : progress.finding? = some finding) :
    progress.outcome? = some (.found finding.program) ∧
      finding.size = finding.program.size ∧
      finding.counters = progress.state.counters := by
  unfold finding? at found
  split at found
  · obtain rfl := Option.some.inj found
    exact ⟨rfl, rfl, rfl⟩
  · simp at found

/-- What a search has done after any number of rounds. It has considered some of the
candidates that come of the programs it took from the queue, and asked for the types
of those that have holes. The tester was asked about the testable ones, which are
closed and not too large, and the counters count its verdicts and the candidates that
were eliminated. A program that was found is the last one tested and the only one
accepted. -/
theorem accounts_of_run (plan : Plan σ) (n : Nat) (examples : Int) (readings : Nat)
    (memory : σ) :
    let progress := run plan n (start plan examples readings memory)
    let s := progress.state
    ∃ made : List Term,
      made.map .ok <+: s.poppedPrograms.flatMap plan.attempts ∧
      s.typedCandidates = (made.filter fun candidate => !candidate.isClosed) ∧
      plan.tester.replay memory (made.filter plan.query.isTestable) =
        (s.trials, s.tester) ∧
      (∀ trial ∈ s.trials, trial.1.isClosed = true ∧
        ∀ largest, plan.query.maxSize = .int largest →
          (trial.1.size : Int) ≤ largest) ∧
      s.counters = ⟨examples, s.trials.length, made.countP plan.query.isEliminated⟩ ∧
      (∀ finding, progress.finding? = some finding →
        finding.size = finding.program.size ∧ finding.counters = s.counters ∧
        ∃ earlier, s.trials = earlier ++ [(finding.program, .accepted)] ∧
          ∀ trial ∈ earlier, trial.2.isAdverse = true) ∧
      ∀ failure counters, progress.outcome? = some (.failed failure) →
        failure.counters? = some counters →
          (∃ earlier t, s.trials = earlier ++ [(t, .broken failure)]) ∨
            counters = s.counters := by
  intro progress s
  obtain ⟨made, history, initial, conclusion⟩ :=
    exists_history_of_satisfies (settled_run plan n examples readings memory)
  refine ⟨made, initial, history.typed, history.trials, fun trial member => ?_, ?_, ?_, ?_⟩
  · obtain ⟨closed, admitted⟩ :=
      Query.isTestable_iff.1 (history.isTestable_of_mem_trials member)
    exact ⟨closed, fun largest bounded => Query.size_le_of_admits bounded admitted⟩
  · rw [← history.examples, ← history.tested, ← history.eliminated]
  · intro finding found
    obtain ⟨ended, size, counters⟩ := Progress.outcome?_of_finding? found
    refine ⟨size, counters, ?_⟩
    cases conclusion _ ended with
    | found last adverse => exact ⟨_, last, adverse⟩
  · intro failure counters ended reported
    exact (conclusion _ ended).counters_eq reported

/-- A search in which one candidate is eliminated, one waits until its dependent
hole is filled, and the third program that is tested is accepted. -/
theorem accounts_of_run_third :
    let plan : Plan Nat :=
      { query := { env := [("x", .integer)], goal := .integer, maxSize := .int 4 }
        expander := .fixed
          [.literal (.str "s"), .array [.hole .integer false],
            .plus (.var "x") (.hole .integer true), .var "x"]
        tester := ⟨fun count _ =>
          (if count = 2 then .accepted else .rejected, count + 1)⟩ }
    let progress := run plan 2 (start plan 7 0 0)
    ∃ finding, progress.finding? = some finding ∧
      finding.counters = ⟨7, 3, 1⟩ ∧ finding.size = finding.program.size ∧
      ∃ earlier, progress.state.trials = earlier ++ [(finding.program, .accepted)] := by
  intro plan progress
  obtain ⟨made, _, _, _, _, counted, found, _⟩ := accounts_of_run plan 2 7 0 0
  have finding : progress.finding? =
      some ⟨.plus (.var "x") (.var "x"), ⟨7, 3, 1⟩, 3⟩ := by rfl
  obtain ⟨size, counters, earlier, last, _⟩ := found _ finding
  exact ⟨_, finding, rfl, size, earlier, last⟩

end Search

end FunctionSynthesis
