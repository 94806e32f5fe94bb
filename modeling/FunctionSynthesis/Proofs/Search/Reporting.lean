import FunctionSynthesis.Proofs.Search.Accounting

/-!
# What a failed search reports

A search that ends without a program does so in an ordinary way, when nothing waits any more or
its time is over, or because of trouble with a candidate or with the tester. In the ordinary
cases the problem carries the counters of the search. In the others it comes from what does
not know them, and they are lost although the search has kept them (`counters?_of_run`).
-/

namespace FunctionSynthesis

/-- Whether a problem is one of the two ordinary ways to end a search without a program. -/
def Problem.isOrdinaryEnd : Problem → Bool
  | .exhausted _ _ => true
  | .timedOut _ _ => true
  | _ => false

namespace Search

variable {σ : Type} {plan : Plan σ} {made : List Term} {s : State σ}

/-- Whether the only problem by which a tester ends a search is that it cannot operate. -/
def Tester.BreaksOperationally (tester : Tester σ) : Prop :=
  ∀ memory t problem, (tester.test memory t).1 = .broken (.problem problem) →
    ∃ message context, problem = .operational message context

/-- Trouble with a candidate is no ordinary end. -/
theorem not_isOrdinaryEnd_of_trouble {query : Query} {candidate : Term} {failure : Failure}
    (trouble : query.Trouble candidate failure) {problem : Problem}
    (foreseen : failure = .problem problem) : problem.isOrdinaryEnd = false := by
  rcases trouble.kinds with ⟨fault, rfl⟩ | ⟨text, node, rfl⟩ | ⟨text, context, rfl⟩
  · cases foreseen
  · cases foreseen
    rfl
  · cases foreseen
    rfl

/-- A problem that the test of the last program ended a search with is operational. -/
theorem History.operational_of_broken {examples : Int} {memory : σ} {problem : Problem} {t : Term}
    {earlier : List (Term × Verdict)} (history : History plan examples memory made s)
    (operates : plan.tester.BreaksOperationally)
    (last : s.trials = earlier ++ [(t, .broken (.problem problem))]) :
    ∃ message context, problem = .operational message context := by
  have noted : (t, .broken (.problem problem)) ∈
      (plan.tester.replay memory (made.filter plan.query.isTestable)).1 := by
    rw [history.trials, last]
    exact List.mem_append_right _ List.mem_cons_self
  obtain ⟨earlier, verdict⟩ := Tester.exists_verdict_of_mem noted
  exact operates earlier t problem verdict.symm

/-- The problem that ends a search reports the counters of its last state if it is an ordinary
end, and no counters otherwise. -/
theorem Conclusion.counters?_eq {examples : Int} {memory : σ} {problem : Problem}
    (history : History plan examples memory made s)
    (operates : plan.tester.BreaksOperationally)
    (conclusion : Conclusion plan made s (.failed (.problem problem))) :
    problem.counters? = if problem.isOrdinaryEnd then some s.counters else none := by
  cases conclusion with
  | broken last _ =>
      obtain ⟨message, context, rfl⟩ := history.operational_of_broken operates last
      rfl
  | exhausted _ _ _ => rfl
  | timedOut _ _ _ => rfl
  | @troubled candidate _ _ trouble _ =>
      have silent : problem.counters? = none := counters?_of_trouble trouble
      rw [silent, not_isOrdinaryEnd_of_trouble trouble rfl]
      rfl

/-- A problem that ends a search carries the counters of the search in the ordinary cases and
no counters in the others. In all cases the search has counted until then the programs that
were tested and the candidates that were eliminated. -/
theorem counters?_of_run (plan : Plan σ) (operates : plan.tester.BreaksOperationally) (n : Nat)
    (examples : Int) (readings : Nat) (memory : σ) (problem : Problem) :
    let progress := run plan n (start plan examples readings memory)
    let s := progress.state
    progress.outcome? = some (.failed (.problem problem)) →
      problem.counters? = (if problem.isOrdinaryEnd then some s.counters else none) ∧
      ∃ made : List Term,
        made.map .ok <+: s.poppedPrograms.flatMap plan.attempts ∧
        s.typedCandidates = (made.filter fun candidate => !candidate.isClosed) ∧
        plan.tester.replay memory (made.filter plan.query.isTestable) =
          (s.trials, s.tester) ∧
        s.counters = ⟨examples, s.trials.length, made.countP plan.query.isEliminated⟩ := by
  intro progress s ended
  obtain ⟨made, history, initial, conclusion⟩ :=
    exists_history_of_satisfies (settled_run plan n examples readings memory)
  refine ⟨(conclusion _ ended).counters?_eq history operates, made, initial, history.typed,
    history.trials, ?_⟩
  rw [← history.examples, ← history.tested, ← history.eliminated]

/-- A search that tests two programs, eliminates a candidate and runs out of programs. -/
theorem counters?_of_run_exhausted :
    let plan : Plan Unit :=
      { query := { env := [("x", .integer)], goal := .integer }
        expander := .fixed [.literal (.int 1), .array [.hole .integer false], .var "x"]
        tester := ⟨fun memory _ => (.rejected, memory)⟩ }
    let progress := run plan 2 (start plan 7 0 ())
    ∃ problem, progress.outcome? = some (.failed (.problem problem)) ∧
      problem.counters? = some ⟨7, 2, 1⟩ ∧ progress.state.trials.length = 2 := by
  intro plan progress
  have operates : plan.tester.BreaksOperationally := by
    intro memory t problem broken
    cases broken
  have ended : progress.outcome? = some (.failed (.problem
      (.exhausted Problem.nothingFound (some ⟨7, 2, 1⟩)))) := by rfl
  obtain ⟨reported, made, _, _, _, counted⟩ := counters?_of_run plan operates 2 7 0 () _ ended
  have kept : progress.state.counters = ⟨7, 2, 1⟩ := (Option.some.inj reported).symm
  exact ⟨_, ended, rfl, (congrArg Counters.tested (counted.symm.trans kept))⟩

/-- A tester that breaks at the second program takes the counters of the search with it. -/
theorem not_counters?_of_broken_tester :
    let plan : Plan Nat :=
      { query := { env := [], goal := .integer }
        expander := .fixed [.literal (.int 1), .literal (.int 2)]
        tester := ⟨fun count _ =>
          (if count = 0 then .rejected
            else .broken (.problem (.operational "oracle broke" [(.str "n", .int 2)])),
            count + 1)⟩ }
    let progress := run plan 1 (start plan 0 0 0)
    ∃ problem, progress.outcome? = some (.failed (.problem problem)) ∧
      progress.state.counters = ⟨0, 2, 0⟩ ∧ progress.state.trials.length = 2 ∧
      problem.counters? ≠ some progress.state.counters := by
  intro plan progress
  exact ⟨.operational "oracle broke" [(.str "n", .int 2)], rfl, rfl, rfl, nofun⟩

end Search

end FunctionSynthesis
