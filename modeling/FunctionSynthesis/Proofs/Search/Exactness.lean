import FunctionSynthesis.Proofs.Search.Accounting
import FunctionSynthesis.Proofs.Search.Filling
import FunctionSynthesis.Proofs.Search.Refinement

/-!
# Exactness of the search

`Plan.Derivable` and `Plan.Testable` say which programs there are to be searched,
without a queue, an order or a score. A search tests testable programs only, and it
does not give up before it has tested all of them (`exact_of_run`).
-/

namespace FunctionSynthesis.Search

variable {σ : Type}

/-! ### What there is to be searched -/

/-- The refinements of a program by the fillings that a plan has for its holes. -/
def Plan.refinements (plan : Plan σ) (program : Term) : List Term :=
  program.refinements (Term.fillings plan.expander plan.query)

/-- The programs that come of the goal when the regular holes of a program are
refined again and again, and what comes of that is kept if it has holes, fits the
goal and is not too large. Dependent holes are filled when no regular ones are
left. -/
inductive Plan.Derivable (plan : Plan σ) : Term → Prop
  | start : Derivable plan (.hole plan.query.goal false)
  | step {program candidate next : Term} :
      Derivable plan program → program.regularHoles ≠ 0 →
      candidate ∈ plan.refinements program → plan.query.Yields candidate next →
      Derivable plan next

/-- The programs to be tested: those without holes that are not too large and come of
filling holes, dependent ones or regular ones at last. -/
structure Plan.Testable (plan : Plan σ) (t : Term) : Prop where
  testable : plan.query.isTestable t = true
  reached : plan.Derivable t ∨ ∃ program, plan.Derivable program ∧
    program.regularHoles ≠ 0 ∧ t ∈ plan.refinements program

/-- Whether an expander proposes no term with a node that lists candidates. -/
def Plan.ProposesUnfilled (plan : Plan σ) : Prop :=
  ∀ goal ts, plan.expander plan.query goal = .ok ts →
    ∀ t ∈ ts, t.Everywhere fun node => node.isUnfilled = true

variable {plan : Plan σ} {program candidate : Term}

/-! ### Derivable programs -/

theorem isClosed_iff {t : Term} :
    t.isClosed = true ↔
      t.Everywhere fun node =>
        node.isRegularHole = false ∧ node.isDependentHole = false := by
  simp [Term.isClosed, Term.Everywhere]

theorem regularHoles_eq_zero_of_isClosed {t : Term} (closed : t.isClosed = true) :
    t.regularHoles = 0 :=
  List.countP_eq_zero.2 fun node inside => by simp [(isClosed_iff.1 closed node inside).1]

/-- Filling closes a program that has no regular holes. -/
theorem isClosed_of_fillDependent {query : Query} {t u : Term} {filled : Nat}
    (noHoles : t.regularHoles = 0)
    (resolved : t.fillDependent query = .ok (some u, filled)) : u.isClosed = true := by
  obtain ⟨replaced, _⟩ := Term.replaced_of_fillDependent resolved
  refine isClosed_iff.2 (replaced.everywhere (fun node inner =>
    ⟨Term.isRegularHole_of_inner inner, Term.isDependentHole_of_inner inner⟩) ?_)
  intro leaf inside isLeaf v fills
  rcases fills with ⟨goal, rfl, filling⟩ | ⟨notDependent, rfl⟩
  · rcases (Query.offers_of_filling? filling).cases with ⟨name, rfl⟩ | ⟨value, rfl⟩
    · exact (Term.everywhere_of_leaf rfl).2 ⟨rfl, rfl⟩
    · exact (Term.everywhere_of_leaf rfl).2 ⟨rfl, rfl⟩
  · refine (Term.everywhere_of_leaf (Term.walk_of_isLeaf isLeaf)).2 ⟨?_, notDependent⟩
    have notRegular := List.countP_eq_zero.1 noHoles v inside
    simpa using notRegular

/-- A derivable program has regular holes to be expanded or no holes at all. -/
theorem Plan.Derivable.regularHoles_ne_zero_or_isClosed
    (derivable : plan.Derivable program) :
    program.regularHoles ≠ 0 ∨ program.isClosed = true := by
  cases derivable with
  | start => exact Or.inl Nat.one_ne_zero
  | step _ _ _ yields =>
      cases yields.prepared with
      | kept some => exact Or.inl some
      | resolved none resolution => exact Or.inr (isClosed_of_fillDependent none resolution)

/-- What is put in the place of holes keeps a condition on nodes if it meets it
itself. -/
theorem everywhere_of_mem_refinements {condition : Term → Prop} {fillings : Ty → List Term}
    {t u : Term} (inner : ∀ node, node.isLeaf = false → condition node)
    (proposed : ∀ goal, condition (.hole goal false) →
      ∀ v ∈ fillings goal, v.Everywhere condition)
    (everywhere : t.Everywhere condition) (refined : u ∈ t.refinements fillings) :
    u.Everywhere condition := by
  refine (Term.replaced_of_mem_refinements refined).everywhere inner
    fun leaf inside isLeaf v refills => ?_
  rcases refills with ⟨goal, rfl, filling⟩ | ⟨_, rfl⟩
  · exact proposed goal (everywhere _ inside) v filling
  · exact (Term.everywhere_of_leaf (Term.walk_of_isLeaf isLeaf)).2 (everywhere v inside)

theorem everywhere_of_fillDependent {condition : Term → Prop} {query : Query} {t u : Term}
    {filled : Nat} (inner : ∀ node, node.isLeaf = false → condition node)
    (offered : ∀ goal, condition (.hole goal true) →
      ∀ v, query.Offers goal v → v.Everywhere condition)
    (everywhere : t.Everywhere condition)
    (resolved : t.fillDependent query = .ok (some u, filled)) : u.Everywhere condition := by
  refine (Term.replaced_of_fillDependent resolved).1.everywhere inner
    fun leaf inside isLeaf v fills => ?_
  rcases fills with ⟨goal, rfl, filling⟩ | ⟨_, rfl⟩
  · exact offered goal (everywhere _ inside) v (Query.offers_of_filling? filling)
  · exact (Term.everywhere_of_leaf (Term.walk_of_isLeaf isLeaf)).2 (everywhere v inside)

/-- A condition on nodes that the goal meets, and all that is put in the place of
holes, holds everywhere in derivable programs. -/
theorem Plan.Derivable.everywhere {condition : Term → Prop}
    (inner : ∀ node, node.isLeaf = false → condition node)
    (start : condition (.hole plan.query.goal false))
    (proposed : ∀ goal, condition (.hole goal false) →
      ∀ v ∈ Term.fillings plan.expander plan.query goal, v.Everywhere condition)
    (offered : ∀ goal, condition (.hole goal true) →
      ∀ v, plan.query.Offers goal v → v.Everywhere condition)
    (derivable : plan.Derivable program) : program.Everywhere condition := by
  induction derivable with
  | start => exact (Term.everywhere_hole _ _).2 start
  | step _ _ refined yields ih =>
      have made := everywhere_of_mem_refinements inner proposed ih refined
      cases yields.prepared with
      | kept _ => exact made
      | resolved _ resolution =>
          exact everywhere_of_fillDependent inner offered made resolution

/-- Whether no derivable program has a node that lists candidates. -/
def Plan.StaysUnfilled (plan : Plan σ) : Prop :=
  ∀ program, plan.Derivable program → program.Everywhere fun node => node.isUnfilled = true

theorem Plan.ProposesUnfilled.everywhere_of_mem_fillings (unfilled : plan.ProposesUnfilled)
    {goal : Ty} {v : Term} (proposed : v ∈ Term.fillings plan.expander plan.query goal) :
    v.Everywhere fun node => node.isUnfilled = true := by
  unfold Term.fillings at proposed
  split at proposed
  next ts found => exact unfilled goal ts found v proposed
  next => exact absurd proposed List.not_mem_nil

/-- What is proposed without lists of candidates is refined and filled without
them. -/
theorem Plan.ProposesUnfilled.staysUnfilled (unfilled : plan.ProposesUnfilled) :
    plan.StaysUnfilled := by
  refine fun program derivable => derivable.everywhere
    (fun node => Term.isUnfilled_of_inner) rfl
    (fun goal _ v => unfilled.everywhere_of_mem_fillings) fun goal _ v offered => ?_
  rcases offered.cases with ⟨name, rfl⟩ | ⟨value, rfl⟩
  · exact (Term.everywhere_var _).2 rfl
  · exact (Term.everywhere_literal _).2 rfl

theorem Plan.ProposesUnfilled.everywhere_of_testable (unfilled : plan.ProposesUnfilled)
    {t : Term} (testable : plan.Testable t) :
    t.Everywhere fun node => node.isUnfilled = true := by
  rcases testable.reached with derivable | ⟨program, derivable, _, refined⟩
  · exact unfilled.staysUnfilled t derivable
  · exact everywhere_of_mem_refinements (fun node => Term.isUnfilled_of_inner)
      (fun goal _ v => unfilled.everywhere_of_mem_fillings)
      (unfilled.staysUnfilled program derivable) refined

/-- The candidates that a search makes of a derivable program are its refinements. -/
theorem Plan.Derivable.mem_attempts_iff (unfilled : plan.StaysUnfilled)
    (derivable : plan.Derivable program) {expansion : Term × List Nat}
    (expanded : program.expandHoles plan.expander plan.query = .ok expansion) :
    .ok candidate ∈ plan.attempts program ↔ candidate ∈ plan.refinements program := by
  rw [attempts_eq_map_refinements (unfilled program derivable) expanded]
  simp [Plan.refinements]

/-! ### The search -/

/-- What considering a candidate of a derivable program leaves in the queue is derivable. -/
theorem Plan.Derivable.of_yields (unfilled : plan.StaysUnfilled)
    (derivable : plan.Derivable program) (attempted : .ok candidate ∈ plan.attempts program)
    {next : Term} (yields : plan.query.Yields candidate next) : plan.Derivable next := by
  obtain ⟨expansion, expanded⟩ := exists_expansion_of_mem_attempts attempted
  have refined := (derivable.mem_attempts_iff unfilled expanded).1 attempted
  refine .step derivable (fun none => ?_) refined yields
  -- without regular holes the candidate is the program, and that is closed
  rw [Plan.refinements, Term.refinements_of_regularHoles_eq_zero none,
    List.mem_singleton] at refined
  have closed := derivable.regularHoles_ne_zero_or_isClosed.resolve_left
    (not_not_intro none)
  rw [← refined, yields.hasHoles] at closed
  exact absurd closed Bool.false_ne_true

/-- The programs taken from the queue are derivable. -/
theorem Taken.derivable (unfilled : plan.StaysUnfilled) {programs : List Term}
    (taken : Taken plan programs) : ∀ program ∈ programs, plan.Derivable program := by
  induction taken with
  | none => exact fun program inside => absurd inside List.not_mem_nil
  | @next earlier last _ origin ih =>
      refine List.forall_mem_append.2 ⟨ih, List.forall_mem_singleton.2 ?_⟩
      rcases origin with rfl | ⟨candidate, made, yields⟩
      · exact .start
      · obtain ⟨program, inside, attempted⟩ := List.mem_flatMap.1 made
        exact (ih program inside).of_yields unfilled attempted yields

variable {examples : Int} {memory : σ} {made : List Term} {s : State σ}

/-- The programs that have been in the queue are derivable. -/
theorem History.derivable_of_mem (history : History plan examples memory made s)
    (unfilled : plan.StaysUnfilled)
    (initial : made.map .ok <+: s.poppedPrograms.flatMap plan.attempts)
    (known : program ∈ s.poppedPrograms ++ s.waitingPrograms) : plan.Derivable program := by
  rcases (history.mem_known_iff program).1 known with rfl | ⟨candidate, member, yields⟩
  · exact .start
  · obtain ⟨earlier, inside, attempted⟩ :=
      List.mem_flatMap.1 (initial.subset (List.mem_map_of_mem member))
    exact (history.taken.derivable unfilled earlier inside).of_yields unfilled attempted yields

/-- What is tested is testable. -/
theorem History.testable_of_mem (history : History plan examples memory made s)
    (unfilled : plan.StaysUnfilled)
    (initial : made.map .ok <+: s.poppedPrograms.flatMap plan.attempts) {t : Term}
    (tested : t ∈ s.testedPrograms) : plan.Testable t := by
  rw [history.testedPrograms_eq, List.mem_filter] at tested
  obtain ⟨member, testable⟩ := tested
  refine ⟨testable, ?_⟩
  obtain ⟨program, inside, attempted⟩ :=
    List.mem_flatMap.1 (initial.subset (List.mem_map_of_mem member))
  obtain ⟨expansion, expanded⟩ := exists_expansion_of_mem_attempts attempted
  have derivable := history.taken.derivable unfilled program inside
  have refined := (derivable.mem_attempts_iff unfilled expanded).1 attempted
  by_cases none : program.regularHoles = 0
  · rw [Plan.refinements, Term.refinements_of_regularHoles_eq_zero none,
      List.mem_singleton] at refined
    exact Or.inl (refined ▸ derivable)
  · exact Or.inr ⟨program, derivable, none, refined⟩

/-- When nothing waits and all candidates have been considered, every derivable
program was taken from the queue. -/
theorem History.mem_popped_of_derivable (history : History plan examples memory made s)
    (unfilled : plan.StaysUnfilled) (empty : s.waitingPrograms = [])
    (complete : made.map .ok = s.poppedPrograms.flatMap plan.attempts)
    (derivable : plan.Derivable program) :
    program ∈ s.poppedPrograms ∧ ∀ candidate ∈ plan.refinements program, candidate ∈ made := by
  have known (program : Term) := history.mem_known_iff program
  simp only [empty, List.append_nil] at known
  have refined {program : Term} (derivable : plan.Derivable program)
      (popped : program ∈ s.poppedPrograms) :
      ∀ candidate ∈ plan.refinements program, candidate ∈ made := by
    have attempted (attempt : Except Fault Term) (inside : attempt ∈ plan.attempts program) :
        attempt ∈ made.map .ok := by
      rw [complete]
      exact List.mem_flatMap_of_mem popped inside
    cases expanded : program.expandHoles plan.expander plan.query with
    | error fault =>
        have faulty := attempted (.error fault) (by simp [Plan.attempts, expanded])
        simp at faulty
    | ok expansion =>
        intro candidate inside
        have member := attempted (.ok candidate)
          ((derivable.mem_attempts_iff unfilled expanded).2 inside)
        simpa using member
  have popped : program ∈ s.poppedPrograms := by
    induction derivable with
    | start => exact (known _).2 (Or.inl rfl)
    | step earlier _ inside yields ih =>
        exact (known _).2 (Or.inr ⟨_, refined earlier ih _ inside, yields⟩)
  exact ⟨popped, refined derivable popped⟩

/-- When nothing waits and all candidates have been considered, every testable program
was tested. -/
theorem History.mem_tested_of_testable (history : History plan examples memory made s)
    (unfilled : plan.StaysUnfilled) (empty : s.waitingPrograms = [])
    (complete : made.map .ok = s.poppedPrograms.flatMap plan.attempts) {t : Term}
    (testable : plan.Testable t) : t ∈ s.testedPrograms := by
  rw [history.testedPrograms_eq, List.mem_filter]
  refine ⟨?_, testable.testable⟩
  rcases testable.reached with derivable | ⟨program, derivable, _, refined⟩
  · refine (history.mem_popped_of_derivable unfilled empty complete derivable).2 t ?_
    have closed := (Query.isTestable_iff.1 testable.testable).1
    rw [Plan.refinements, Term.refinements_of_regularHoles_eq_zero
      (regularHoles_eq_zero_of_isClosed closed)]
    exact List.mem_singleton_self t
  · exact (history.mem_popped_of_derivable unfilled empty complete derivable).2 t refined

/-- Whether a tester accepts some programs and rejects all others, whenever it is
asked. -/
def Tester.Decides (tester : Tester σ) (accepts : Term → Bool) : Prop :=
  ∀ memory t, (tester.test memory t).1 = if accepts t then .accepted else .rejected

theorem Tester.Decides.verdict_of_mem {tester : Tester σ} {accepts : Term → Bool}
    (decides : tester.Decides accepts) {memory : σ} {ts : List Term}
    {trial : Term × Verdict} (member : trial ∈ (tester.replay memory ts).1) :
    trial.2 = if accepts trial.1 then .accepted else .rejected := by
  induction ts generalizing memory with
  | nil => exact absurd member List.not_mem_nil
  | cons t ts ih =>
      rcases List.mem_cons.1 member with rfl | later
      · exact decides memory t
      · exact ih later

theorem History.verdict_of_mem_trials (history : History plan examples memory made s)
    {accepts : Term → Bool} (decides : plan.tester.Decides accepts)
    {trial : Term × Verdict} (member : trial ∈ s.trials) :
    trial.2 = if accepts trial.1 then .accepted else .rejected := by
  have replayed : trial ∈ (plan.tester.replay memory
      (made.filter plan.query.isTestable)).1 := by
    rw [history.trials]
    exact member
  exact decides.verdict_of_mem replayed

theorem History.accepts_of_adverse (history : History plan examples memory made s)
    {accepts : Term → Bool} (decides : plan.tester.Decides accepts)
    {trial : Term × Verdict} (member : trial ∈ s.trials)
    (adverse : trial.2.isAdverse = true) : accepts trial.1 = false := by
  rw [history.verdict_of_mem_trials decides member] at adverse
  cases accepted : accepts trial.1 with
  | true => simp [accepted, Verdict.isAdverse] at adverse
  | false => rfl

/-- A search gives up for no other reason than that nothing is left. -/
theorem Conclusion.exhausted_cases (history : History plan examples memory made s)
    {accepts : Term → Bool} (decides : plan.tester.Decides accepts)
    {message : String} {counters : Option Counters}
    (conclusion : Conclusion plan made s
      (.failed (.problem (.exhausted message counters)))) :
    s.waitingPrograms = [] ∧
      made.map .ok = s.poppedPrograms.flatMap plan.attempts ∧
      ∀ trial ∈ s.trials, trial.2.isAdverse = true := by
  cases conclusion with
  | @broken t _ earlier last _ =>
      have verdict := history.verdict_of_mem_trials decides
        (last ▸ List.mem_append_right earlier (List.mem_singleton_self _))
      dsimp only at verdict
      split at verdict <;> cases verdict
  | exhausted empty complete adverse => exact ⟨empty, complete, adverse⟩
  | troubled _ trouble _ =>
      rcases trouble.kinds with ⟨fault, same⟩ | ⟨text, node, same⟩ | ⟨text, context, same⟩
      · cases same
      · cases same
      · cases same

/-- A search tests testable programs only. When it gives up it has tested every one of
them, and none is acceptable. When it finds a program, that is testable and acceptable,
and no program that was tested before is acceptable. -/
theorem exact_of_run (plan : Plan σ) (accepts : Term → Bool)
    (decides : plan.tester.Decides accepts) (unfilled : plan.ProposesUnfilled) (n : Nat)
    (examples : Int) (readings : Nat) (memory : σ) :
    let progress := run plan n (start plan examples readings memory)
    let tested := progress.state.testedPrograms
    (∀ t ∈ tested, plan.Testable t) ∧
    (∀ message counters, progress.outcome? =
        some (.failed (.problem (.exhausted message counters))) →
      ∀ t, plan.Testable t → t ∈ tested ∧ accepts t = false) ∧
    ∀ program, progress.outcome? = some (.found program) →
      plan.Testable program ∧ accepts program = true ∧
        ∃ earlier, tested = earlier ++ [program] ∧ ∀ t ∈ earlier, accepts t = false := by
  intro progress tested
  obtain ⟨made, history, initial, conclusion⟩ :=
    exists_history_of_satisfies (settled_run plan n examples readings memory)
  have sound : ∀ t ∈ tested, plan.Testable t := fun t =>
    history.testable_of_mem unfilled.staysUnfilled initial
  have programs : tested = progress.state.trials.map Prod.fst :=
    State.testedPrograms_eq_map _
  refine ⟨sound, fun message counters ended t testable => ?_, fun program ended => ?_⟩
  · obtain ⟨empty, complete, adverse⟩ :=
      (conclusion _ ended).exhausted_cases history decides
    have member : t ∈ tested :=
      history.mem_tested_of_testable unfilled.staysUnfilled empty complete testable
    refine ⟨member, ?_⟩
    rw [programs] at member
    obtain ⟨trial, tried, rfl⟩ := List.mem_map.1 member
    exact history.accepts_of_adverse decides tried (adverse trial tried)
  · cases conclusion _ ended with
    | @found _ earlier last adverse =>
        have split : tested = earlier.map Prod.fst ++ [program] := by
          rw [programs, last, List.map_append]
          rfl
        have tried (trial : Term × Verdict) (member : trial ∈ earlier ++ [(program, .accepted)]) :
            trial ∈ progress.state.trials := by
          rw [last]
          exact member
        refine ⟨sound program (by simp [split]), ?_, _, split, fun t inside => ?_⟩
        · have verdict := history.verdict_of_mem_trials decides
            (tried (program, .accepted) (by simp))
          cases accepted : accepts program with
          | true => rfl
          | false => simp [accepted] at verdict
        · obtain ⟨trial, member, rfl⟩ := List.mem_map.1 inside
          exact history.accepts_of_adverse decides
            (tried trial (List.mem_append_left _ member)) (adverse trial member)

/-- A search that gives up after it has tested a variable, a sum of it and lists around
it, which are all the testable programs. -/
theorem exact_of_run_lists :
    let plan : Plan Unit :=
      { query := { env := [("x", .integer)], goal := .top, maxSize := .int 3 }
        expander := .fixed
          [.array [.hole .top false], .plus (.var "x") (.hole .integer true), .var "x"]
        tester := ⟨fun _ _ => (.rejected, ())⟩ }
    let progress := run plan 6 (start plan 0 0 ())
    (∃ counters, progress.outcome? =
      some (.failed (.problem (.exhausted Problem.nothingFound counters)))) ∧
    ∀ t, plan.Testable t → t ∈ progress.state.testedPrograms := by
  intro plan progress
  have unfilled : plan.ProposesUnfilled := by
    intro goal ts proposed t member
    obtain rfl := Except.ok.inj proposed
    revert t
    simp [Term.Everywhere, Term.walk, Term.walkAll, Term.plus, Term.isUnfilled]
  obtain ⟨_, complete, _⟩ :=
    exact_of_run plan (fun _ => false) (fun _ _ => rfl) unfilled 6 0 0 ()
  have ended : progress.outcome? = some (.failed (.problem
      (.exhausted Problem.nothingFound (some ⟨0, 4, 0⟩)))) := by rfl
  exact ⟨⟨_, ended⟩, fun t testable => (complete _ _ ended t testable).1⟩

end FunctionSynthesis.Search
