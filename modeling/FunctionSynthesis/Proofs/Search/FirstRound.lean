import FunctionSynthesis.Proofs.Search.Totality

/-!
# Programs of the first round

The first round of a search considers the fillings of the goal. If one of them is a program
that the tester always accepts, a standard search does not get past it in the first round, so
that it finds this program or another one before it (`exists_found_of_offered`).
-/

namespace FunctionSynthesis.Search

variable {σ : Type} {plan : Plan σ} {limits : Limits} {largest : Int} {deadline : Option Number}
  {readings : Nat} {target candidate : Term} {s : State σ}

/-! ### Time -/

/-- Whether a clock never shows a time after a deadline, once it has been read so often. -/
def Clock.NeverLate (clock : Clock) (deadline : Option Number) (readings : Nat) : Prop :=
  ∀ instant ∈ deadline, ∀ later, readings < later → instant.isLess (clock later) = false

/-- Whether a search that begins when the clock has been read so often has a deadline, or
none, that it never comes to. -/
def Clock.IsTimely (clock : Clock) (limit : Value) (readings : Nat) : Prop :=
  ∃ deadline, deadline? limit (clock readings) = .ok deadline ∧ clock.NeverLate deadline readings

/-- A clock that stands still does not come to a deadline. -/
theorem Clock.isTimely_stopped {limit : Int} (ahead : 0 ≤ limit) (readings : Nat) :
    Clock.stopped.IsTimely (.int limit) readings := by
  refine ⟨some (.int (0 + limit)), rfl, fun instant same later _ => ?_⟩
  obtain rfl := Option.some.inj same
  rw [Clock.stopped, Number.isLess_int]
  exact decide_eq_false (by omega)

/-! ### Looking for a program -/

/-- Whether a search has been through candidates without coming to a certain one, and has
read the clock once for its deadline. -/
structure Seeking (target : Term) (deadline : Option Number) (readings : Nat)
    (past : List (Except Fault Term)) (s : State σ) : Prop where
  unseen : .ok target ∉ past
  begun : deadline.isSome = true → readings < s.readings

/-- Whether a search has ended with a program. -/
def HasFound (outcome : Outcome) (_ : State σ) : Prop :=
  ∃ program, outcome = .found program

/-- A search that is never late goes on looking, with the same programs to come. -/
theorem seeking_checkDeadline {past : List (Except Fault Term)}
    (timely : plan.clock.NeverLate deadline readings)
    (seeking : Seeking target deadline readings past s) :
    (checkDeadline plan deadline s).Satisfies
      (fun s' => s'.queue = s.queue ∧ Seeking target deadline readings past s') HasFound := by
  cases deadline with
  | none => exact ⟨rfl, seeking⟩
  | some instant =>
      have early := timely instant rfl s.readings (seeking.begun rfl)
      unfold checkDeadline
      dsimp only
      rw [early]
      exact ⟨rfl, seeking.unseen, fun some => (seeking.begun some).trans (Nat.lt_succ_self _)⟩

theorem Seeking.pass {past : List (Except Fault Term)}
    (seeking : Seeking target deadline readings past s) (different : target ≠ candidate)
    {s' : State σ} (clock : s'.readings = s.readings) :
    Seeking target deadline readings (past ++ [.ok candidate]) s' :=
  ⟨by simpa [different] using seeking.unseen, clock ▸ seeking.begun⟩

/-- A program that the tester always accepts is not passed by. -/
theorem seeking_test (answers : plan.tester.Answers)
    (accepted : ∀ memory, (plan.tester.test memory target).1 = .accepted)
    {past : List (Except Fault Term)} (seeking : Seeking target deadline readings past s) :
    (test plan candidate s).Satisfies
      (Seeking target deadline readings (past ++ [.ok candidate])) HasFound := by
  have answer := answers s.tester candidate
  have other : (plan.tester.test s.tester candidate).1 ≠ .accepted → target ≠ candidate :=
    fun rejected same => rejected (same ▸ accepted s.tester)
  unfold test
  generalize plan.tester.test s.tester candidate = verdict at answer other ⊢
  obtain ⟨verdict, memory⟩ := verdict
  cases verdict with
  | accepted => exact ⟨candidate, rfl⟩
  | rejected => exact seeking.pass (other (by simp)) rfl
  | raised failure => exact seeking.pass (other (by simp)) rfl
  | broken failure => exact absurd rfl (answer failure)

/-- Only a test can take a search past a program that is to be tested. -/
theorem seeking_of_considered (answers : plan.tester.Answers)
    (accepted : ∀ memory, (plan.tester.test memory target).1 = .accepted)
    (testable : plan.query.isTestable target = true)
    (untroubled : ∀ failure, ¬ plan.query.Trouble candidate failure)
    {past : List (Except Fault Term)} (seeking : Seeking target deadline readings past s)
    {progress : Progress σ} (considered : Considered plan candidate s progress) :
    progress.Satisfies (Seeking target deadline readings (past ++ [.ok candidate])) HasFound := by
  obtain ⟨closed, admitted⟩ := Query.isTestable_iff.1 testable
  have ofHoles (holes : candidate.isClosed = false) : target ≠ candidate := by
    rintro rfl
    exact Bool.false_ne_true (holes.symm.trans closed)
  cases considered with
  | tested _ => exact seeking_test answers accepted seeking
  | tooLarge _ refused =>
      refine seeking.pass ?_ rfl
      rintro rfl
      rw [admitted] at refused
      cases refused
  | eliminated eliminated =>
      exact seeking.pass (ofHoles (Query.isEliminated_iff.1 eliminated).1) rfl
  | queued yields => exact seeking.pass (ofHoles yields.hasHoles) rfl
  | dropped holes _ _ _ => exact seeking.pass (ofHoles holes) rfl
  | outgrown holes _ _ _ => exact seeking.pass (ofHoles holes) rfl
  | failed _ trouble _ => exact absurd trouble (untroubled _)

/-! ### The first round -/

theorem Plan.IsStandard.untroubled (standard : plan.IsStandard limits largest)
    (refined : candidate ∈ plan.refinements (.hole plan.query.goal false)) (failure : Failure) :
    ¬ plan.query.Trouble candidate failure :=
  Query.not_trouble standard.ordinary standard.bounded
    (standard.isOrdinary_refinement .start refined) failure

/-- The first round of a standard search finds a program if one that is always accepted is
among the fillings of the goal. -/
theorem found_of_explore (standard : plan.IsStandard limits largest)
    (answers : plan.tester.Answers) (timely : plan.clock.NeverLate deadline readings)
    (offered : target ∈ Term.fillings plan.expander plan.query plan.query.goal)
    (testable : plan.query.isTestable target = true)
    (accepted : ∀ memory, (plan.tester.test memory target).1 = .accepted)
    (begun : deadline.isSome = true → readings < s.readings) :
    (explore plan deadline (.hole plan.query.goal false) s).Satisfies (fun _ => False)
      HasFound := by
  obtain ⟨expansion, expanded⟩ := standard.succeeds_expandHoles .start
  have attempts := attempts_eq_map_refinements (standard.staysUnfilled _ .start) expanded
  have attempted : .ok target ∈ plan.attempts (.hole plan.query.goal false) := by
    rw [attempts]
    exact List.mem_map_of_mem offered
  rw [explore_of_ok plan deadline expanded]
  refine (Progress.satisfies_inTurn ?_ ⟨List.not_mem_nil, begun⟩).imp
    fun s (seeking : Seeking target deadline readings _ s) => seeking.unseen attempted
  intro past attempt rest s split seeking
  have member : attempt ∈ plan.attempts (.hole plan.query.goal false) := by simp [← split]
  rw [attempts] at member
  obtain ⟨candidate, refined, rfl⟩ := List.mem_map.1 member
  exact Progress.satisfies_next (seeking_checkDeadline timely seeking) fun s ⟨_, seeking⟩ =>
    seeking_of_considered answers accepted testable (standard.untroubled refined) seeking
      (considered_consider plan candidate s)

/-- A variable whose type is below the goal is a filling of the goal. -/
theorem Plan.IsStandard.var_mem_fillings (standard : plan.IsStandard limits largest)
    {name : String} {type : Ty} (bound : (name, type) ∈ plan.query.env)
    (below : type.le plan.query.goal = true) :
    .var name ∈ Term.fillings plan.expander plan.query plan.query.goal := by
  have ordinary := standard.ordinary
  have fits : type.checkedLe plan.query.goal = .ok true := by
    rw [Ty.checkedLe_of_isOrdinary (ordinary.env _ bound) ordinary.goal, below]
  obtain ⟨ts, listed, _⟩ :=
    Expander.exists_fillings_of_standard ordinary standard.counts ordinary.goal
  unfold Term.fillings
  rw [standard.expander, listed]
  exact Expander.var_mem_of_standard ordinary ordinary.goal listed bound fits

/-- A standard search that is never late, and has a query that can be summed up, finds a
program if one that is always accepted is among the fillings of the goal. -/
theorem exists_found_of_offered (standard : plan.IsStandard limits largest)
    (writable : plan.query.isWritable = true) (answers : plan.tester.Answers)
    (timely : plan.clock.IsTimely plan.limit readings)
    (offered : target ∈ Term.fillings plan.expander plan.query plan.query.goal)
    (testable : plan.query.isTestable target = true)
    (accepted : ∀ memory, (plan.tester.test memory target).1 = .accepted)
    (n : Nat) (examples : Int) (memory : σ) :
    ∃ program, (run plan (n + 1) (start plan examples readings memory)).outcome? =
      some (.found program) := by
  obtain ⟨deadline, known, timely⟩ := timely
  have found {s : State σ} (queue : s.queue = (start plan examples readings memory).queue)
      (begun : deadline.isSome = true → readings < s.readings) :
      (rounds plan deadline (n + 1) s).Satisfies (fun _ => False) HasFound := by
    have seeking : Seeking target deadline readings [] s := ⟨List.not_mem_nil, begun⟩
    refine Progress.satisfies_next (Progress.satisfies_next
      (seeking_checkDeadline timely seeking) fun s ⟨same, seeking⟩ => ?_)
      fun s (never : False) => never.elim
    rw [same, queue]
    exact found_of_explore standard answers timely offered testable accepted seeking.begun
  have ended {progress : Progress σ} (satisfies : progress.Satisfies (fun _ => False) HasFound) :
      ∃ program, progress.outcome? = some (.found program) := by
    cases progress with
    | ongoing s => exact satisfies.elim
    | ended outcome s =>
        obtain ⟨program, rfl⟩ : HasFound outcome s := satisfies
        exact ⟨program, rfl⟩
  have begun (some : deadline.isSome = true) :
      readings < ((start plan examples readings memory).readFor deadline).readings := by
    rw [State.readFor, if_pos some]
    exact Nat.lt_succ_self readings
  rw [run_of_isWritable known writable]
  refine ended (found ?_ begun)
  rw [State.readFor_eq]

end FunctionSynthesis.Search
