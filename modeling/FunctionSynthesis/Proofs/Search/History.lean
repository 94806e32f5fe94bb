import FunctionSynthesis.Proofs.Search.Consideration
import FunctionSynthesis.Proofs.Search.Steps

/-!
# The history of a search

The candidates that a search has considered determine what it has done: which
programs were tested and with which verdicts, what the counters count, and which
programs wait or have waited in the queue (`History`). A search that goes on has
considered all candidates of all programs that it took from the queue, and one
that has ended an initial part of them (`history_run`).
-/

namespace FunctionSynthesis.Search

variable {σ α : Type}

/-! ### Trials -/

/-- Whether a verdict counts against a program and lets the search go on. -/
def Verdict.isAdverse : Verdict → Bool
  | .rejected => true
  | .raised _ => true
  | _ => false

/-- The verdicts on programs that are tested one after the other, and the state of
the tester after that. -/
def Tester.replay (tester : Tester σ) (memory : σ) :
    List Term → List (Term × Verdict) × σ
  | [] => ([], memory)
  | t :: ts =>
      let (verdict, memory) := tester.test memory t
      let (trials, memory) := replay tester memory ts
      ((t, verdict) :: trials, memory)

theorem Tester.replay_append (tester : Tester σ) (memory : σ) (ts : List Term)
    (t : Term) :
    tester.replay memory (ts ++ [t]) =
      let (trials, memory) := tester.replay memory ts
      (trials ++ [(t, (tester.test memory t).1)], (tester.test memory t).2) := by
  induction ts generalizing memory with
  | nil => rfl
  | cons first ts ih => simp only [List.cons_append, replay, ih]

theorem Tester.map_fst_replay (tester : Tester σ) (memory : σ) (ts : List Term) :
    (tester.replay memory ts).1.map Prod.fst = ts := by
  induction ts generalizing memory with
  | nil => rfl
  | cons first ts ih => simp only [replay, List.map_cons, ih]

/-- A verdict on a program is one that the tester gives in some state of it. -/
theorem Tester.exists_verdict_of_mem {tester : Tester σ} {memory : σ} {ts : List Term}
    {trial : Term × Verdict} (member : trial ∈ (tester.replay memory ts).1) :
    ∃ earlier, trial.2 = (tester.test earlier trial.1).1 := by
  induction ts generalizing memory with
  | nil => exact absurd member List.not_mem_nil
  | cons t ts ih =>
      rcases List.mem_cons.1 member with rfl | later
      · exact ⟨memory, rfl⟩
      · exact ih later

/-- The trial that an event is. -/
def Event.trial? : Event → Option (Term × Verdict)
  | .tested program verdict => some (program, verdict)
  | _ => none

/-- The program that an event took from the queue. -/
def Event.popped? : Event → Option Term
  | .popped program => some program
  | _ => none

/-- The candidate whose type an event asked for. -/
def Event.typed? : Event → Option Term
  | .typed candidate => some candidate
  | _ => none

namespace State

/-- What is picked from the events, in order. -/
def gathered (pick : Event → Option α) (s : State σ) : List α :=
  s.events.reverse.filterMap pick

def trials (s : State σ) : List (Term × Verdict) :=
  s.gathered Event.trial?

def poppedPrograms (s : State σ) : List Term :=
  s.gathered Event.popped?

/-- The candidates whose type was asked for, in order. -/
def typedCandidates (s : State σ) : List Term :=
  s.gathered Event.typed?

def waitingPrograms (s : State σ) : List Term :=
  s.queue.waiting.map Prod.snd

/-- A program that is pushed waits with the others. -/
theorem waiting_push_perm (queue : Queue) (t : Term) (score : Int) :
    ((queue.push t score).waiting.map Prod.snd).Perm
      (t :: queue.waiting.map Prod.snd) := by
  rw [Queue.waiting_push]
  induction queue.waiting with
  | nil => exact .refl _
  | cons entry rest ih =>
      rw [Queue.insert]
      split
      · exact .refl _
      · exact (ih.cons entry.2).trans (.swap t entry.2 _)

theorem testedPrograms_eq_map (s : State σ) :
    s.testedPrograms = s.trials.map Prod.fst := by
  unfold testedPrograms trials gathered
  rw [List.map_filterMap]
  congr 1
  funext event
  cases event <;> rfl

variable {s s' : State σ}

/-- What later events add to what is picked. -/
theorem gathered_of_events {events : List Event}
    (later : s'.events = events ++ s.events) (pick : Event → Option α) :
    s'.gathered pick = s.gathered pick ++ events.reverse.filterMap pick := by
  unfold gathered
  rw [later, List.reverse_append, List.filterMap_append]

/-- Whether two states differ in nothing but readings of the clock and events that
are neither tests nor pops and ask for no type. -/
structure SameProgress (s s' : State σ) : Prop where
  queue : s'.queue = s.queue
  counters : s'.counters = s.counters
  tester : s'.tester = s.tester
  trials : s'.trials = s.trials
  popped : s'.poppedPrograms = s.poppedPrograms
  typed : s'.typedCandidates = s.typedCandidates

end State

/-! ### Histories -/

/-- Whether programs may be taken from the queue in this order: each of them is the
one that a search starts from, or was left in the queue by a candidate of a program
taken before. -/
inductive Taken (plan : Plan σ) : List Term → Prop
  | none : Taken plan []
  | next {earlier : List Term} {program : Term} :
      Taken plan earlier →
      (program = .hole plan.query.goal false ∨
        ∃ candidate, .ok candidate ∈ earlier.flatMap plan.attempts ∧
          plan.query.Yields candidate program) →
      Taken plan (earlier ++ [program])

/-- What a search that began with the goal has done in considering candidates. -/
structure History (plan : Plan σ) (examples : Int) (memory : σ)
    (made : List Term) (s : State σ) : Prop where
  trials : plan.tester.replay memory (made.filter plan.query.isTestable) =
    (s.trials, s.tester)
  examples : s.counters.examples = examples
  tested : s.counters.tested = s.trials.length
  eliminated : s.counters.eliminated = made.countP plan.query.isEliminated
  typed : s.typedCandidates = made.filter fun candidate => !candidate.isClosed
  known : (s.poppedPrograms ++ s.waitingPrograms).Perm
    (.hole plan.query.goal false :: made.filterMap plan.query.successor?)
  taken : Taken plan s.poppedPrograms

/-- How a search comes to its end. -/
inductive Conclusion (plan : Plan σ) (made : List Term) (s : State σ) :
    Outcome → Prop
  | found {t : Term} {earlier : List (Term × Verdict)} :
      s.trials = earlier ++ [(t, .accepted)] →
      (∀ trial ∈ earlier, trial.2.isAdverse = true) →
      Conclusion plan made s (.found t)
  | broken {t : Term} {failure : Failure} {earlier : List (Term × Verdict)} :
      s.trials = earlier ++ [(t, .broken failure)] →
      (∀ trial ∈ earlier, trial.2.isAdverse = true) →
      Conclusion plan made s (.failed failure)
  | exhausted :
      s.waitingPrograms = [] → made.map .ok = s.poppedPrograms.flatMap plan.attempts →
      (∀ trial ∈ s.trials, trial.2.isAdverse = true) →
      Conclusion plan made s
        (.failed (.problem (.exhausted Problem.nothingFound (some s.counters))))
  | timedOut :
      plan.limit.number?.isSome = true → plan.limit.isWritable = true →
      (∀ trial ∈ s.trials, trial.2.isAdverse = true) →
      Conclusion plan made s
        (.failed (.problem (.timedOut plan.limit (some s.counters))))
  | unlimited {now : Number} {fault : Fault} :
      deadline? plan.limit now = .error fault →
      (∀ trial ∈ s.trials, trial.2.isAdverse = true) →
      Conclusion plan made s (.failed (.fault fault))
  | unwritable :
      plan.query.isWritable = false ∨ plan.limit.isWritable = false →
      (∀ trial ∈ s.trials, trial.2.isAdverse = true) →
      Conclusion plan made s (.failed (.fault (Fault.tooManyDigits none)))
  | unmade {program : Term} {fault : Fault} :
      program ∈ s.poppedPrograms → .error fault ∈ plan.attempts program →
      (∀ trial ∈ s.trials, trial.2.isAdverse = true) →
      Conclusion plan made s (.failed (.fault fault))
  | troubled {candidate : Term} {failure : Failure} :
      candidate ∈ made → plan.query.Trouble candidate failure →
      (∀ trial ∈ s.trials, trial.2.isAdverse = true) →
      Conclusion plan made s (.failed failure)

variable {plan : Plan σ} {examples : Int} {memory : σ} {made : List Term}
  {s s' : State σ}

namespace History

theorem congr (history : History plan examples memory made s)
    (same : State.SameProgress s s') : History plan examples memory made s' where
  trials := by rw [history.trials, same.trials, same.tester]
  examples := by rw [same.counters, history.examples]
  tested := by rw [same.counters, same.trials, history.tested]
  eliminated := by rw [same.counters, history.eliminated]
  typed := by rw [same.typed, history.typed]
  known := by
    rw [same.popped, State.waitingPrograms, same.queue]
    exact history.known
  taken := by rw [same.popped]; exact history.taken

/-- The programs that have been in the queue are the one that a search starts from
and those that candidates left there. -/
theorem mem_known_iff (history : History plan examples memory made s) (program : Term) :
    program ∈ s.poppedPrograms ++ s.waitingPrograms ↔
      program = .hole plan.query.goal false ∨
        ∃ candidate ∈ made, plan.query.Yields candidate program := by
  rw [history.known.mem_iff, List.mem_cons, List.mem_filterMap]
  simp only [Query.successor?_eq_some_iff]

/-- What one more candidate leaves in the queue. -/
theorem known_append (history : History plan examples memory made s) {candidate : Term}
    {waiting : List Term}
    (left : waiting.Perm ((plan.query.successor? candidate).toList ++ s.waitingPrograms)) :
    (s.poppedPrograms ++ waiting).Perm (.hole plan.query.goal false ::
      (made ++ [candidate]).filterMap plan.query.successor?) := by
  have last : [candidate].filterMap plan.query.successor? =
      (plan.query.successor? candidate).toList := by
    cases successor : plan.query.successor? candidate <;> simp [successor]
  rw [List.filterMap_append, last, ← List.cons_append]
  refine ((left.trans List.perm_append_comm).append_left _).trans ?_
  rw [← List.append_assoc]
  exact history.known.append_right _

/-- A candidate that is not tested is eliminated or leaves a program in the queue
or neither. -/
theorem add_untested (history : History plan examples memory made s)
    {candidate : Term} (untested : plan.query.isTestable candidate = false)
    (trials : s'.trials = s.trials) (tester : s'.tester = s.tester)
    (popped : s'.poppedPrograms = s.poppedPrograms)
    (counters : s'.counters = { s.counters with
      eliminated := s.counters.eliminated +
        if plan.query.isEliminated candidate then 1 else 0 })
    (typed : s'.typedCandidates =
      s.typedCandidates ++ if candidate.isClosed then [] else [candidate])
    (waiting : s'.waitingPrograms.Perm
      ((plan.query.successor? candidate).toList ++ s.waitingPrograms)) :
    History plan examples memory (made ++ [candidate]) s' where
  trials := by
    rw [List.filter_append, List.filter_singleton, untested, cond_false, List.append_nil,
      trials, tester]
    exact history.trials
  examples := by rw [counters, history.examples]
  tested := by rw [counters, trials, history.tested]
  eliminated := by
    rw [List.countP_append, List.countP_singleton, counters, history.eliminated]
  typed := by
    rw [typed, List.filter_append, List.filter_singleton, history.typed]
    cases candidate.isClosed <;> rfl
  known := by
    rw [popped]
    exact history.known_append waiting
  taken := by rw [popped]; exact history.taken

theorem add_tested (history : History plan examples memory made s) {candidate : Term}
    (testable : plan.query.isTestable candidate = true)
    (counters : s'.counters = { s.counters with tested := s.counters.tested + 1 })
    (queue : s'.queue = s.queue)
    (tester : s'.tester = (plan.tester.test s.tester candidate).2)
    (events : s'.events =
      [.tested candidate (plan.tester.test s.tester candidate).1] ++ s.events) :
    History plan examples memory (made ++ [candidate]) s' := by
  have closed := (Query.isTestable_iff.1 testable).1
  have trials : s'.trials = _ := State.gathered_of_events events Event.trial?
  have popped : s'.poppedPrograms = s.poppedPrograms :=
    (State.gathered_of_events events Event.popped?).trans (List.append_nil _)
  have typed : s'.typedCandidates = _ := State.gathered_of_events events Event.typed?
  refine ⟨?_, ?_, ?_, ?_, ?_, ?_, ?_⟩
  · rw [List.filter_append, List.filter_singleton, testable, cond_true,
      Tester.replay_append, history.trials, trials, tester]
    rfl
  · rw [counters, history.examples]
  · rw [counters, trials, List.length_append, history.tested]
    rfl
  · have kept : plan.query.isEliminated candidate = false := by
      simp [Query.isEliminated, closed]
    rw [List.countP_append, List.countP_singleton, kept, counters]
    exact history.eliminated
  · rw [typed, List.filter_append, List.filter_singleton, closed]
    change s.typedCandidates ++ [] = _ ++ []
    rw [history.typed]
  · have fruitless : plan.query.successor? candidate = none :=
      Query.successor?_eq_none fun program yields => by
        rw [yields.hasHoles] at closed
        exact absurd closed Bool.false_ne_true
    rw [popped]
    refine history.known_append ?_
    rw [fruitless, State.waitingPrograms, queue]
    exact .refl _
  · rw [popped]
    exact history.taken

end History

/-! ### Steps -/

/-- What holds of a search that has considered some of the candidates of the last
program that it took from the queue, and goes on. -/
structure Underway (plan : Plan σ) (examples : Int) (memory : σ) (made : List Term)
    (popped : List Term) (s : State σ) : Prop where
  history : History plan examples memory made s
  popped : s.poppedPrograms = popped
  adverse : ∀ trial ∈ s.trials, trial.2.isAdverse = true

/-- What holds of a search that has ended. -/
def Over (plan : Plan σ) (examples : Int) (memory : σ) (outcome : Outcome)
    (s : State σ) : Prop :=
  ∃ made, History plan examples memory made s ∧
    made.map .ok <+: s.poppedPrograms.flatMap plan.attempts ∧
    Conclusion plan made s outcome

/-- Whether a search has taken some programs from the queue and considered all of their
candidates. -/
def Settled (plan : Plan σ) (examples : Int) (memory : σ) (popped : List Term)
    (s : State σ) : Prop :=
  ∃ made, Underway plan examples memory made popped s ∧
    made.map .ok = popped.flatMap plan.attempts

theorem Underway.congr {popped : List Term}
    (underway : Underway plan examples memory made popped s)
    (same : State.SameProgress s s') : Underway plan examples memory made popped s' where
  history := underway.history.congr same
  popped := by rw [same.popped, underway.popped]
  adverse := by
    rw [same.trials]
    exact underway.adverse

/-- A program that is taken from the queue has waited in it. -/
theorem Underway.pop {popped : List Term} {program : Term} {queue : Queue}
    (underway : Underway plan examples memory made popped s)
    (complete : made.map .ok = popped.flatMap plan.attempts)
    (next : s.queue.pop? = some (program, queue)) :
    Underway plan examples memory made (popped ++ [program])
      (State.record { s with queue } (.popped program)) := by
  have later : (State.record { s with queue } (.popped program)).events =
      [.popped program] ++ s.events := rfl
  have trials := State.gathered_of_events later Event.trial?
  have pops := State.gathered_of_events later Event.popped?
  have typed := State.gathered_of_events later Event.typed?
  rw [show [Event.popped program].reverse.filterMap Event.trial? = [] from rfl,
    List.append_nil] at trials
  rw [show [Event.popped program].reverse.filterMap Event.typed? = [] from rfl,
    List.append_nil] at typed
  rw [show [Event.popped program].reverse.filterMap Event.popped? = [program] from rfl]
    at pops
  obtain ⟨score, order⟩ := Queue.waiting_of_pop? next
  have history := underway.history
  refine ⟨⟨?_, history.examples, ?_, history.eliminated, ?_, ?_, ?_⟩, ?_, ?_⟩
  · rw [State.trials, trials]
    exact history.trials
  · rw [State.trials, trials]
    exact history.tested
  · rw [State.typedCandidates, typed]
    exact history.typed
  · have known := history.known
    rw [State.waitingPrograms, order] at known
    rw [State.poppedPrograms, pops, List.append_assoc]
    exact known
  · have known : program ∈ s.poppedPrograms ++ s.waitingPrograms := by
      rw [State.waitingPrograms, order]
      simp
    rw [State.poppedPrograms, pops]
    refine history.taken.next ((history.mem_known_iff program).1 known |>.imp_right ?_)
    rintro ⟨candidate, member, yields⟩
    refine ⟨candidate, ?_, yields⟩
    rw [underway.popped, ← complete]
    exact List.mem_map_of_mem member
  · rw [State.poppedPrograms, pops, ← underway.popped]
    rfl
  · rw [State.trials, trials]
    exact underway.adverse

/-- A test adds its candidate to the history, or ends the search. -/
theorem underway_test {popped : List Term} {candidate : Term}
    (underway : Underway plan examples memory made popped s)
    (initial : (made ++ [candidate]).map .ok <+: popped.flatMap plan.attempts)
    (testable : plan.query.isTestable candidate = true) :
    (test plan candidate s).Satisfies
      (Underway plan examples memory (made ++ [candidate]) popped)
      (Over plan examples memory) := by
  unfold test
  rcases outcome : plan.tester.test s.tester candidate with ⟨verdict, tester⟩
  dsimp only
  generalize later : State.record _ (Event.tested candidate verdict) = s'
  have events : s'.events = [.tested candidate verdict] ++ s.events := by
    rw [← later]
    rfl
  have history : History plan examples memory (made ++ [candidate]) s' :=
    underway.history.add_tested testable (by rw [← later]; rfl) (by rw [← later]; rfl)
      (by rw [← later, outcome]; rfl) (by rw [events, outcome])
  have trials : s'.trials = s.trials ++ [(candidate, verdict)] :=
    State.gathered_of_events events Event.trial?
  have same : s'.poppedPrograms = popped := by
    rw [State.poppedPrograms, State.gathered_of_events events, ← underway.popped]
    exact List.append_nil _
  have goesOn (adverse : verdict.isAdverse = true) :
      Underway plan examples memory (made ++ [candidate]) popped s' := by
    refine ⟨history, same, fun trial member => ?_⟩
    rw [trials] at member
    rcases List.mem_append.1 member with earlier | last
    · exact underway.adverse trial earlier
    · rw [List.mem_singleton.1 last]
      exact adverse
  cases verdict with
  | accepted =>
      exact ⟨_, history, same ▸ initial, .found trials underway.adverse⟩
  | rejected => exact goesOn rfl
  | raised failure => exact goesOn rfl
  | broken failure =>
      exact ⟨_, history, same ▸ initial, .broken trials underway.adverse⟩

/-- Whether events are those of considering a candidate that is not tested. -/
structure Untested (candidate : Term) (events : List Event) : Prop where
  noTrial : events.reverse.filterMap Event.trial? = []
  noPop : events.reverse.filterMap Event.popped? = []
  typed : events.reverse.filterMap Event.typed? =
    if candidate.isClosed then [] else [candidate]

/-- A candidate that is not tested adds nothing but itself to the history. -/
theorem Underway.add_untested {popped : List Term} {candidate : Term}
    {events : List Event} (underway : Underway plan examples memory made popped s)
    (untested : plan.query.isTestable candidate = false)
    (silent : Untested candidate events)
    (later : s'.events = events ++ s.events) (tester : s'.tester = s.tester)
    (counters : s'.counters = { s.counters with
      eliminated := s.counters.eliminated +
        if plan.query.isEliminated candidate then 1 else 0 })
    (waiting : s'.waitingPrograms.Perm
      ((plan.query.successor? candidate).toList ++ s.waitingPrograms)) :
    Underway plan examples memory (made ++ [candidate]) popped s' := by
  have trials : s'.trials = s.trials := by
    rw [State.trials, State.gathered_of_events later, silent.noTrial, List.append_nil]
    rfl
  have pops : s'.poppedPrograms = s.poppedPrograms := by
    rw [State.poppedPrograms, State.gathered_of_events later, silent.noPop,
      List.append_nil]
    rfl
  have typed : s'.typedCandidates =
      s.typedCandidates ++ if candidate.isClosed then [] else [candidate] := by
    rw [State.typedCandidates, State.gathered_of_events later, silent.typed]
    rfl
  refine ⟨?_, pops.trans underway.popped, fun trial member => ?_⟩
  · exact underway.history.add_untested untested trials tester pops counters typed waiting
  · exact underway.adverse trial (trials ▸ member)

/-- A candidate without consequences leaves at most new events. -/
theorem Underway.add_fruitless {popped : List Term} {candidate : Term}
    {events : List Event} (underway : Underway plan examples memory made popped s)
    (untested : plan.query.isTestable candidate = false)
    (kept : plan.query.isEliminated candidate = false)
    (nothing : ∀ program, ¬ plan.query.Yields candidate program)
    (silent : Untested candidate events) :
    Underway plan examples memory (made ++ [candidate]) popped
      { s with events := events ++ s.events } := by
  have noWaiter : plan.query.successor? candidate = none :=
    Query.successor?_eq_none nothing
  refine underway.add_untested untested silent rfl rfl (by simp [kept]) ?_
  rw [noWaiter]
  exact .refl _

/-- The type of a candidate with holes is asked for, and of what follows only tests
and pops would count. -/
theorem untested_typed {candidate : Term} {event : Event}
    (holes : candidate.isClosed = false) (noTrial : event.trial? = none)
    (noPop : event.popped? = none) (noType : event.typed? = none) :
    Untested candidate [event, .typed candidate] where
  noTrial := (List.filterMap_cons_none rfl).trans (List.filterMap_cons_none noTrial)
  noPop := (List.filterMap_cons_none rfl).trans (List.filterMap_cons_none noPop)
  typed := by
    rw [holes]
    change candidate :: [event].filterMap Event.typed? = [candidate]
    rw [List.filterMap_cons_none noType]
    rfl

/-- Considering a candidate adds it to the history, or ends the search. -/
theorem underway_of_considered {popped : List Term} {candidate : Term}
    {progress : Progress σ} (underway : Underway plan examples memory made popped s)
    (initial : (made ++ [candidate]).map .ok <+: popped.flatMap plan.attempts)
    (considered : Considered plan candidate s progress) :
    progress.Satisfies (Underway plan examples memory (made ++ [candidate]) popped)
      (Over plan examples memory) := by
  have partialUntested (holes : candidate.isClosed = false) :
      plan.query.isTestable candidate = false := by simp [Query.isTestable, holes]
  have fitting (fits : plan.query.fits? candidate = .ok true) :
      plan.query.isEliminated candidate = false := by simp [Query.isEliminated, fits]
  cases considered with
  | tested testable => exact underway_test underway initial testable
  | tooLarge closed tooLarge =>
      have silent : Untested candidate [] := ⟨rfl, rfl, by simp [closed]⟩
      exact underway.add_fruitless (by simp [Query.isTestable, tooLarge])
        (by simp [Query.isEliminated, closed])
        (fun program yields => by simpa [closed] using yields.hasHoles) silent
  | eliminated given =>
      obtain ⟨holes, misfit⟩ := Query.isEliminated_iff.1 given
      refine underway.add_untested (partialUntested holes)
        (untested_typed holes rfl rfl rfl) rfl rfl (by simp [given]) ?_
      have nothing : plan.query.successor? candidate = none :=
        Query.successor?_eq_none fun program yields => by simpa [misfit] using yields.fits
      rw [nothing]
      exact .refl _
  | @queued waiter yields =>
      refine underway.add_untested (partialUntested yields.hasHoles)
        (untested_typed yields.hasHoles rfl rfl rfl) rfl rfl
        (by simp [fitting yields.fits]) ?_
      rw [Query.successor?_eq_some_iff.2 yields]
      exact State.waiting_push_perm _ _ _
  | dropped holes none fits unfilled =>
      refine underway.add_fruitless (partialUntested holes) (fitting fits)
        (fun program yields => ?_) (untested_typed holes rfl rfl rfl)
      cases yields.prepared with
      | kept some => exact some none
      | resolved _ filled => simp [unfilled] at filled
  | outgrown holes fits prepared tooLarge =>
      have silent : Untested candidate [.typed candidate] :=
        ⟨rfl, rfl, by simp [holes, Event.typed?]⟩
      refine underway.add_fruitless (partialUntested holes) (fitting fits)
        (fun program yields => ?_) silent
      rw [prepared.unique yields.prepared, yields.admitted] at tooLarge
      simp at tooLarge
  | failed events trouble same =>
      obtain ⟨untested, kept, nothing⟩ := trouble.fruitless
      have silent : Untested candidate events := by
        rw [same]
        cases closed : candidate.isClosed <;>
          exact ⟨rfl, rfl, by simp [closed, Event.typed?]⟩
      have done := underway.add_fruitless untested kept nothing silent
      exact ⟨_, done.history, done.popped ▸ initial,
        .troubled (by simp) trouble done.adverse⟩

/-! ### Rounds -/

variable {deadline : Option Number}

/-- The clock does not change what a search has done. -/
theorem underway_checkDeadline {popped : List Term}
    (timed : deadline.isSome = true → plan.limit.number?.isSome = true)
    (underway : Underway plan examples memory made popped s)
    (initial : made.map .ok <+: popped.flatMap plan.attempts) :
    (checkDeadline plan deadline s).Satisfies
      (Underway plan examples memory made popped) (Over plan examples memory) := by
  unfold checkDeadline
  cases deadline with
  | none => exact underway
  | some instant =>
      have read : Underway plan examples memory made popped
          { s with readings := s.readings + 1 } :=
        underway.congr ⟨rfl, rfl, rfl, rfl, rfl, rfl⟩
      dsimp only
      split
      · refine ⟨made, read.history, read.popped ▸ initial, ?_⟩
        unfold Search.timedOut
        split
        next writable => exact .timedOut (timed rfl) writable read.adverse
        next unwritable => exact .unwritable (Or.inr (by simpa using unwritable)) read.adverse
      · exact read

/-- The report of an expansion does not change what a search has done. -/
theorem Underway.record_expanded {popped : List Term}
    (underway : Underway plan examples memory made popped s)
    (frontiers : List (Ty × Nat)) :
    Underway plan examples memory made popped (s.record (.expanded frontiers)) := by
  have unseen {β : Type} (pick : Event → Option β)
      (ignored : pick (.expanded frontiers) = none) :
      (s.record (.expanded frontiers)).gathered pick = s.gathered pick := by
    simp [State.gathered, State.record, ignored]
  exact underway.congr ⟨rfl, rfl, rfl, unseen _ rfl, unseen _ rfl, unseen _ rfl⟩

/-- What can be made is considered, and what cannot be made ends the search. -/
theorem underway_considerAttempt {popped : List Term} {attempt : Except Fault Term}
    (timed : deadline.isSome = true → plan.limit.number?.isSome = true)
    (underway : Underway plan examples memory made popped s)
    (initial : made.map .ok ++ [attempt] <+: popped.flatMap plan.attempts) :
    (considerAttempt plan deadline attempt s).Satisfies
      (fun s => ∃ candidate, attempt = .ok candidate ∧
        Underway plan examples memory (made ++ [candidate]) popped s)
      (Over plan examples memory) := by
  have before : made.map .ok <+: popped.flatMap plan.attempts :=
    (List.prefix_append _ _).trans initial
  refine Progress.satisfies_next
    (underway_checkDeadline timed underway before) fun s underway => ?_
  cases attempt with
  | error fault =>
      have taken : .error fault ∈ popped.flatMap plan.attempts :=
        initial.subset (List.mem_append_right _ (List.mem_singleton_self _))
      obtain ⟨program, inside, faulty⟩ := List.mem_flatMap.1 taken
      exact ⟨_, underway.history, underway.popped ▸ before,
        .unmade (underway.popped ▸ inside) faulty underway.adverse⟩
  | ok candidate =>
      have next : (made ++ [candidate]).map .ok <+: popped.flatMap plan.attempts := by
        rw [List.map_append]
        exact initial
      refine (underway_of_considered underway next
        (considered_consider plan candidate s)).imp fun s done => ?_
      exact ⟨candidate, rfl, done⟩

/-- The candidates of a program are considered in turn. -/
theorem settled_explore {earlier : List Term} {program : Term}
    (timed : deadline.isSome = true → plan.limit.number?.isSome = true)
    (underway : Underway plan examples memory made (earlier ++ [program]) s)
    (complete : made.map .ok = earlier.flatMap plan.attempts) :
    (explore plan deadline program s).Satisfies
      (Settled plan examples memory (earlier ++ [program]))
      (Over plan examples memory) := by
  have all : (earlier ++ [program]).flatMap plan.attempts =
      made.map .ok ++ plan.attempts program := by
    simp [complete]
  cases expansion : program.expandHoles plan.expander plan.query with
  | error fault =>
      rw [explore_of_error plan deadline expansion]
      have reached := underway.record_expanded
        (program.frontiersReached plan.expander plan.query)
      refine ⟨made, reached.history, ?_, ?_⟩
      · rw [reached.popped, all]
        exact List.prefix_append _ _
      · have faulty : .error fault ∈ plan.attempts program := by
          simp [Plan.attempts, expansion]
        exact .unmade (by simp [reached.popped]) faulty reached.adverse
  | ok result =>
      obtain ⟨expanded, counts⟩ := result
      rw [explore_of_ok plan deadline expansion]
      have begins := underway.record_expanded expanded.frontiers
      let going (done : List (Except Fault Term)) (s : State σ) : Prop :=
        ∃ considered : List Term, done = considered.map .ok ∧
          Underway plan examples memory (made ++ considered) (earlier ++ [program]) s
      have turns : (Progress.inTurn (considerAttempt plan deadline)
          (plan.attempts program) (s.record (.expanded expanded.frontiers))).Satisfies
          (going (plan.attempts program)) (Over plan examples memory) := by
        refine Progress.satisfies_inTurn ?_ ⟨[], rfl, by rwa [List.append_nil]⟩
        rintro done attempt rest s split ⟨considered, rfl, underway⟩
        have next : (made ++ considered).map .ok ++ [attempt] <+:
            (earlier ++ [program]).flatMap plan.attempts := by
          rw [all, ← split, List.map_append]
          exact ⟨rest, by simp⟩
        refine (underway_considerAttempt timed underway next).imp ?_
        rintro s ⟨candidate, rfl, underway⟩
        exact ⟨considered ++ [candidate], by simp, by rwa [← List.append_assoc]⟩
      refine turns.imp fun s => ?_
      rintro ⟨considered, whole, underway⟩
      exact ⟨_, underway, by rw [all, whole, List.map_append]⟩

/-- A round takes a program from the queue and considers its candidates. -/
theorem settled_round {popped : List Term}
    (timed : deadline.isSome = true → plan.limit.number?.isSome = true)
    (settled : Settled plan examples memory popped s) :
    (round plan deadline s).Satisfies
      (fun s => ∃ program, Settled plan examples memory (popped ++ [program]) s)
      (Over plan examples memory) := by
  obtain ⟨made, underway, complete⟩ := settled
  refine Progress.satisfies_next
    (underway_checkDeadline timed underway (complete ▸ List.prefix_rfl)) ?_
  intro s underway
  cases next : s.queue.pop? with
  | none =>
      have empty : s.waitingPrograms = [] := by
        rw [State.waitingPrograms, Queue.waiting_of_pop?_eq_none next, List.map_nil]
      have covered : made.map .ok = s.poppedPrograms.flatMap plan.attempts := by
        rw [underway.popped, complete]
      exact ⟨made, underway.history, covered ▸ List.prefix_rfl,
        .exhausted empty covered underway.adverse⟩
  | some taken =>
      obtain ⟨program, queue⟩ := taken
      exact (settled_explore timed (underway.pop complete next) complete).imp
        fun s settled => ⟨program, settled⟩

theorem settled_start (plan : Plan σ) (examples : Int) (readings : Nat) (memory : σ)
    (deadline : Option Number) :
    Settled plan examples memory []
      ((start plan examples readings memory).readFor deadline) := by
  rw [State.readFor_eq]
  refine ⟨[], ⟨⟨rfl, rfl, rfl, rfl, rfl, ?_, .none⟩, rfl, ?_⟩, rfl⟩
  · exact State.waiting_push_perm Queue.empty _ _
  · intro trial member
    exact absurd member List.not_mem_nil

/-- A search that has taken nothing from the queue may end if it fails before its first
round. -/
theorem Settled.over {failure : Failure} (settled : Settled plan examples memory [] s)
    (concluded : ∀ made, (∀ trial ∈ s.trials, trial.2.isAdverse = true) →
      Conclusion plan made s (.failed failure)) :
    Over plan examples memory (.failed failure) s := by
  obtain ⟨made, underway, complete⟩ := settled
  exact ⟨made, underway.history, underway.popped ▸ complete ▸ List.prefix_rfl,
    concluded made underway.adverse⟩

/-- After any number of rounds a search has considered all candidates of all
programs that it took from the queue, or it has ended after some of them. -/
theorem settled_run (plan : Plan σ) (n : Nat) (examples : Int) (readings : Nat)
    (memory : σ) :
    (run plan n (start plan examples readings memory)).Satisfies
      (fun s => ∃ popped, Settled plan examples memory popped s)
      (Over plan examples memory) := by
  have begins := settled_start plan examples readings memory
  refine satisfies_run n (fun fault failed => ?_) (fun deadline unwritable => ?_)
    fun deadline limited => ?_
  · exact (begins none).over fun _ => .unlimited failed
  · exact (begins deadline).over fun _ => .unwritable (Or.inl unwritable)
  · refine satisfies_rounds (fun s => ?_) n ⟨[], begins deadline⟩
    rintro ⟨popped, settled⟩
    exact (settled_round (isSome_number?_of_deadline? limited) settled).imp
      fun s ⟨program, settled⟩ => ⟨_, settled⟩

end FunctionSynthesis.Search
