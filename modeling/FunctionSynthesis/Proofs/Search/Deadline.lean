import Mathlib.Data.List.Chain
import FunctionSynthesis.Proofs.Search.History
import FunctionSynthesis.Proofs.Value.Number

/-!
# Searches with a deadline

A search with a deadline reads the clock whenever it takes a program from the queue and
before it considers a candidate. `Plan.looks` lists the states in which a search without a
deadline comes to these places. With a deadline the search goes through the same states,
until a reading is too late: it is the other search, cut off at the first such look
(`run_eq_cut`). All that it has tested by then, the other search tests too
(`truncates_of_run`). Only a limit that cannot be added to a reading of the clock ends a search
before it begins.
-/

namespace FunctionSynthesis.Search

variable {σ α : Type}

/-! ### Readings of the clock -/

/-- The same state after another number of readings. -/
def State.withReadings (s : State σ) (readings : Nat) : State σ :=
  { s with readings }

namespace Progress

/-- The same progress after another number of readings. -/
def withReadings (progress : Progress σ) (readings : Nat) : Progress σ :=
  match progress with
  | .ongoing s => .ongoing (s.withReadings readings)
  | .ended outcome s => .ended outcome (s.withReadings readings)

theorem state_withReadings (progress : Progress σ) (readings : Nat) :
    (progress.withReadings readings).state = progress.state.withReadings readings := by
  cases progress <;> rfl

theorem needing_withReadings {attempt : Except Fault α} {s : State σ} {readings : Nat}
    {step step' : α → Progress σ}
    (same : ∀ a, step' a = (step a).withReadings readings) :
    needing attempt (s.withReadings readings) step' =
      (needing attempt s step).withReadings readings := by
  cases attempt with
  | error fault => rfl
  | ok a => exact same a

end Progress

section Readings

variable (plan : Plan σ) (candidate : Term) (s : State σ) (readings : Nat)

theorem enqueue_withReadings :
    enqueue plan candidate (s.withReadings readings) =
      (enqueue plan candidate s).withReadings readings :=
  Progress.needing_withReadings fun admitted => by cases admitted <;> rfl

theorem resolve_withReadings :
    resolve plan candidate (s.withReadings readings) =
      (resolve plan candidate s).withReadings readings := by
  refine Progress.needing_withReadings fun resolution => ?_
  obtain ⟨resolved, filled⟩ := resolution
  cases resolved with
  | none => rfl
  | some resolved =>
      dsimp only
      split
      · exact enqueue_withReadings plan resolved s readings
      · rfl

theorem considerPartial_withReadings :
    considerPartial plan candidate (s.withReadings readings) =
      (considerPartial plan candidate s).withReadings readings := by
  have recorded : (s.withReadings readings).record (.typed candidate) =
      (s.record (.typed candidate)).withReadings readings := rfl
  unfold considerPartial
  dsimp only
  rw [recorded]
  split
  · rfl
  · refine Progress.needing_withReadings fun fits => ?_
    split
    · rfl
    · split
      · exact resolve_withReadings plan candidate _ readings
      · exact enqueue_withReadings plan candidate _ readings

theorem test_withReadings :
    test plan candidate (s.withReadings readings) =
      (test plan candidate s).withReadings readings := by
  have asked : plan.tester.test (s.withReadings readings).tester candidate =
      plan.tester.test s.tester candidate := rfl
  unfold test
  rw [asked]
  obtain ⟨verdict, memory⟩ := plan.tester.test s.tester candidate
  cases verdict <;> rfl

/-- What is considered does not depend on the clock. -/
theorem consider_withReadings :
    consider plan candidate (s.withReadings readings) =
      (consider plan candidate s).withReadings readings := by
  unfold consider
  split
  · refine Progress.needing_withReadings fun admitted => ?_
    split
    · exact test_withReadings plan candidate s readings
    · rfl
  · exact considerPartial_withReadings plan candidate s readings

end Readings

/-! ### Where the clock is read -/

namespace Progress

/-- What comes after a search that goes on. -/
def following (progress : Progress σ) (later : State σ → List α) : List α :=
  match progress with
  | .ongoing s => later s
  | .ended _ _ => []

/-- The states in which steps taken in turn begin, as far as they are taken. -/
def beginnings (step : α → State σ → Progress σ) : List α → State σ → List (State σ)
  | [], _ => []
  | item :: items, s => s :: (step item s).following (beginnings step items)

end Progress

namespace Plan

variable (plan : Plan σ)

/-- The states in which a search without a deadline begins with the candidates of a
program. -/
def looksAtCandidates (program : Term) (s : State σ) : List (State σ) :=
  match program.expandHoles plan.expander plan.query with
  | .error _ => []
  | .ok (expanded, _) =>
      Progress.beginnings (considerAttempt plan none) (plan.attempts program)
        (s.record (.expanded expanded.frontiers))

/-- The states in which a round without a deadline comes to where the clock is read: at
its beginning, and in front of every candidate. -/
def looksInRound (s : State σ) : List (State σ) :=
  s :: match s.queue.pop? with
    | none => []
    | some (program, queue) =>
        plan.looksAtCandidates program (State.record { s with queue } (.popped program))

/-- The states in which rounds without a deadline come to where the clock is read, in
order. -/
def looksInRounds : Nat → State σ → List (State σ)
  | 0, _ => []
  | n + 1, s => plan.looksInRound s ++ (round plan none s).following (looksInRounds n)

/-- The states in which a search without a deadline comes to where the clock is read. There
are none if its query cannot be summed up, so that it has no rounds. -/
def looks (n : Nat) (s : State σ) : List (State σ) :=
  if plan.query.isWritable then plan.looksInRounds n s else []

end Plan

/-! ### Cutting a search off -/

section Cut

variable (plan : Plan σ) (instant : Number)

/-- A search that is cut off at the first look for which the clock is too late, and goes
through to its end when there is none. -/
def cut : List (State σ) → Progress σ → Nat → Progress σ
  | [], progress, readings => progress.withReadings readings
  | look :: looks, progress, readings =>
      if instant.isLess (plan.clock readings) then
        .fail (timedOut plan.limit look.counters) (look.withReadings (readings + 1))
      else cut looks progress (readings + 1)

variable {plan instant}

/-- A search that goes on after it might have been cut off can be cut off later. -/
theorem next_cut {timed step : State σ → Progress σ} {later : State σ → List (State σ)}
    (onwards : ∀ s readings, timed (s.withReadings readings) =
      cut plan instant (later s) (step s) readings)
    (looks : List (State σ)) (progress : Progress σ) (readings : Nat) :
    (cut plan instant looks progress readings).next timed =
      cut plan instant (looks ++ progress.following later) (progress.next step)
        readings := by
  induction looks generalizing readings with
  | nil =>
      cases progress with
      | ongoing s => exact onwards s readings
      | ended outcome s => rfl
  | cons look looks ih =>
      rw [List.cons_append, cut, cut]
      split
      · rfl
      · exact ih (readings + 1)

theorem inTurn_eq_cut {timed step : α → State σ → Progress σ}
    (each : ∀ item s readings, timed item (s.withReadings readings) =
      cut plan instant [s] (step item s) readings)
    (items : List α) (s : State σ) (readings : Nat) :
    Progress.inTurn timed items (s.withReadings readings) =
      cut plan instant (Progress.beginnings step items s) (Progress.inTurn step items s)
        readings := by
  induction items generalizing s readings with
  | nil => rfl
  | cons item items ih =>
      rw [Progress.inTurn, each]
      exact next_cut ih [s] (step item s) readings

/-- A search that goes on after a look at the clock. -/
theorem checkDeadline_next_eq_cut {timed : State σ → Progress σ} {looks : List (State σ)}
    {progress : Progress σ} {s : State σ} {readings : Nat}
    (onwards : timed (s.withReadings (readings + 1)) =
      cut plan instant looks progress (readings + 1)) :
    (checkDeadline plan (some instant) (s.withReadings readings)).next timed =
      cut plan instant (s :: looks) progress readings := by
  have look : checkDeadline plan (some instant) (s.withReadings readings) =
      if instant.isLess (plan.clock readings) then
        .fail (timedOut plan.limit s.counters) (s.withReadings (readings + 1))
      else .ongoing (s.withReadings (readings + 1)) := rfl
  rw [look, cut]
  split
  · rfl
  · exact onwards

theorem considerAttempt_eq_cut (attempt : Except Fault Term) (s : State σ)
    (readings : Nat) :
    considerAttempt plan (some instant) attempt (s.withReadings readings) =
      cut plan instant [s] (considerAttempt plan none attempt s) readings :=
  checkDeadline_next_eq_cut (Progress.needing_withReadings fun candidate =>
    consider_withReadings plan candidate s (readings + 1))

theorem explore_eq_cut (program : Term) (s : State σ) (readings : Nat) :
    explore plan (some instant) program (s.withReadings readings) =
      cut plan instant (plan.looksAtCandidates program s) (explore plan none program s)
        readings := by
  unfold Plan.looksAtCandidates
  cases expansion : program.expandHoles plan.expander plan.query with
  | error fault =>
      rw [explore_of_error plan _ expansion, explore_of_error plan _ expansion]
      rfl
  | ok result =>
      obtain ⟨expanded, counts⟩ := result
      rw [explore_of_ok plan _ expansion, explore_of_ok plan _ expansion]
      exact inTurn_eq_cut considerAttempt_eq_cut (plan.attempts program)
        (s.record (.expanded expanded.frontiers)) readings

theorem round_none (plan : Plan σ) (s : State σ) :
    round plan none s = match s.queue.pop? with
      | none => .fail (.problem (.exhausted Problem.nothingFound (some s.counters))) s
      | some (program, queue) =>
          explore plan none program (State.record { s with queue } (.popped program)) :=
  rfl

theorem round_eq_cut (s : State σ) (readings : Nat) :
    round plan (some instant) (s.withReadings readings) =
      cut plan instant (plan.looksInRound s) (round plan none s) readings := by
  refine checkDeadline_next_eq_cut ?_
  have queue : (s.withReadings (readings + 1)).queue = s.queue := rfl
  rw [round_none, queue]
  cases s.queue.pop? with
  | none => rfl
  | some taken =>
      obtain ⟨program, queue⟩ := taken
      exact explore_eq_cut program (State.record { s with queue } (.popped program))
        (readings + 1)

/-- Rounds with a deadline are rounds without one, cut off at the first look that is too
late. -/
theorem rounds_eq_cut (n : Nat) (s : State σ) (readings : Nat) :
    rounds plan (some instant) n (s.withReadings readings) =
      cut plan instant (plan.looksInRounds n s) (rounds plan none n s) readings := by
  induction n generalizing s readings with
  | zero => rfl
  | succ n ih =>
      rw [rounds, round_eq_cut]
      exact next_cut ih (plan.looksInRound s) (round plan none s) readings

end Cut

/-! ### What happens between two looks -/

/-- Whether a search comes from one state to another with at most one test. -/
structure OneTest (s s' : State σ) : Prop where
  events : s.events <:+ s'.events
  trials : ∃ trials, trials.length ≤ 1 ∧ s'.trials = s.trials ++ trials

theorem OneTest.of_events {s s' : State σ} (events : List Event)
    (later : s'.events = events ++ s.events)
    (few : (events.filterMap Event.trial?).length ≤ 1) : OneTest s s' where
  events := ⟨events, later.symm⟩
  trials := by
    refine ⟨events.reverse.filterMap Event.trial?, ?_, State.gathered_of_events later _⟩
    rwa [List.filterMap_reverse, List.length_reverse]

theorem OneTest.refl (s : State σ) : OneTest s s :=
  .of_events [] rfl (Nat.zero_le 1)

section Between

variable (plan : Plan σ)

theorem oneTest_test (candidate : Term) (s : State σ) :
    OneTest s (test plan candidate s).state := by
  have tested : (test plan candidate s).state.events =
      [.tested candidate (plan.tester.test s.tester candidate).1] ++ s.events := by
    unfold test
    obtain ⟨verdict, memory⟩ := plan.tester.test s.tester candidate
    cases verdict <;> rfl
  exact .of_events _ tested (Nat.le_refl 1)

theorem oneTest_of_considered {plan : Plan σ} {candidate : Term} {s : State σ}
    {progress : Progress σ} (considered : Considered plan candidate s progress) :
    OneTest s progress.state := by
  have silent {s' : State σ} (events : List Event) (later : s'.events = events ++ s.events)
      (none : events.filterMap Event.trial? = []) : OneTest s s' :=
    .of_events events later (by rw [none]; exact Nat.zero_le 1)
  cases considered with
  | tested _ => exact oneTest_test plan candidate s
  | tooLarge _ _ => exact silent [] rfl rfl
  | eliminated _ => exact silent [.eliminated candidate, .typed candidate] rfl rfl
  | @queued program _ => exact silent [.queued program _, .typed candidate] rfl rfl
  | dropped _ _ _ _ => exact silent [.dropped candidate, .typed candidate] rfl rfl
  | outgrown _ _ _ _ => exact silent [.typed candidate] rfl rfl
  | failed events _ same =>
      refine silent events rfl ?_
      rw [same]
      cases candidate.isClosed <;> rfl

theorem oneTest_considerAttempt (attempt : Except Fault Term) (s : State σ) :
    OneTest s (considerAttempt plan none attempt s).state := by
  cases attempt with
  | error fault => exact .refl s
  | ok candidate => exact oneTest_of_considered (considered_consider plan candidate s)

/-- Whether looks that end with a progress stand in a row with what they begin from, with
at most one test between one and the next. -/
def InRow (s : State σ) (looks : List (State σ)) (progress : Progress σ) : Prop :=
  ∀ before, OneTest before s →
    (before :: (looks ++ [progress.state])).IsChain OneTest

theorem inRow_nil (progress : Progress σ) : InRow progress.state [] progress :=
  fun _ between => List.isChain_pair.2 between

theorem InRow.cons {s s' : State σ} {looks : List (State σ)} {progress : Progress σ}
    (between : OneTest s s') (row : InRow s' looks progress) :
    InRow s (s :: looks) progress :=
  fun _ between' => List.isChain_cons_cons.2 ⟨between', row s between⟩

theorem InRow.next {s : State σ} {looks : List (State σ)} {progress : Progress σ}
    {later : State σ → List (State σ)} {step : State σ → Progress σ}
    (first : InRow s looks progress) (onwards : ∀ s, InRow s (later s) (step s)) :
    InRow s (looks ++ progress.following later) (progress.next step) := by
  intro before between
  have row := first before between
  cases progress with
  | ended outcome s' =>
      rw [Progress.following, List.append_nil]
      exact row
  | ongoing s' =>
      obtain ⟨earlier, last, split⟩ : ∃ earlier last, before :: looks = earlier ++ [last] :=
        ⟨_, _, (List.dropLast_append_getLast (List.cons_ne_nil before looks)).symm⟩
      rw [← List.cons_append, split, List.append_assoc, List.singleton_append,
        List.isChain_split] at row
      have rest := onwards s' last (List.isChain_pair.1 row.2)
      rw [List.append_assoc, ← List.cons_append, split, List.append_assoc,
        List.singleton_append, List.isChain_split]
      exact ⟨row.1, rest⟩

theorem inRow_beginnings {step : α → State σ → Progress σ}
    (each : ∀ item s, OneTest s (step item s).state) (items : List α) (s : State σ) :
    InRow s (Progress.beginnings step items s) (Progress.inTurn step items s) := by
  induction items generalizing s with
  | nil => exact inRow_nil (.ongoing s)
  | cons item items ih => exact (InRow.cons (each item s) (inRow_nil (step item s))).next ih

theorem inRow_round (s : State σ) :
    InRow s (plan.looksInRound s) (round plan none s) := by
  rw [round_none, Plan.looksInRound]
  cases s.queue.pop? with
  | none => exact .cons (.refl s) (inRow_nil (.fail _ s))
  | some taken =>
      obtain ⟨program, queue⟩ := taken
      dsimp only
      unfold Plan.looksAtCandidates
      cases expansion : program.expandHoles plan.expander plan.query with
      | error fault =>
          rw [explore_of_error plan none expansion]
          exact .cons (.of_events [.expanded _, .popped program] rfl (Nat.zero_le 1))
            (inRow_nil (.fail _ _))
      | ok result =>
          obtain ⟨expanded, counts⟩ := result
          rw [explore_of_ok plan none expansion]
          exact .cons (.of_events [.expanded _, .popped program] rfl (Nat.zero_le 1))
            (inRow_beginnings (oneTest_considerAttempt plan) _ _)

theorem inRow_rounds (n : Nat) (s : State σ) :
    InRow s (plan.looksInRounds n s) (rounds plan none n s) := by
  induction n generalizing s with
  | zero => exact inRow_nil (.ongoing s)
  | succ n ih => exact (inRow_round plan s).next ih

end Between

/-! ### The whole search -/

section Run

variable {plan : Plan σ}

/-- A search that is cut off stops at the first look that is too late, or where it stops
without that. -/
theorem exists_stop (plan : Plan σ) (instant : Number) (looks : List (State σ))
    (progress : Progress σ) (readings : Nat) :
    let timed := cut plan instant looks progress readings
    ∃ m stop, (looks ++ [progress.state])[m]? = some stop ∧
      timed.state.events = stop.events ∧
      (∀ j < m, instant.isLess (plan.clock (readings + j)) = false) ∧
      (m = looks.length ∧ timed = progress.withReadings (readings + m) ∨
        looks[m]? = some stop ∧ instant.isLess (plan.clock (readings + m)) = true ∧
          timed = .fail (timedOut plan.limit stop.counters)
            (stop.withReadings (readings + (m + 1)))) := by
  have nothing (j : Nat) (below : j < 0) :
      instant.isLess (plan.clock (readings + j)) = false := absurd below (Nat.not_lt_zero j)
  induction looks generalizing readings with
  | nil =>
      have same : (progress.withReadings readings).state.events = progress.state.events := by
        rw [Progress.state_withReadings]
        rfl
      exact ⟨0, progress.state, rfl, same, nothing, Or.inl ⟨rfl, rfl⟩⟩
  | cons look looks ih =>
      intro timed
      cases late : instant.isLess (plan.clock readings) with
      | true =>
          have ended : timed = .fail (timedOut plan.limit look.counters)
              (look.withReadings (readings + 1)) := if_pos late
          exact ⟨0, look, rfl, by rw [ended]; rfl, nothing, Or.inr ⟨rfl, late, ended⟩⟩
      | false =>
          have onwards : timed = cut plan instant looks progress (readings + 1) :=
            if_neg (ne_true_of_eq_false late)
          have shift (j : Nat) : readings + 1 + j = readings + (j + 1) := by omega
          obtain ⟨m, stop, here, events, before, ending⟩ := ih (readings + 1) (fun j below =>
            absurd below (Nat.not_lt_zero j))
          simp only [shift] at before ending
          rw [onwards]
          refine ⟨m + 1, stop, here, events, ?_, ?_⟩
          · rintro (_ | j) below
            · exact late
            · exact before j (Nat.lt_of_succ_lt_succ below)
          · exact ending.imp_left fun ⟨through, same⟩ => ⟨congrArg (· + 1) through, same⟩

/-- In a row of states with at most one test between one and the next, every test up to a
state is made right after one of the states before it. -/
theorem exists_before_test {states : List (State σ)} (row : states.IsChain OneTest)
    (first : ∀ s, states[0]? = some s → s.trials = []) {m k : Nat} {s : State σ}
    (here : states[m]? = some s) (below : k < s.trials.length) :
    ∃ i < m, ∃ before after, states[i]? = some before ∧ states[i + 1]? = some after ∧
      before.trials = s.trials.take k ∧ after.trials = s.trials.take (k + 1) := by
  induction m generalizing s with
  | zero =>
      rw [first s here] at below
      exact absurd below (Nat.not_lt_zero k)
  | succ m ih =>
      obtain ⟨inside, rfl⟩ := List.getElem?_eq_some_iff.1 here
      have here' : states[m]? = some states[m] := List.getElem?_eq_getElem (by omega)
      obtain ⟨trials, few, added⟩ := (List.isChain_iff_getElem.1 row m inside).trials
      rw [added] at below ⊢
      by_cases earlier : k < states[m].trials.length
      · obtain ⟨i, before, s, s', atS, atS', taken, taken'⟩ := ih here' earlier
        refine ⟨i, by omega, s, s', atS, atS', ?_, ?_⟩
        · rw [taken, List.take_append_of_le_length (by omega)]
        · rw [taken', List.take_append_of_le_length earlier]
      · have last : k = states[m].trials.length := by
          rw [List.length_append] at below
          omega
        refine ⟨m, by omega, states[m], _, here', here, ?_, ?_⟩
        · rw [last, List.take_left]
        · rw [added, List.take_of_length_le]
          rw [List.length_append]
          omega

theorem exists_look_before_test {states : List (State σ)} (row : states.IsChain OneTest)
    (first : ∀ s, states[0]? = some s → s.trials = []) {m k : Nat} {s : State σ}
    (here : states[m]? = some s) (below : k < s.testedPrograms.length) :
    ∃ i < m, ∃ look next, states[i]? = some look ∧ states[i + 1]? = some next ∧
      look.testedPrograms = s.testedPrograms.take k ∧
      next.testedPrograms = s.testedPrograms.take (k + 1) := by
  simp only [State.testedPrograms_eq_map, ← List.map_take]
  rw [State.testedPrograms_eq_map, List.length_map] at below
  obtain ⟨i, earlier, look, next, atLook, atNext, taken, taken'⟩ :=
    exists_before_test row first here below
  exact ⟨i, earlier, look, next, atLook, atNext, congrArg (List.map Prod.fst) taken,
    congrArg (List.map Prod.fst) taken'⟩

/-- The rounds of a plan do not depend on its limit unless there is a deadline. -/
theorem rounds_without_limit (n : Nat) (s : State σ) :
    rounds { plan with limit := .none } none n s = rounds plan none n s := by
  induction n generalizing s with
  | zero => rfl
  | succ n ih =>
      rw [rounds, rounds, funext ih]
      rfl

/-- A search with no limit is one without a deadline. -/
theorem run_without_limit (writable : plan.query.isWritable = true) (n : Nat) (s : State σ) :
    run { plan with limit := .none } n s = rounds plan none n s := by
  let unlimited : Plan σ := { plan with limit := .none }
  have limitless : deadline? unlimited.limit (unlimited.clock s.readings) = .ok none := rfl
  exact (run_of_isWritable limitless writable n).trans (rounds_without_limit n s)

theorem run_without_limit_of_not_isWritable (unwritable : plan.query.isWritable = false)
    (n : Nat) (s : State σ) :
    run { plan with limit := .none } n s = .fail (.fault (Fault.tooManyDigits none)) s := by
  let unlimited : Plan σ := { plan with limit := .none }
  have limitless : deadline? unlimited.limit (unlimited.clock s.readings) = .ok none := rfl
  exact run_of_not_isWritable limitless unwritable n

theorem deadline?_of_number? {limit : Value} {now span : Number}
    (limited : limit.number? = some span) : deadline? limit now = (now.add span).map some := by
  unfold deadline?
  split
  next => cases limited
  next =>
    rw [limited]
    rfl

/-- A search with a deadline is one without, cut off at the first look that is too late. -/
theorem run_eq_cut {s : State σ} {instant : Number}
    (limited : deadline? plan.limit (plan.clock s.readings) = .ok (some instant)) (n : Nat) :
    run plan n s = cut plan instant (plan.looks n s) (run { plan with limit := .none } n s)
      (s.readings + 1) := by
  unfold Plan.looks
  split
  next writable =>
    rw [run_without_limit writable, run_of_isWritable limited writable]
    exact rounds_eq_cut n s (s.readings + 1)
  next unwritable =>
    rw [Bool.not_eq_true] at unwritable
    rw [run_without_limit_of_not_isWritable unwritable, run_of_not_isWritable limited unwritable]
    rfl

theorem inRow_run (plan : Plan σ) (n : Nat) (s : State σ) :
    InRow s (plan.looks n s) (run { plan with limit := .none } n s) := by
  unfold Plan.looks
  split
  next writable =>
    rw [run_without_limit writable]
    exact inRow_rounds plan n s
  next unwritable =>
    rw [Bool.not_eq_true] at unwritable
    rw [run_without_limit_of_not_isWritable unwritable]
    exact inRow_nil (.fail _ s)

/-- A search begins with a look, if it does anything. -/
theorem head_looks (plan : Plan σ) (n : Nat) (s : State σ) :
    (plan.looks n s ++ [(run { plan with limit := .none } n s).state])[0]? = some s := by
  unfold Plan.looks
  split
  next writable =>
    rw [run_without_limit writable]
    cases n <;> rfl
  next unwritable =>
    rw [Bool.not_eq_true] at unwritable
    rw [run_without_limit_of_not_isWritable unwritable]
    rfl

theorem pairwise_events {states : List (State σ)} (row : states.IsChain OneTest) :
    states.Pairwise fun s s' => s.events <:+ s'.events := by
  let Later (s s' : State σ) : Prop := s.events <:+ s'.events
  have transitive : Trans Later Later Later := ⟨fun first second => first.trans second⟩
  exact (row.imp fun _ _ between => between.events).pairwise

theorem testedPrograms_prefix {s s' : State σ} (later : s.events <:+ s'.events) :
    s.testedPrograms <+: s'.testedPrograms :=
  (List.reverse_prefix.2 later).filterMap _

theorem testedPrograms_of_events {s s' : State σ} (same : s.events = s'.events) :
    s.testedPrograms = s'.testedPrograms := by
  rw [State.testedPrograms, same]
  rfl

/-- What is tested up to a state of a row is tested first up to the last one. -/
theorem testedPrograms_prefix_last {states : List (State σ)} {s last : State σ}
    (order : (states ++ [last]).Pairwise fun s s' => s.events <:+ s'.events)
    (member : s ∈ states ++ [last]) : s.testedPrograms <+: last.testedPrograms := by
  rcases List.mem_append.1 member with earlier | same
  · exact testedPrograms_prefix ((List.pairwise_append.1 order).2.2 s earlier last
      (List.mem_singleton_self last))
  · obtain rfl := List.mem_singleton.1 same
    exact List.prefix_rfl

/-- A limit that can be added to a reading of the clock only cuts a search off, whatever the
clock shows. What the search tests with a limit is what it tests first without one. Either every
look at the clock is in time, and the search ends or goes on as it does without a limit, or it
ends at the first look that is too late, with what has been counted when the search without a
limit comes to that place. Every test is made between a look that was in time and the next one,
and no other test is made between the two. A limit that is added to a floating number is not too
long to be shown when the search ends for it. -/
theorem truncates_of_run (plan : Plan σ) {span instant : Number}
    (limited : plan.limit.number? = some span) (n : Nat) (examples : Int) (readings : Nat)
    (memory : σ) (sum : (plan.clock readings).add span = .ok instant) :
    let begins := start plan examples readings memory
    let timed := run plan n begins
    let untimed := run { plan with limit := .none } n begins
    let looks := plan.looks n begins
    let inTime (i : Nat) : Prop := instant.isLess (plan.clock (readings + 1 + i)) = false
    timed.state.testedPrograms <+: untimed.state.testedPrograms ∧
      (looks ++ [untimed.state]).Pairwise (fun s s' => s.events <:+ s'.events) ∧
      ((∀ i < looks.length, inTime i) ∧
          timed = untimed.withReadings (readings + 1 + looks.length) ∨
        ∃ i look, looks[i]? = some look ∧ (∀ j < i, inTime j) ∧ ¬ inTime i ∧
          timed = .ended (.failed (timedOut plan.limit look.counters))
            (look.withReadings (readings + 1 + (i + 1)))) ∧
      (∀ k < timed.state.testedPrograms.length, ∃ i look next,
        looks[i]? = some look ∧ inTime i ∧
        (looks ++ [untimed.state])[i + 1]? = some next ∧
        look.testedPrograms = timed.state.testedPrograms.take k ∧
        next.testedPrograms = timed.state.testedPrograms.take (k + 1)) ∧
      ((∃ x, plan.clock readings = .float x) → ∀ counters,
        timedOut plan.limit counters = .problem (.timedOut plan.limit (some counters))) := by
  intro begins timed untimed looks inTime
  have withLimit : timed = cut plan instant looks untimed (readings + 1) :=
    run_eq_cut ((deadline?_of_number? limited).trans (congrArg (Except.map some) sum)) n
  have row : (looks ++ [untimed.state]).IsChain OneTest := by
    exact (inRow_run plan n begins begins (.refl begins)).tail
  have order := pairwise_events row
  obtain ⟨m, stop, here, events, before, ending⟩ :=
    exists_stop plan instant looks untimed (readings + 1)
  rw [← withLimit] at events ending
  have sameTests := testedPrograms_of_events events
  refine ⟨?_, order, ?_, fun k below => ?_, ?_⟩
  · rw [sameTests]
    exact testedPrograms_prefix_last order (List.mem_of_getElem? here)
  · rcases ending with ⟨rfl, same⟩ | ⟨look, late, same⟩
    · exact Or.inl ⟨before, same⟩
    · exact Or.inr ⟨m, stop, look, before, by simp [inTime, late], same⟩
  · have first (s : State σ) (atHead : (looks ++ [untimed.state])[0]? = some s) :
        s.trials = [] := by
      rw [head_looks] at atHead
      rw [← Option.some.inj atHead]
      rfl
    rw [sameTests] at below ⊢
    obtain ⟨i, earlier, look, next, atLook, atNext, taken⟩ :=
      exists_look_before_test row first here below
    -- the place comes before the stop, so that it is a look and not the end of the row
    have within : i < looks.length := by
      obtain ⟨inside, _⟩ := List.getElem?_eq_some_iff.1 here
      rw [List.length_append, List.length_singleton] at inside
      omega
    rw [List.getElem?_append_left within] at atLook
    exact ⟨i, look, next, atLook, before i earlier, atNext, taken⟩
  · rintro ⟨x, floating⟩ counters
    rw [floating] at sum
    exact if_pos (Number.isWritable_of_add limited sum)

/-- The clock advances by one with every reading and the limit is two, so the third look at
it is too late. The first of three programs has been tested by then. -/
theorem truncates_of_run_third_look :
    let plan : Plan Unit :=
      { query := { env := [], goal := .integer }
        expander := .fixed [.int 0, .int 1, .int 2]
        tester := ⟨fun _ _ => (.rejected, ())⟩
        clock := fun i => .int i
        limit := .int 2 }
    let timed := run plan 2 (start plan 7 0 ())
    let untimed := run { plan with limit := .none } 2 (start plan 7 0 ())
    timed.outcome? =
        some (.failed (.problem (.timedOut (.int 2) (some ⟨7, 1, 0⟩)))) ∧
      timed.state.testedPrograms = [.int 0] ∧
      untimed.state.testedPrograms = [.int 0, .int 1, .int 2] ∧
      timed.state.testedPrograms <+: untimed.state.testedPrograms := by
  intro plan timed untimed
  have prefixed := (@truncates_of_run Unit plan (.int 2) (.int 2) rfl 2 7 0 () rfl).1
  have short : plan.limit.isWritable = true :=
    (Value.isWritable_int_iff 2).2 (Value.lt_numeralBound (by decide))
  have ended : timed.outcome? = some (.failed (timedOut plan.limit ⟨7, 1, 0⟩)) := rfl
  rw [timedOut, if_pos short] at ended
  exact ⟨ended, rfl, rfl, prefixed⟩

/-- A search ends before it begins when its limit is too large to be added to a reading of a
floating clock. -/
theorem run_of_overflow {s : State σ} {x : Binary64} {k : Int}
    (floating : plan.clock s.readings = .float x) (limited : plan.limit = .int k)
    (large : (Binary64.ofInt k).isFinite = false) (n : Nat) :
    run plan n s = .fail (.fault
      (Fault.describe .overflow "int too large to convert to float")) s := by
  refine run_of_no_deadline ?_ n
  rw [floating, limited, deadline?_of_number? rfl, Number.add_eq_error x large]
  rfl

/-- A limit of many digits cannot be added to a reading of a floating clock. So the search ends
with a fault, but it finds a program without a limit. -/
theorem not_truncates_of_run_overflow :
    let plan : Plan Unit :=
      { query := { env := [], goal := .integer }
        expander := .fixed [.int 1]
        tester := ⟨fun _ _ => (.accepted, ())⟩
        clock := .steady (.float (.zero false))
        limit := .int (10 ^ 309) }
    let timed := run plan 2 (start plan 0 0 ())
    let untimed := run { plan with limit := .none } 2 (start plan 0 0 ())
    untimed.outcome? = some (.found (.int 1)) ∧
      timed.outcome? = some (.failed (.fault
        (Fault.describe .overflow "int too large to convert to float"))) ∧
      timed.outcome? ≠ untimed.outcome? ∧
      ∀ counters, timed.outcome? ≠
        some (.failed (.problem (.timedOut plan.limit (some counters)))) := by
  intro plan timed untimed
  have large : (Binary64.ofInt (10 ^ 309)).isFinite = false := by decide +kernel
  have ended : timed = .fail (.fault
      (Fault.describe .overflow "int too large to convert to float")) (start plan 0 0 ()) :=
    run_of_overflow rfl rfl large 2
  have found : untimed.outcome? = some (.found (.int 1)) := rfl
  rw [ended, found]
  exact ⟨rfl, rfl, nofun, nofun⟩

end Run

end FunctionSynthesis.Search
