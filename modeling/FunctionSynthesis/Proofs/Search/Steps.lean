import FunctionSynthesis.Proofs.Attempt
import FunctionSynthesis.Search.Run

/-!
# Steps in turn

Every loop of the search takes steps in turn until one of them ends the search.
`satisfies_inTurn` and `satisfies_rounds` say what such a loop keeps when each of
its steps does, and `satisfies_run` what a search keeps that may end before its
first round. `explore_of_ok` writes the exploration of a program as such a loop,
over the list of the candidates that come of it.
-/

namespace FunctionSynthesis.Search

variable {σ α : Type}

namespace Progress

/-! ### Sequences of steps -/

/-- Whether a search that goes on is in a state of one kind and one that has ended
is in a state that goes with its outcome. -/
def Satisfies (going : State σ → Prop) (ended : Outcome → State σ → Prop) :
    Progress σ → Prop
  | .ongoing s => going s
  | .ended outcome s => ended outcome s

/-- Take a step for every item in turn until the search ends. -/
def inTurn (step : α → State σ → Progress σ) : List α → State σ → Progress σ
  | [], s => .ongoing s
  | item :: items, s => (step item s).next (inTurn step items)

theorem next_ongoing (progress : Progress σ) : progress.next .ongoing = progress := by
  cases progress <;> rfl

theorem next_next (progress : Progress σ) (first second : State σ → Progress σ) :
    (progress.next first).next second =
      progress.next fun s => (first s).next second := by
  cases progress <;> rfl

theorem foldl_next (step : α → State σ → Progress σ) (items : List α)
    (progress : Progress σ) :
    items.foldl (fun progress item => progress.next (step item)) progress =
      progress.next (inTurn step items) := by
  induction items generalizing progress with
  | nil => exact (next_ongoing progress).symm
  | cons item items ih =>
      rw [List.foldl_cons, ih, next_next]
      rfl

theorem inTurn_append (step : α → State σ → Progress σ) (first second : List α)
    (s : State σ) :
    inTurn step (first ++ second) s = (inTurn step first s).next (inTurn step second) := by
  induction first generalizing s with
  | nil => rfl
  | cons item first ih =>
      rw [List.cons_append, inTurn, inTurn, next_next]
      congr 1
      exact funext ih

theorem inTurn_map {β : Type} (f : β → α) (step : α → State σ → Progress σ)
    (items : List β) (s : State σ) :
    inTurn step (items.map f) s = inTurn (fun item => step (f item)) items s := by
  induction items generalizing s with
  | nil => rfl
  | cons item items ih =>
      rw [List.map_cons, inTurn, inTurn]
      congr 1
      exact funext ih

variable {going going' : State σ → Prop} {ended : Outcome → State σ → Prop}

theorem Satisfies.imp {progress : Progress σ}
    (satisfies : progress.Satisfies going ended) (weaker : ∀ s, going s → going' s) :
    progress.Satisfies going' ended := by
  cases progress with
  | ongoing s => exact weaker s satisfies
  | ended outcome s => exact satisfies

theorem satisfies_next {progress : Progress σ} {step : State σ → Progress σ}
    (first : progress.Satisfies going ended)
    (second : ∀ s, going s → (step s).Satisfies going' ended) :
    (progress.next step).Satisfies going' ended := by
  cases progress with
  | ongoing s => exact second s first
  | ended outcome s => exact first

/-- What holds of the items done holds when all are done, if every step adds its
item. -/
theorem satisfies_inTurn {step : α → State σ → Progress σ}
    {going : List α → State σ → Prop} {items : List α}
    (keeps : ∀ done item rest s, done ++ item :: rest = items → going done s →
      (step item s).Satisfies (going (done ++ [item])) ended)
    {s : State σ} (begins : going [] s) :
    (inTurn step items s).Satisfies (going items) ended := by
  have onwards : ∀ rest done s, done ++ rest = items → going done s →
      (inTurn step rest s).Satisfies (going items) ended := by
    intro rest
    induction rest with
    | nil =>
        intro done s all holds
        rw [List.append_nil] at all
        subst all
        exact holds
    | cons item rest ih =>
        intro done s all holds
        refine satisfies_next (keeps done item rest s all holds) fun s' holds' => ?_
        exact ih (done ++ [item]) s' (by rw [List.append_assoc]; exact all) holds'
  exact onwards items [] s rfl begins

end Progress

/-- What every round keeps is kept by any number of rounds. -/
theorem satisfies_rounds {plan : Plan σ} {deadline : Option Number}
    {going : State σ → Prop} {ended : Outcome → State σ → Prop}
    (keeps : ∀ s, going s → (round plan deadline s).Satisfies going ended)
    (n : Nat) {s : State σ} (begins : going s) :
    (rounds plan deadline n s).Satisfies going ended := by
  induction n generalizing s with
  | zero => exact begins
  | succ n ih => exact Progress.satisfies_next (keeps s begins) fun s' => ih

/-! ### Beginnings -/

/-- Only the number of readings changes when the clock is read. -/
theorem State.readFor_eq (deadline : Option Number) (s : State σ) :
    s.readFor deadline = { s with readings := (s.readFor deadline).readings } := by
  cases deadline <;> rfl

/-- Only a number is a limit that gives a deadline. -/
theorem isSome_number?_of_deadline? {limit : Value} {now : Number} {deadline : Option Number}
    (limited : deadline? limit now = .ok deadline) (timed : deadline.isSome = true) :
    limit.number?.isSome = true := by
  unfold deadline? at limited
  split at limited
  · rw [← Attempt.pure_eq_ok_iff.1 limited] at timed
    cases timed
  · split at limited
    next span number =>
      rw [number]
      rfl
    next => exact (Attempt.throw_eq_ok_iff.1 limited).elim

section

variable {plan : Plan σ} {s : State σ} {deadline : Option Number}

/-- The rounds of a search begin when there is a deadline, or none is wanted, and its
query can be summed up. -/
theorem run_of_isWritable
    (limited : deadline? plan.limit (plan.clock s.readings) = .ok deadline)
    (writable : plan.query.isWritable = true) (n : Nat) :
    run plan n s = rounds plan deadline n (s.readFor deadline) := by
  simp only [run, limited, Query.written_of_isWritable writable, Progress.needing]

/-- A search whose query cannot be summed up ends before its first round. -/
theorem run_of_not_isWritable
    (limited : deadline? plan.limit (plan.clock s.readings) = .ok deadline)
    (unwritable : plan.query.isWritable = false) (n : Nat) :
    run plan n s = .fail (.fault (Fault.tooManyDigits none)) (s.readFor deadline) := by
  simp only [run, limited, Query.written_of_not_isWritable unwritable, Progress.needing]

theorem run_of_no_deadline {fault : Fault}
    (failed : deadline? plan.limit (plan.clock s.readings) = .error fault) (n : Nat) :
    run plan n s = .fail (.fault fault) s := by
  simp only [run, failed, Progress.needing]

/-- What holds of a search if it holds of its rounds and of the two ways in which it
ends before them. -/
theorem satisfies_run {going : State σ → Prop} {ended : Outcome → State σ → Prop}
    (n : Nat)
    (unlimited : ∀ fault, deadline? plan.limit (plan.clock s.readings) = .error fault →
      ended (.failed (.fault fault)) s)
    (unwritable : ∀ deadline, plan.query.isWritable = false →
      ended (.failed (.fault (Fault.tooManyDigits none))) (s.readFor deadline))
    (rounds : ∀ deadline, deadline? plan.limit (plan.clock s.readings) = .ok deadline →
      (rounds plan deadline n (s.readFor deadline)).Satisfies going ended) :
    (run plan n s).Satisfies going ended := by
  cases limited : deadline? plan.limit (plan.clock s.readings) with
  | error fault =>
      rw [run_of_no_deadline limited]
      exact unlimited fault limited
  | ok deadline =>
      by_cases writable : plan.query.isWritable = true
      · rw [run_of_isWritable limited writable]
        exact rounds deadline limited
      · rw [run_of_not_isWritable limited ((Bool.not_eq_true _).mp writable)]
        exact unwritable deadline ((Bool.not_eq_true _).mp writable)

end

/-! ### Candidates of a program -/

/-- All ways to choose a number below each count, the last number changing
fastest. -/
def selections : List Nat → List (List Int)
  | [] => [[]]
  | count :: counts =>
      (List.range count).flatMap fun (i : Nat) =>
        (selections counts).map (Int.ofNat i :: ·)

theorem eachSelection_eq_inTurn (visit : List Int → State σ → Progress σ)
    (counts : List Nat) (chosen : List Int) (s : State σ) :
    eachSelection visit counts chosen s =
      .inTurn (fun selection => visit (chosen.reverse ++ selection))
        (selections counts) s := by
  induction counts generalizing chosen s with
  | nil => simp [eachSelection, selections, Progress.inTurn, Progress.next_ongoing]
  | cons count counts ih =>
      have below : ∀ (numbers : List Nat) s,
          Progress.inTurn (fun (i : Nat) => eachSelection visit counts
            (Int.ofNat i :: chosen)) numbers s =
          .inTurn (fun selection => visit (chosen.reverse ++ selection))
            (numbers.flatMap fun (i : Nat) =>
              (selections counts).map (Int.ofNat i :: ·)) s := by
        intro numbers
        induction numbers with
        | nil => exact fun s => rfl
        | cons i numbers rest =>
            intro s
            rw [List.flatMap_cons, Progress.inTurn_append, Progress.inTurn_map,
              Progress.inTurn, ih]
            simp only [List.reverse_cons, List.append_assoc, List.singleton_append]
            congr 1
            exact funext rest
      rw [eachSelection, Progress.foldl_next]
      exact below (List.range count) s

variable (plan : Plan σ) (deadline : Option Number)

/-- The candidates that come of a program, one for every choice of fillings for
its regular holes. A program without regular holes is its own candidate, and one
with holes that cannot be expanded has the fault as its only candidate. -/
def Plan.attempts (program : Term) : List (Except Fault Term) :=
  match program.expandHoles plan.expander plan.query with
  | .error fault => [.error fault]
  | .ok (expanded, counts) =>
      if counts.isEmpty then [.ok program]
      else (selections counts).map expanded.materialize

/-- Consider a candidate if there is one and time is left. -/
def considerAttempt (attempt : Except Fault Term) (s : State σ) : Progress σ :=
  (checkDeadline plan deadline s).next fun s =>
    .needing attempt s fun candidate => consider plan candidate s

/-- To explore a program is to consider its candidates in turn. -/
theorem explore_of_ok {program expanded : Term} {counts : List Nat}
    (expansion : program.expandHoles plan.expander plan.query =
      .ok (expanded, counts)) (s : State σ) :
    explore plan deadline program s =
      .inTurn (considerAttempt plan deadline) (plan.attempts program)
        (s.record (.expanded expanded.frontiers)) := by
  unfold explore Plan.attempts
  rw [expansion]
  by_cases none : counts.isEmpty = true
  · simp only [none, if_true, Progress.inTurn, Progress.next_ongoing]
    rfl
  · simp only [none, if_false, Bool.false_eq_true]
    rw [eachSelection_eq_inTurn, Progress.inTurn_map]
    rfl

theorem explore_of_error {program : Term} {fault : Fault}
    (expansion : program.expandHoles plan.expander plan.query = .error fault)
    (s : State σ) :
    explore plan deadline program s = .fail (.fault fault)
      (s.record (.expanded (program.frontiersReached plan.expander plan.query))) := by
  unfold explore
  rw [expansion]

end FunctionSynthesis.Search
