import FunctionSynthesis.Proofs.Attempt
import FunctionSynthesis.Search.Run

/-!
# What comes of a candidate

A candidate without holes is tested when it is small enough. A candidate with
holes is eliminated when its type does not fit the goal, and otherwise yields at
most one program that waits in the queue. `considered_consider` lists all that
can happen, with everything that it changes in the state of a search.
-/

namespace FunctionSynthesis

namespace Query

variable (query : Query)

/-- Whether the type of a program fits the goal, if that can be told. -/
def fits? (t : Term) : Except TypingError Bool := do
  let type ← t.typeIn query.catalog query.env
  type.checkedLe query.goal

/-- Whether a program is tested when its turn comes. -/
def isTestable (t : Term) : Bool :=
  t.isClosed &&
    match query.admits t with
    | .ok admitted => admitted
    | .error _ => false

/-- Whether a program is given up for its type when its turn comes. -/
def isEliminated (t : Term) : Bool :=
  !t.isClosed &&
    match query.fits? t with
    | .ok fits => !fits
    | .error _ => false

/-- What a candidate with holes is made into before it waits in the queue: itself
as long as it has holes to expand, and else the candidate with its dependent holes
filled. -/
inductive Prepares (candidate : Term) : Term → Prop
  | kept : candidate.regularHoles ≠ 0 → Prepares candidate candidate
  | resolved {program : Term} :
      candidate.regularHoles = 0 →
      candidate.fillDependent query =
        .ok (some program, candidate.dependentHoles) →
      Prepares candidate program

/-- Whether considering a candidate leaves a program in the queue. -/
structure Yields (candidate program : Term) : Prop where
  hasHoles : candidate.isClosed = false
  fits : query.fits? candidate = .ok true
  prepared : query.Prepares candidate program
  admitted : query.admits program = .ok true

/-- What a candidate with holes is made into, if that is possible. -/
def prepared? (candidate : Term) : Option Term :=
  if candidate.regularHoles ≠ 0 then some candidate
  else
    match candidate.fillDependent query with
    | .ok (some program, filled) =>
        if filled = candidate.dependentHoles then some program else none
    | _ => none

/-- The program that considering a candidate leaves in the queue, if there is one. -/
def successor? (candidate : Term) : Option Term :=
  match candidate.isClosed, query.fits? candidate, query.prepared? candidate with
  | false, .ok true, some program =>
      match query.admits program with
      | .ok true => some program
      | _ => none
  | _, _, _ => none

/-- Why a candidate ends a search that has not found anything. -/
inductive Trouble (candidate : Term) : Failure → Prop
  | unmeasuredClosed {fault : Fault} :
      candidate.isClosed = true → query.admits candidate = .error fault →
      Trouble candidate (.fault fault)
  | untyped {error : TypingError} :
      candidate.isClosed = false → query.fits? candidate = .error error →
      Trouble candidate error.toFailure
  | unfilled {fault : Fault} :
      candidate.isClosed = false → candidate.regularHoles = 0 →
      query.fits? candidate = .ok true →
      candidate.fillDependent query = .error fault →
      Trouble candidate (.fault fault)
  | miscounted {program : Term} {filled : Nat} {context : Entries} :
      candidate.isClosed = false → candidate.regularHoles = 0 →
      query.fits? candidate = .ok true →
      candidate.fillDependent query = .ok (some program, filled) →
      filled ≠ candidate.dependentHoles →
      Trouble candidate (.problem (.invariant
        "dependent hole count changed during resolution" context))
  | unmeasured {program : Term} {fault : Fault} :
      candidate.isClosed = false → query.fits? candidate = .ok true →
      query.Prepares candidate program → query.admits program = .error fault →
      Trouble candidate (.fault fault)

variable {query}

/-- Trouble is a fault, a node without a type or a violated invariant. -/
theorem Trouble.kinds {candidate : Term} {failure : Failure}
    (trouble : query.Trouble candidate failure) :
    (∃ fault, failure = .fault fault) ∨
      (∃ text node, failure = .problem (.untypable text (some node))) ∨
      ∃ text context, failure = .problem (.invariant text context) := by
  cases trouble with
  | @untyped error _ _ => exact error.toFailure_cases.symm.imp_right Or.inl
  | miscounted _ _ _ _ _ => exact Or.inr (Or.inr ⟨_, _, rfl⟩)
  | _ => exact Or.inl ⟨_, rfl⟩

theorem fits?_of_typed {t : Term} {type : Ty}
    (typed : t.typeIn query.catalog query.env = .ok type) :
    query.fits? t = liftM (type.checkedLe query.goal) := by
  unfold fits?
  rw [typed]
  rfl

theorem fits?_of_untyped {t : Term} {error : TypingError}
    (untyped : t.typeIn query.catalog query.env = .error error) :
    query.fits? t = .error error := by
  unfold fits?
  rw [untyped]
  rfl

theorem isTestable_iff {t : Term} :
    query.isTestable t = true ↔ t.isClosed = true ∧ query.admits t = .ok true := by
  unfold isTestable
  rw [Bool.and_eq_true]
  cases query.admits t <;> simp

theorem isEliminated_iff {t : Term} :
    query.isEliminated t = true ↔ t.isClosed = false ∧ query.fits? t = .ok false := by
  unfold isEliminated
  rw [Bool.and_eq_true]
  cases query.fits? t <;> simp

theorem prepared?_eq_some_iff {candidate program : Term} :
    query.prepared? candidate = some program ↔ query.Prepares candidate program := by
  unfold prepared?
  constructor
  · intro prepared
    split at prepared
    next some =>
      obtain rfl := Option.some.inj prepared
      exact .kept some
    next noHoles =>
      rw [ne_eq, not_not] at noHoles
      split at prepared
      next program' filled resolved =>
        split at prepared
        next counted =>
          obtain rfl := Option.some.inj prepared
          exact .resolved noHoles (counted ▸ resolved)
        next => simp at prepared
      next => simp at prepared
  · intro prepares
    cases prepares with
    | kept some => rw [if_pos some]
    | resolved noHoles resolved => simp [noHoles, resolved]

theorem Prepares.unique {candidate first second : Term}
    (one : query.Prepares candidate first) (other : query.Prepares candidate second) :
    first = second := by
  rw [← prepared?_eq_some_iff] at one other
  exact Option.some.inj (one.symm.trans other)

theorem successor?_eq_some_iff {candidate program : Term} :
    query.successor? candidate = some program ↔ query.Yields candidate program := by
  unfold successor?
  constructor
  · intro left
    split at left
    next holes fits prepared =>
      split at left
      next admitted =>
        obtain rfl := Option.some.inj left
        exact ⟨holes, fits, prepared?_eq_some_iff.1 prepared, admitted⟩
      next => simp at left
    next => simp at left
  · intro yields
    simp only [yields.hasHoles, yields.fits, prepared?_eq_some_iff.2 yields.prepared,
      yields.admitted]

theorem successor?_eq_none {candidate : Term}
    (nothing : ∀ program, ¬ query.Yields candidate program) :
    query.successor? candidate = none :=
  Option.eq_none_iff_forall_ne_some.2 fun program left =>
    nothing program (successor?_eq_some_iff.1 left)

/-- A candidate that is in trouble is neither tested nor eliminated, and nothing
waits after it. -/
theorem Trouble.fruitless {candidate : Term} {failure : Failure}
    (trouble : query.Trouble candidate failure) :
    query.isTestable candidate = false ∧ query.isEliminated candidate = false ∧
      ∀ program, ¬ query.Yields candidate program := by
  simp only [← Bool.not_eq_true, isTestable_iff, isEliminated_iff]
  cases trouble with
  | unmeasuredClosed closed fault =>
      refine ⟨fun ⟨_, admitted⟩ => ?_, fun ⟨holes, _⟩ => ?_, fun program yields => ?_⟩
      · simp [fault] at admitted
      · simp [closed] at holes
      · exact absurd yields.hasHoles (by simp [closed])
  | untyped holes error =>
      refine ⟨fun ⟨closed, _⟩ => ?_, fun ⟨_, fits⟩ => ?_, fun program yields => ?_⟩
      · simp [holes] at closed
      · simp [error] at fits
      · exact absurd yields.fits (by simp [error])
  | unfilled holes none fits fault =>
      refine ⟨fun ⟨closed, _⟩ => ?_, fun ⟨_, fits'⟩ => ?_, fun program yields => ?_⟩
      · simp [holes] at closed
      · simp [fits] at fits'
      · cases yields.prepared with
        | kept some => exact some none
        | resolved _ filled => simp [fault] at filled
  | miscounted holes none fits filled differ =>
      refine ⟨fun ⟨closed, _⟩ => ?_, fun ⟨_, fits'⟩ => ?_, fun program yields => ?_⟩
      · simp [holes] at closed
      · simp [fits] at fits'
      · cases yields.prepared with
        | kept some => exact some none
        | resolved _ filled' =>
            rw [filled] at filled'
            simp only [Except.ok.injEq, Prod.mk.injEq] at filled'
            exact differ filled'.2
  | unmeasured holes fits prepared fault =>
      refine ⟨fun ⟨closed, _⟩ => ?_, fun ⟨_, fits'⟩ => ?_, fun program yields => ?_⟩
      · simp [holes] at closed
      · simp [fits] at fits'
      · rw [prepared.unique yields.prepared, yields.admitted] at fault
        simp at fault

end Query

namespace Search

variable {σ : Type} (plan : Plan σ)

/-- What considering a candidate may come to. -/
inductive Considered (candidate : Term) (s : State σ) : Progress σ → Prop
  | tested :
      plan.query.isTestable candidate = true →
      Considered candidate s (test plan candidate s)
  | tooLarge :
      candidate.isClosed = true → plan.query.admits candidate = .ok false →
      Considered candidate s (.ongoing s)
  | eliminated :
      plan.query.isEliminated candidate = true →
      Considered candidate s (.ongoing
        { s with
          counters := { s.counters with eliminated := s.counters.eliminated + 1 }
          events := .eliminated candidate :: .typed candidate :: s.events })
  | queued {program : Term} :
      plan.query.Yields candidate program →
      Considered candidate s (.ongoing
        { s with
          queue := s.queue.push program (plan.query.score program)
          events := .queued program (plan.query.score program) ::
            .typed candidate :: s.events })
  | dropped {filled : Nat} :
      candidate.isClosed = false → candidate.regularHoles = 0 →
      plan.query.fits? candidate = .ok true →
      candidate.fillDependent plan.query = .ok (none, filled) →
      Considered candidate s (.ongoing
        { s with events := .dropped candidate :: .typed candidate :: s.events })
  | outgrown {program : Term} :
      candidate.isClosed = false → plan.query.fits? candidate = .ok true →
      plan.query.Prepares candidate program →
      plan.query.admits program = .ok false →
      Considered candidate s (.ongoing
        { s with events := .typed candidate :: s.events })
  | failed {failure : Failure} (events : List Event) :
      plan.query.Trouble candidate failure →
      events = (if candidate.isClosed then [] else [.typed candidate]) →
      Considered candidate s (.fail failure { s with events := events ++ s.events })

theorem considered_enqueue {candidate program : Term} {s : State σ}
    (holes : candidate.isClosed = false) (fits : plan.query.fits? candidate = .ok true)
    (prepared : plan.query.Prepares candidate program) :
    Considered plan candidate s
      (enqueue plan program (s.record (.typed candidate))) := by
  unfold enqueue
  cases admitted : plan.query.admits program with
  | error fault =>
      exact .failed [.typed candidate] (.unmeasured holes fits prepared admitted)
        (by simp [holes])
  | ok admits =>
      cases admits with
      | true => exact .queued ⟨holes, fits, prepared, admitted⟩
      | false => exact .outgrown holes fits prepared admitted

theorem considered_resolve {candidate : Term} {s : State σ}
    (holes : candidate.isClosed = false) (fits : plan.query.fits? candidate = .ok true)
    (none : candidate.regularHoles = 0) :
    Considered plan candidate s
      (resolve plan candidate (s.record (.typed candidate))) := by
  unfold resolve
  cases resolution : candidate.fillDependent plan.query with
  | error fault =>
      exact .failed [.typed candidate] (.unfilled holes none fits resolution)
        (by simp [holes])
  | ok result =>
      obtain ⟨resolved, filled⟩ := result
      cases resolved with
      | none => exact .dropped holes none fits resolution
      | some program =>
          by_cases counted : filled = candidate.dependentHoles
          · subst counted
            simp only [Progress.needing, if_true]
            exact considered_enqueue plan holes fits (.resolved none resolution)
          · simp only [Progress.needing, if_neg counted]
            exact .failed [.typed candidate]
              (.miscounted holes none fits resolution counted) (by simp [holes])

/-- Whatever comes of considering a candidate is one of the cases. -/
theorem considered_consider (candidate : Term) (s : State σ) :
    Considered plan candidate s (consider plan candidate s) := by
  unfold consider
  cases closed : candidate.isClosed with
  | true =>
      rw [if_pos rfl, considerClosed]
      cases admitted : plan.query.admits candidate with
      | error fault =>
          exact .failed [] (.unmeasuredClosed closed admitted) (by simp [closed])
      | ok admits =>
          cases admits with
          | true => exact .tested (Query.isTestable_iff.2 ⟨closed, admitted⟩)
          | false => exact .tooLarge closed admitted
  | false =>
      rw [if_neg Bool.false_ne_true, considerPartial]
      cases typed : candidate.typeIn plan.query.catalog plan.query.env with
      | error error =>
          exact .failed [.typed candidate]
            (.untyped closed (Query.fits?_of_untyped typed)) (by simp [closed])
      | ok type =>
          have fits := Query.fits?_of_typed typed
          dsimp only
          cases compared : type.checkedLe plan.query.goal with
          | error fault =>
              rw [compared] at fits
              exact .failed [.typed candidate] (.untyped closed fits)
                (by simp [closed])
          | ok below =>
              rw [compared] at fits
              change plan.query.fits? candidate = .ok below at fits
              simp only [Progress.needing]
              cases below with
              | false =>
                  exact .eliminated (Query.isEliminated_iff.2 ⟨closed, fits⟩)
              | true =>
                  by_cases none : candidate.regularHoles = 0
                  · simp only [Bool.not_true, Bool.false_eq_true, if_false, if_pos none]
                    exact considered_resolve plan closed fits none
                  · simp only [Bool.not_true, Bool.false_eq_true, if_false, if_neg none]
                    exact considered_enqueue plan closed fits (.kept none)

end Search

end FunctionSynthesis
