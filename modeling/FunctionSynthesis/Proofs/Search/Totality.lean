import FunctionSynthesis.Proofs.Grammar.Expander
import FunctionSynthesis.Proofs.Search.Termination
import FunctionSynthesis.Proofs.Value.Numeral

/-!
# Totality of the standard search

With an ordinary query and the standard expander, programs stay ordinary, so that no
step of a search fails. A refinement has more nodes than the program that it comes of
as long as it has holes to be expanded, so the number of nodes that are still allowed
ranks the programs in the queue. So the search ends, with a program or because there
is nothing left, unless its query cannot be summed up (`total_of_run`).
-/

namespace FunctionSynthesis

open Attempt (Succeeds)
open Term (IsOrdinaryNode)

/-! ### Ordinary programs -/

namespace Query

variable {query : Query} {candidate : Term}

theorem Offers.isOrdinary (ordinary : query.IsOrdinary) {goal : Ty}
    (goalOrdinary : goal.isOrdinary = true) {filling : Term}
    (offers : query.Offers goal filling) :
    filling.Everywhere (IsOrdinaryNode query.env) := by
  cases offers with
  | «variable» member =>
      exact (Term.everywhere_var _).2 (Term.isSome_typeOf?_of_mem member)
  | pooled member => exact (Term.everywhere_literal _).2 (ordinary.pools _ member)
  | carried carried =>
      cases goal with
      | literal value =>
          obtain rfl := Option.some.inj carried
          rw [Ty.isOrdinary_literal] at goalOrdinary
          exact (Term.everywhere_literal _).2 (Value.isAtom_of_isScalar goalOrdinary)
      | text value =>
          obtain rfl := Option.some.inj carried
          exact (Term.everywhere_literal _).2 rfl
      | _ => simp [carriedLiteral?] at carried

theorem succeeds_filling? (comparable : query.IsComparable) {goal : Ty}
    (goalHashable : goal.isHashable = true) : Succeeds (query.filling? goal) := by
  refine Attempt.succeeds_bind (Attempt.succeeds_findM? fun binding member =>
    Ty.succeeds_checkedLe (comparable.env binding member) goalHashable) fun binding _ => ?_
  cases binding with
  | some binding => exact Attempt.succeeds_pure _
  | none =>
      refine Attempt.succeeds_bind (Attempt.succeeds_findM? fun value member =>
        Ty.succeeds_checkedLe (comparable.pools value member) goalHashable) fun value _ => ?_
      cases value with
      | some value => exact Attempt.succeeds_pure _
      | none => exact Attempt.succeeds_pure _

theorem succeeds_fillDependent (ordinary : query.IsOrdinary)
    (everywhere : candidate.Everywhere (IsOrdinaryNode query.env)) :
    Succeeds (candidate.fillDependent query) := by
  refine Attempt.succeeds_bind (Term.exists_run_rewriteM
    (fun node inner => Term.passes_fillHole (Term.isDependentHole_of_inner inner))
    (fun leaf inside isLeaf s => ?_) _) fun result _ => Attempt.succeeds_pure _
  cases isHole : leaf.isDependentHole with
  | false => exact ⟨_, Term.passes_fillHole isHole s⟩
  | true =>
      match leaf, isHole with
      | .hole goal true, _ =>
          obtain ⟨found, filling⟩ := succeeds_filling? ordinary.isComparable
            (Ty.isHashable_of_isOrdinary (everywhere _ inside))
          rw [Term.run_fillHole, filling]
          exact ⟨_, rfl⟩

theorem succeeds_fits? (ordinary : query.IsOrdinary)
    (everywhere : candidate.Everywhere (IsOrdinaryNode query.env)) :
    Succeeds (query.fits? candidate) := by
  obtain ⟨type, typed, typeOrdinary⟩ :=
    Term.typeIn_of_everywhere ordinary.catalog ordinary.env everywhere
  rw [fits?_of_typed typed, Ty.checkedLe_of_isOrdinary typeOrdinary ordinary.goal]
  exact ⟨_, rfl⟩

theorem succeeds_admits {largest : Int} (bounded : query.maxSize = .int largest) (t : Term) :
    Succeeds (query.admits t) := by
  unfold admits
  rw [bounded]
  exact Attempt.succeeds_pure _

/-- Ordinary candidates do not get into trouble. -/
theorem not_trouble (ordinary : query.IsOrdinary) {largest : Int}
    (bounded : query.maxSize = .int largest)
    (everywhere : candidate.Everywhere (IsOrdinaryNode query.env)) (failure : Failure) :
    ¬ query.Trouble candidate failure := by
  have measured (t : Term) (fault : Fault) (failed : query.admits t = .error fault) :
      False := by
    obtain ⟨admitted, same⟩ := succeeds_admits bounded t
    rw [same] at failed
    cases failed
  intro trouble
  cases trouble with
  | unmeasuredClosed _ failed => exact measured candidate _ failed
  | untyped _ failed =>
      obtain ⟨fits, same⟩ := succeeds_fits? ordinary everywhere
      rw [same] at failed
      cases failed
  | unfilled _ _ _ failed =>
      obtain ⟨result, same⟩ := succeeds_fillDependent ordinary everywhere
      rw [same] at failed
      cases failed
  | miscounted _ _ _ resolved differ =>
      exact differ (Term.replaced_of_fillDependent resolved).2
  | unmeasured _ _ _ failed => exact measured _ _ failed

end Query

namespace Search

variable {σ : Type} {plan : Plan σ} {limits : Limits} {program candidate : Term}

/-- Whether a plan is one of the standard search: it uses the standard expander for an
ordinary query, and the size of programs is bounded. -/
structure Plan.IsStandard (plan : Plan σ) (limits : Limits) (largest : Int) : Prop where
  expander : plan.expander = .standard limits
  counts : limits.AreCounts
  ordinary : plan.query.IsOrdinary
  bounded : plan.query.maxSize = .int largest

variable {largest : Int}

theorem Plan.IsStandard.isFilling_of_mem_fillings (standard : plan.IsStandard limits largest)
    {goal : Ty} (goalOrdinary : goal.isOrdinary = true) :
    ∀ t ∈ Term.fillings plan.expander plan.query goal,
      Term.IsFilling plan.query.env t := by
  obtain ⟨ts, expanded, each⟩ :=
    Expander.exists_fillings_of_standard standard.ordinary standard.counts goalOrdinary
  unfold Term.fillings
  rw [standard.expander, expanded]
  exact each

theorem isOrdinaryNode_of_inner {env : Environment} {node : Term}
    (inner : node.isLeaf = false) : IsOrdinaryNode env node := by
  cases node <;> trivial

theorem Plan.IsStandard.isOrdinary (standard : plan.IsStandard limits largest)
    (derivable : plan.Derivable program) :
    program.Everywhere (IsOrdinaryNode plan.query.env) :=
  derivable.everywhere (fun _ => isOrdinaryNode_of_inner) standard.ordinary.goal
    (fun _ goalOrdinary t proposed =>
      (standard.isFilling_of_mem_fillings goalOrdinary t proposed).ordinary)
    fun _ goalOrdinary _ offered => offered.isOrdinary standard.ordinary goalOrdinary

theorem Plan.IsStandard.isOrdinary_refinement (standard : plan.IsStandard limits largest)
    (derivable : plan.Derivable program) (refined : candidate ∈ plan.refinements program) :
    candidate.Everywhere (IsOrdinaryNode plan.query.env) :=
  everywhere_of_mem_refinements (fun _ => isOrdinaryNode_of_inner)
    (fun _ goalOrdinary t proposed =>
      (standard.isFilling_of_mem_fillings goalOrdinary t proposed).ordinary)
    (standard.isOrdinary derivable) refined

theorem Plan.IsStandard.staysUnfilled (standard : plan.IsStandard limits largest) :
    plan.StaysUnfilled := by
  intro program derivable node inside
  have ordinary := standard.isOrdinary derivable node inside
  cases node with
  | filled goal candidates => exact ordinary.elim
  | _ => rfl

theorem Plan.IsStandard.succeeds_expandHoles (standard : plan.IsStandard limits largest)
    (derivable : plan.Derivable program) :
    Succeeds (program.expandHoles plan.expander plan.query) := by
  refine Term.exists_run_rewriteM
    (fun node inner => Term.passes_expandHole fun goal dependent same => ?_)
    (fun leaf inside isLeaf counts => ?_) []
  · rw [same] at inner
    simp [Term.isLeaf] at inner
  · cases leaf with
    | hole goal dependent =>
        cases dependent with
        | true => exact ⟨_, rfl⟩
        | false =>
            obtain ⟨ts, expanded, _⟩ := Expander.exists_fillings_of_standard
              standard.ordinary standard.counts (standard.isOrdinary derivable _ inside)
            rw [← standard.expander] at expanded
            exact ⟨(some (.filled goal ts), counts ++ [ts.length]), by
              simp [Term.expandHole, expanded]⟩
    | _ => exact ⟨_, rfl⟩

/-! ### Growth -/

/-- A refinement has at least as many nodes that are not holes to be expanded as the
program has nodes. -/
theorem Plan.IsStandard.size_le_countP (standard : plan.IsStandard limits largest)
    (derivable : plan.Derivable program) (refined : candidate ∈ plan.refinements program) :
    program.size ≤ candidate.walk.countP fun node => !node.isRegularHole := by
  have all : program.size = program.walk.countP fun _ => true := by
    simp [Term.size]
  rw [all]
  refine (Term.replaced_of_mem_refinements refined).countP_le
    (fun node inner => by simp [Term.isRegularHole_of_inner inner])
    fun leaf inside isLeaf v refills => ?_
  have counted : 1 ≤ v.walk.countP fun node => !node.isRegularHole := by
    have notHole : v.isRegularHole = false := by
      rcases refills with ⟨goal, rfl, filling⟩ | ⟨notHole, rfl⟩
      · exact (standard.isFilling_of_mem_fillings
          (standard.isOrdinary derivable _ inside) v filling).notHole
      · exact notHole
    rw [Term.countP_walk, notHole]
    exact Nat.le_add_right 1 _
  simpa using counted

/-- A refinement that has holes to be expanded has more nodes than the program. -/
theorem Plan.IsStandard.size_lt_of_mem_refinements
    (standard : plan.IsStandard limits largest) (derivable : plan.Derivable program)
    (refined : candidate ∈ plan.refinements program) (some : candidate.regularHoles ≠ 0) :
    program.size < candidate.size := by
  have grown := standard.size_le_countP derivable refined
  have nodes : candidate.size = candidate.regularHoles +
      candidate.walk.countP fun node => !node.isRegularHole := by
    rw [Term.size, List.length_eq_countP_add_countP Term.isRegularHole]
    simp [Term.regularHoles]
  omega

/-- The number of nodes that are allowed besides those of a program, as long as it has
holes to be expanded. -/
def room (largest : Int) (program : Term) : Nat :=
  if program.regularHoles = 0 then 0 else (largest + 1 - program.size).toNat + 1

theorem Plan.IsStandard.descends (standard : plan.IsStandard limits largest) :
    plan.Descends (room largest) := by
  intro program candidate next derivable refined yields
  have holes : program.regularHoles ≠ 0 := by
    intro none
    have closed := derivable.regularHoles_ne_zero_or_isClosed.resolve_left
      (not_not_intro none)
    rw [Plan.refinements, Term.refinements_of_regularHoles_eq_zero none,
      List.mem_singleton] at refined
    rw [← refined, yields.hasHoles] at closed
    exact Bool.false_ne_true closed
  unfold room
  rw [if_neg holes]
  cases yields.prepared with
  | resolved none resolution =>
      have closed := isClosed_of_fillDependent none resolution
      rw [if_pos (regularHoles_eq_zero_of_isClosed closed)]
      exact Nat.succ_pos _
  | kept some =>
      rw [if_neg some]
      have grown := standard.size_lt_of_mem_refinements derivable refined some
      have admitted := Query.size_le_of_admits standard.bounded yields.admitted
      omega

/-! ### The standard search -/

/-- Whether a tester always says something of a program. -/
def Tester.Answers (tester : Tester σ) : Prop :=
  ∀ memory t failure, (tester.test memory t).1 ≠ .broken failure

theorem Tester.Answers.ne_broken {tester : Tester σ} (answers : tester.Answers)
    {memory : σ} {ts : List Term} {trial : Term × Verdict}
    (member : trial ∈ (tester.replay memory ts).1) (failure : Failure) :
    trial.2 ≠ .broken failure := by
  induction ts generalizing memory with
  | nil => exact absurd member List.not_mem_nil
  | cons t ts ih =>
      rcases List.mem_cons.1 member with rfl | later
      · exact answers memory t failure
      · exact ih later

/-- A standard search that has ended after its rounds have begun has found a program or
has nothing left to search. -/
theorem Plan.IsStandard.outcome_cases (standard : plan.IsStandard limits largest)
    (answers : plan.tester.Answers) (unlimited : plan.limit = .none)
    (writable : plan.query.isWritable = true) {examples : Int} {memory : σ} {outcome : Outcome}
    {s : State σ} (ended : Over plan examples memory outcome s) :
    (∃ program, outcome = .found program) ∨
      outcome = .failed (.problem (.exhausted Problem.nothingFound (some s.counters))) := by
  obtain ⟨made, history, initial, conclusion⟩ := ended
  have popped := history.taken.derivable standard.staysUnfilled
  cases conclusion with
  | found _ _ => exact Or.inl ⟨_, rfl⟩
  | exhausted _ _ _ => exact Or.inr rfl
  | @broken t failure earlier last _ =>
      have member : (t, .broken failure) ∈
          (plan.tester.replay memory (made.filter plan.query.isTestable)).1 := by
        rw [history.trials, last]
        simp
      exact absurd rfl (answers.ne_broken member failure)
  | timedOut limited _ _ =>
      rw [unlimited] at limited
      exact absurd limited Bool.false_ne_true
  | unlimited failed _ =>
      rw [unlimited] at failed
      cases failed
  | unwritable some _ =>
      rw [writable, unlimited] at some
      rcases some with query | limit
      · cases query
      · cases limit
  | @unmade program fault taken faulty _ =>
      have derivable := popped program taken
      obtain ⟨expansion, expanded⟩ := standard.succeeds_expandHoles derivable
      rw [attempts_eq_map_refinements (standard.staysUnfilled program derivable) expanded]
        at faulty
      simp at faulty
  | @troubled candidate failure member trouble _ =>
      obtain ⟨program, taken, attempted⟩ :=
        List.mem_flatMap.1 (initial.subset (List.mem_map_of_mem member))
      have derivable := popped program taken
      obtain ⟨expansion, expanded⟩ := exists_expansion_of_mem_attempts attempted
      have refined := (derivable.mem_attempts_iff standard.staysUnfilled expanded).1 attempted
      exact absurd trouble (Query.not_trouble standard.ordinary standard.bounded
        (standard.isOrdinary_refinement derivable refined) failure)

/-- The standard search without a limit ends. It ends with a program or because there is
nothing left to search, unless an integer in its query is too long to be written. Then it
ends with a fault. -/
theorem total_of_run (plan : Plan σ) (limits : Limits) (largest : Int)
    (standard : plan.IsStandard limits largest) (answers : plan.tester.Answers)
    (unlimited : plan.limit = .none) (examples : Int) (readings : Nat) (memory : σ) :
    ∃ n outcome s,
      (∀ m, n ≤ m →
        run plan m (start plan examples readings memory) = .ended outcome s) ∧
      (plan.query.isWritable = true →
        (∃ program, outcome = .found program) ∨
          outcome =
            .failed (.problem (.exhausted Problem.nothingFound (some s.counters)))) ∧
      (plan.query.isWritable = false →
        outcome = .failed (.fault (Fault.tooManyDigits none))) := by
  obtain ⟨n, outcome, s, ended⟩ := exists_end_of_descends standard.staysUnfilled
    standard.descends unlimited examples readings memory
  refine ⟨n, outcome, s, ended, fun writable => ?_, fun unwritable => ?_⟩
  · have settled := settled_run plan n examples readings memory
    rw [ended n le_rfl] at settled
    exact standard.outcome_cases answers unlimited writable settled
  · have limited : deadline? plan.limit
        (plan.clock (start plan examples readings memory).readings) = .ok none := by
      rw [unlimited]
      rfl
    have failed := run_of_not_isWritable limited unwritable n
    rw [ended n le_rfl] at failed
    cases failed
    rfl

/-- The search for a sum of two variables. -/
theorem total_of_run_sum :
    let plan : Plan Nat :=
      { query :=
          { env := [("x", .integer), ("y", .integer)], goal := .integer,
            pools := ⟨[.str "-"], [.int 1]⟩, maxSize := .int 7 }
        expander := .standard {}
        tester := ⟨fun count t =>
          (if t == .plus (.var "x") (.var "y") then .accepted else .rejected, count + 1)⟩ }
    ∃ n outcome s, (∀ m, n ≤ m → run plan m (start plan 2 0 0) = .ended outcome s) ∧
      ((∃ program, outcome = .found program) ∨
        outcome =
          .failed (.problem (.exhausted Problem.nothingFound (some s.counters)))) := by
  intro plan
  have standard : plan.IsStandard {} 7 :=
    { expander := rfl
      counts := Limits.areCounts_default
      ordinary :=
        { env := by
            unfold Environment.IsOrdinary
            decide
          goal := rfl
          pools := by decide
          catalog := Catalog.isOrdinary_standard
          results := Catalog.item_of_standard }
      bounded := rfl }
  have answers : plan.tester.Answers := by
    intro memory t failure
    change (if _ then Verdict.accepted else .rejected) ≠ _
    split <;> simp
  obtain ⟨n, outcome, s, ended, concluded, _⟩ := total_of_run plan {} 7 standard answers rfl 2 0 0
  exact ⟨n, outcome, s, ended, concluded rfl⟩

/-- The search for a literal that is too long to be written ends with a fault before its
first round. -/
theorem not_total_of_run_long_integer :
    let plan : Plan Unit :=
      { query := { env := [], goal := .literal (.int Value.numeralBound), maxSize := .int 7 }
        expander := .standard {}
        tester := ⟨fun _ _ => (.accepted, ())⟩ }
    plan.IsStandard {} 7 ∧ plan.tester.Answers ∧ plan.limit = .none ∧
      ∀ n, (run plan n (start plan 2 0 ())).outcome? =
        some (.failed (.fault (Fault.tooManyDigits none))) := by
  intro plan
  have standard : plan.IsStandard {} 7 :=
    { expander := rfl
      counts := Limits.areCounts_default
      ordinary :=
        { env := List.forall_mem_nil _
          goal := rfl
          pools := List.forall_mem_nil _
          catalog := Catalog.isOrdinary_standard
          results := Catalog.item_of_standard }
      bounded := rfl }
  have ofLiteral (v : Value) :
      Query.isWritable { env := [], goal := .literal v, maxSize := .int 7 } = v.isWritable := rfl
  have unwritable : plan.query.isWritable = false :=
    (ofLiteral _).trans ((Bool.not_eq_true _).mp Value.not_isWritable_numeralBound)
  refine ⟨standard, fun _ _ _ => nofun, rfl, fun n => ?_⟩
  rw [run_of_not_isWritable rfl unwritable]
  rfl

end Search

end FunctionSynthesis
