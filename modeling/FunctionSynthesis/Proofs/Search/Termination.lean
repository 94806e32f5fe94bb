import Mathlib.Logic.Hydra
import FunctionSynthesis.Proofs.Search.Exactness

/-!
# Termination of the search

A round takes a program from the queue and puts the programs there that its
candidates leave. When these rank below the program that they come of, the ranks of
all programs that wait descend in the order of multisets, which is well-founded. So
a search ends if its programs can be ranked like that (`exists_end_of_descends`).
-/

namespace FunctionSynthesis.Search

variable {σ : Type} {plan : Plan σ} {examples : Int} {memory : σ}
  {popped : List Term} {program : Term} {s s' : State σ}

/-- What a round changes in the queue: the candidates of a program that waited leave
their successors instead of it. -/
theorem exists_candidates_of_settled (before : Settled plan examples memory popped s)
    (after : Settled plan examples memory (popped ++ [program]) s') :
    ∃ candidates : List Term, plan.attempts program = candidates.map .ok ∧
      (program :: s'.waitingPrograms).Perm
        (s.waitingPrograms ++ candidates.filterMap plan.query.successor?) := by
  obtain ⟨made, underway, complete⟩ := before
  obtain ⟨made', underway', complete'⟩ := after
  rw [List.flatMap_append, List.flatMap_singleton, ← complete,
    List.map_eq_append_iff] at complete'
  obtain ⟨first, candidates, rfl, same, attempts⟩ := complete'
  obtain rfl : first = made := List.map_injective_iff.2 (fun _ _ => Except.ok.inj) same
  refine ⟨candidates, attempts.symm, ?_⟩
  have known := underway.history.known
  have known' := underway'.history.known
  rw [underway.popped] at known
  rw [underway'.popped, List.append_assoc, List.filterMap_append, ← List.cons_append]
    at known'
  have both := known'.trans (known.symm.append_right _)
  rwa [List.append_assoc, List.perm_append_left_iff] at both

/-- The ranks of the programs that wait. -/
def State.ranks (rank : Term → Nat) (s : State σ) : Multiset Nat :=
  Multiset.ofList (s.waitingPrograms.map rank)

/-- Whether every program that is left in the queue ranks below the one that it comes
of. -/
def Plan.Descends (plan : Plan σ) (rank : Term → Nat) : Prop :=
  ∀ program candidate next, plan.Derivable program →
    candidate ∈ plan.refinements program → plan.query.Yields candidate next →
      rank next < rank program

variable {rank : Term → Nat}

theorem cutExpand_ranks_of_settled (unfilled : plan.StaysUnfilled)
    (descends : plan.Descends rank) (before : Settled plan examples memory popped s)
    (after : Settled plan examples memory (popped ++ [program]) s') :
    Relation.CutExpand (· < ·) (s'.ranks rank) (s.ranks rank) := by
  obtain ⟨candidates, attempts, exchange⟩ := exists_candidates_of_settled before after
  have derivable : plan.Derivable program := by
    obtain ⟨_, underway, _⟩ := after
    have taken := underway.history.taken
    rw [underway.popped] at taken
    exact taken.derivable unfilled program (by simp)
  refine ⟨Multiset.ofList ((candidates.filterMap plan.query.successor?).map rank),
    rank program, fun lower inside => ?_, ?_⟩
  · obtain ⟨next, left, rfl⟩ := List.mem_map.1 (Multiset.mem_coe.1 inside)
    obtain ⟨candidate, member, successor⟩ := List.mem_filterMap.1 left
    have attempted : .ok candidate ∈ plan.attempts program := by
      rw [attempts]
      exact List.mem_map_of_mem member
    obtain ⟨expansion, expanded⟩ := exists_expansion_of_mem_attempts attempted
    exact descends program candidate next derivable
      ((derivable.mem_attempts_iff unfilled expanded).1 attempted)
      (Query.successor?_eq_some_iff.1 successor)
  · have ranked := Multiset.coe_eq_coe.2 (exchange.map rank)
    rw [List.map_cons, List.map_append, ← Multiset.cons_coe, ← Multiset.coe_add] at ranked
    rw [State.ranks, State.ranks, ← ranked, Multiset.add_comm, Multiset.singleton_add]

/-- A search ends when its programs can be ranked. -/
theorem exists_end_of_settled (unfilled : plan.StaysUnfilled)
    (descends : plan.Descends rank) (settled : Settled plan examples memory popped s) :
    ∃ n outcome s', rounds plan none n s = .ended outcome s' := by
  have founded : WellFounded (Relation.CutExpand fun lower higher : Nat => lower < higher) :=
    wellFounded_lt.cutExpand
  generalize waiting : s.ranks rank = ranks
  induction ranks using founded.induction generalizing s popped with
  | _ ranks ih =>
      have kept : (round plan none s).Satisfies _ _ :=
        settled_round (fun timed => by cases timed) settled
      cases progress : round plan none s with
      | ended outcome s' =>
          refine ⟨1, outcome, s', ?_⟩
          rw [rounds, progress]
          rfl
      | ongoing s' =>
          rw [progress] at kept
          obtain ⟨program, settled'⟩ := kept
          obtain ⟨n, outcome, last, ended⟩ := ih (s'.ranks rank)
            (waiting ▸ cutExpand_ranks_of_settled unfilled descends settled settled')
            settled' rfl
          refine ⟨n + 1, outcome, last, ?_⟩
          rw [rounds, progress]
          exact ended

/-- A search that has ended does not change any more. -/
theorem rounds_of_le {deadline : Option Number} {n m : Nat} (more : n ≤ m)
    {outcome : Outcome} (ended : rounds plan deadline n s = .ended outcome s') :
    rounds plan deadline m s = .ended outcome s' := by
  induction n generalizing m s with
  | zero => simp [rounds] at ended
  | succ n ih =>
      obtain ⟨m, rfl⟩ := Nat.exists_eq_succ_of_ne_zero (Nat.ne_zero_of_lt more)
      rw [rounds] at ended ⊢
      cases progress : round plan deadline s with
      | ended outcome' last =>
          rw [progress] at ended
          exact ended
      | ongoing next =>
          rw [progress] at ended
          exact ih (Nat.le_of_succ_le_succ more) ended

/-- A search without a limit ends when its programs can be ranked. -/
theorem exists_end_of_descends (unfilled : plan.StaysUnfilled)
    (descends : plan.Descends rank) (unlimited : plan.limit = .none) (examples : Int)
    (readings : Nat) (memory : σ) :
    ∃ n outcome s, ∀ m, n ≤ m →
      run plan m (start plan examples readings memory) = .ended outcome s := by
  have limited : deadline? plan.limit
      (plan.clock (start plan examples readings memory).readings) = .ok none := by
    rw [unlimited]
    rfl
  by_cases writable : plan.query.isWritable = true
  · obtain ⟨n, outcome, s, ended⟩ := exists_end_of_settled unfilled descends
      (settled_start plan examples readings memory none)
    refine ⟨n, outcome, s, fun m more => ?_⟩
    rw [run_of_isWritable limited writable]
    exact rounds_of_le more ended
  · exact ⟨0, _, _, fun m _ => run_of_not_isWritable limited ((Bool.not_eq_true _).mp writable) m⟩

end FunctionSynthesis.Search
