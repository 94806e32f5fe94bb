import FunctionSynthesis.Grammar.Expander
import FunctionSynthesis.Proofs.Grammar.Rule

/-!
# Expansion of ordinary holes

For an ordinary query the standard expander expands every hole with an ordinary goal,
and all fillings are ordinary terms (`exists_fillings_of_standard`). Whatever the limits
are, each filling is one of the sorts that rules propose (`isProposed_of_standard`), equal
proposals are listed once (`distinct_of_ofRules`), and every variable that fits is among the
fillings (`var_mem_of_standard`).
-/

namespace FunctionSynthesis

open Attempt (Succeeds)

namespace Term

section

variable (value : Value → Bool) (goal : Ty → Bool)

theorem allLeavesOf_eq_all (ts : List Term) :
    allLeavesOf value goal ts = ts.all (allLeaves value goal) := by
  induction ts with
  | nil => rfl
  | cons t ts ih => simp [allLeavesOf, ih]

theorem allLeavesOfEntries_eq_all (entries : List (Term × Term)) :
    allLeavesOfEntries value goal entries =
      entries.all fun entry => allLeaves value goal entry.1 && allLeaves value goal entry.2 := by
  induction entries with
  | nil => rfl
  | cons entry entries ih => simp [allLeavesOfEntries, ih]

end

theorem eq_var_of_isSameMember {name : String} {t : Term}
    (same : (var name).isSameMember t = true) : t = .var name := by
  cases t with
  | var other => exact congrArg var (beq_iff_eq.1 same).symm
  | _ => cases same

variable {env : Environment}

/-- Ordinary terms can be members of sets. -/
theorem isHashable_of_everywhere {t : Term}
    (ordinary : t.Everywhere (IsOrdinaryNode env)) : t.isHashable = true := by
  induction t with
  | literal v => exact Value.isHashable_of_isAtom ((everywhere_literal v).1 ordinary)
  | var name => rfl
  | hole goal dependent =>
      exact Ty.isHashable_of_isOrdinary ((everywhere_hole goal dependent).1 ordinary)
  | filled goal candidates => exact ((everywhere_of_leaf rfl).1 ordinary).elim
  | foreign => rfl
  | call r m as ihReceiver ihArgs =>
      rw [everywhere_call] at ordinary
      rw [isHashable, allLeaves, allLeavesOf_eq_all, Bool.and_eq_true, List.all_eq_true]
      exact ⟨ihReceiver ordinary.2.1, fun t member => ihArgs t member (ordinary.2.2 t member)⟩
  | field r name as ihReceiver ihArgs =>
      rw [everywhere_field] at ordinary
      rw [isHashable, allLeaves, allLeavesOf_eq_all, Bool.and_eq_true, List.all_eq_true]
      exact ⟨ihReceiver ordinary.2.1, fun t member => ihArgs t member (ordinary.2.2 t member)⟩
  | array ts ih =>
      rw [everywhere_array] at ordinary
      rw [isHashable, allLeaves, allLeavesOf_eq_all, List.all_eq_true]
      exact fun t member => ih t member (ordinary.2 t member)
  | record entries ih =>
      rw [everywhere_record] at ordinary
      rw [isHashable, allLeaves, allLeavesOfEntries_eq_all, List.all_eq_true]
      intro entry member
      obtain ⟨key, value⟩ := ordinary.2 entry member
      exact Bool.and_eq_true_iff.2 ⟨(ih entry member).1 key, (ih entry member).2 value⟩
  | slice r a b s ihReceiver ihStart ihStop ihStep =>
      rw [everywhere_slice] at ordinary
      obtain ⟨_, receiver, start, stop, step⟩ := ordinary
      have last : allLeavesOfStep Value.isHashable Ty.isHashable s = true := by
        cases s with
        | none => rfl
        | some t => exact ihStep t rfl (step t rfl)
      rw [isHashable, allLeaves, Bool.and_eq_true, Bool.and_eq_true, Bool.and_eq_true]
      exact ⟨⟨⟨ihReceiver receiver, ihStart start⟩, ihStop stop⟩, last⟩

end Term

namespace Expander

/-- Nothing but the terms that are added is kept besides what was. -/
theorem mem_of_addDistinct {kept kept' : Kept} {ts : List Term}
    (added : addDistinct kept ts = .ok kept') :
    ∀ entry ∈ kept', entry ∈ kept ∨ entry.2 ∈ ts := by
  induction ts generalizing kept with
  | nil =>
      obtain rfl := Attempt.pure_eq_ok_iff.1 added
      exact fun entry member => Or.inl member
  | cons t ts ih =>
      rw [addDistinct] at added
      split at added
      · exact (Attempt.throw_eq_ok_iff.1 added).elim
      · intro entry member
        rcases ih added entry member with before | later
        · split at before
          · exact Or.inl before
          · rcases List.mem_cons.1 before with rfl | earlier
            · exact Or.inr List.mem_cons_self
            · exact Or.inl earlier
        · exact Or.inr (List.mem_cons_of_mem t later)

/-- What was kept stays, and of every term that is added one is kept that is the same member
of a set. -/
theorem exists_kept_of_addDistinct {kept kept' : Kept} {ts : List Term}
    (added : addDistinct kept ts = .ok kept') :
    (∀ entry ∈ kept, entry ∈ kept') ∧
      ∀ t ∈ ts, ∃ entry ∈ kept', t = entry.2 ∨ t.isSameMember entry.2 = true := by
  induction ts generalizing kept with
  | nil =>
      obtain rfl := Attempt.pure_eq_ok_iff.1 added
      exact ⟨fun _ => id, fun _ member => absurd member List.not_mem_nil⟩
  | cons t ts ih =>
      rw [addDistinct] at added
      split at added
      · exact (Attempt.throw_eq_ok_iff.1 added).elim
      · obtain ⟨stays, later⟩ := ih added
        refine ⟨fun entry member => stays entry ?_, List.forall_mem_cons.2 ⟨?_, later⟩⟩
        · split
          · exact member
          · exact List.mem_cons_of_mem _ member
        · split at stays
          next again =>
            obtain ⟨entry, member, same⟩ := List.any_eq_true.1 again
            exact ⟨entry, stays entry member, Or.inr (Bool.and_eq_true_iff.1 same).2⟩
          next => exact ⟨_, stays _ List.mem_cons_self, Or.inl rfl⟩

/-- Whether every term is kept with its own fingerprint, and none is the same member of a set as
a term that was kept before it. -/
structure Kept.IsDistinct (kept : Kept) : Prop where
  prints : ∀ entry ∈ kept, entry.1 = entry.2.fingerprint
  apart : kept.Pairwise fun entry before => entry.2.isSameMember before.2 = false

/-- No term is overlooked because of its fingerprint. -/
theorem Kept.IsDistinct.isKept_iff {kept : Kept} (distinct : kept.IsDistinct) (t : Term) :
    isKept kept t = true ↔ ∃ entry ∈ kept, t.isSameMember entry.2 = true := by
  unfold isKept
  rw [List.any_eq_true]
  constructor
  · rintro ⟨entry, member, same⟩
    exact ⟨entry, member, (Bool.and_eq_true_iff.1 same).2⟩
  · rintro ⟨entry, member, same⟩
    refine ⟨entry, member, Bool.and_eq_true_iff.2 ⟨?_, same⟩⟩
    rw [distinct.prints entry member, beq_iff_eq]
    exact Term.fingerprint_eq_of_isSameMember same

theorem Kept.IsDistinct.cons {kept : Kept} (distinct : kept.IsDistinct) {t : Term}
    (fresh : ¬ isKept kept t = true) : Kept.IsDistinct ((t.fingerprint, t) :: kept) where
  prints := List.forall_mem_cons.2 ⟨rfl, distinct.prints⟩
  apart := by
    refine List.pairwise_cons.2 ⟨fun before member => ?_, distinct.apart⟩
    rw [← Bool.not_eq_true]
    exact fun same => fresh ((distinct.isKept_iff t).2 ⟨before, member, same⟩)

theorem isDistinct_of_addDistinct {kept kept' : Kept} {ts : List Term}
    (distinct : kept.IsDistinct) (added : addDistinct kept ts = .ok kept') :
    kept'.IsDistinct := by
  induction ts generalizing kept with
  | nil =>
      obtain rfl := Attempt.pure_eq_ok_iff.1 added
      exact distinct
  | cons t ts ih =>
      rw [addDistinct] at added
      split at added
      · exact (Attempt.throw_eq_ok_iff.1 added).elim
      · refine ih ?_ added
        split
        · exact distinct
        next fresh => exact distinct.cons fresh

theorem succeeds_addDistinct {ts : List Term} (hashable : ∀ t ∈ ts, t.isHashable = true)
    (kept : Kept) : Succeeds (addDistinct kept ts) := by
  induction ts generalizing kept with
  | nil => exact Attempt.succeeds_pure kept
  | cons t ts ih =>
      obtain ⟨here, rest⟩ := List.forall_mem_cons.1 hashable
      rw [addDistinct, here]
      exact ih rest _

variable {query : Query} {limits : Limits} {goal : Ty}

/-- Nothing but what the rules propose is kept besides what was. -/
theorem mem_of_addProposals {kept kept' : Kept} {rules : List Rule}
    (added : addProposals limits query goal kept rules = .ok kept') :
    ∀ entry ∈ kept', entry ∈ kept ∨
      ∃ rule ∈ rules, entry.2 ∈ (rule.propose goal query limits).terms := by
  induction rules generalizing kept with
  | nil =>
      obtain rfl := Attempt.pure_eq_ok_iff.1 added
      exact fun entry member => Or.inl member
  | cons rule rules ih =>
      obtain ⟨between, first, others⟩ := Attempt.bind_eq_ok_iff.1 added
      split at others
      · exact (Attempt.throw_eq_ok_iff.1 others).elim
      · intro entry member
        rcases ih others entry member with earlier | ⟨later, inside, proposed⟩
        · refine (mem_of_addDistinct first entry earlier).imp_right fun proposed => ?_
          exact ⟨rule, List.mem_cons_self, proposed⟩
        · exact Or.inr ⟨later, List.mem_cons_of_mem rule inside, proposed⟩

/-- Of everything that a rule proposes one term is kept that is the same member of a set. -/
theorem exists_kept_of_addProposals {kept kept' : Kept} {rules : List Rule}
    (added : addProposals limits query goal kept rules = .ok kept') :
    (∀ entry ∈ kept, entry ∈ kept') ∧
      ∀ rule ∈ rules, ∀ t ∈ (rule.propose goal query limits).terms,
        ∃ entry ∈ kept', t = entry.2 ∨ t.isSameMember entry.2 = true := by
  induction rules generalizing kept with
  | nil =>
      obtain rfl := Attempt.pure_eq_ok_iff.1 added
      exact ⟨fun _ => id, fun _ member => absurd member List.not_mem_nil⟩
  | cons rule rules ih =>
      obtain ⟨between, first, others⟩ := Attempt.bind_eq_ok_iff.1 added
      obtain ⟨before, proposed⟩ := exists_kept_of_addDistinct first
      split at others
      · exact (Attempt.throw_eq_ok_iff.1 others).elim
      · obtain ⟨stays, later⟩ := ih others
        refine ⟨fun entry member => stays entry (before entry member),
          List.forall_mem_cons.2 ⟨fun t member => ?_, later⟩⟩
        obtain ⟨entry, inside, same⟩ := proposed t member
        exact ⟨entry, stays entry inside, same⟩

theorem isDistinct_of_addProposals {kept kept' : Kept} {rules : List Rule}
    (distinct : kept.IsDistinct)
    (added : addProposals limits query goal kept rules = .ok kept') : kept'.IsDistinct := by
  induction rules generalizing kept with
  | nil =>
      obtain rfl := Attempt.pure_eq_ok_iff.1 added
      exact distinct
  | cons rule rules ih =>
      obtain ⟨between, first, others⟩ := Attempt.bind_eq_ok_iff.1 added
      split at others
      · exact (Attempt.throw_eq_ok_iff.1 others).elim
      · exact ih (isDistinct_of_addDistinct distinct first) others

/-- Of the terms that rules propose and that are the same member of a set, an expander lists
one: it lists none after another one, and one for each term that is proposed. -/
theorem distinct_of_ofRules {rules : List Rule} {ts : List Term}
    (listed : ofRules rules limits query goal = .ok ts) :
    ts.Pairwise (fun before t => t.isSameMember before = false) ∧
      ∀ rule ∈ rules, ∀ t ∈ (rule.propose goal query limits).terms,
        ∃ u ∈ ts, t = u ∨ t.isSameMember u = true := by
  obtain ⟨kept, added, rest⟩ := Attempt.bind_eq_ok_iff.1 listed
  obtain rfl := Attempt.pure_eq_ok_iff.1 rest
  have distinct := isDistinct_of_addProposals ⟨List.forall_mem_nil _, .nil⟩ added
  constructor
  · exact List.pairwise_map.2 (List.pairwise_reverse.2 distinct.apart)
  · intro rule inside t proposed
    obtain ⟨entry, member, same⟩ := (exists_kept_of_addProposals added).2 rule inside t proposed
    exact ⟨entry.2, List.mem_map_of_mem (List.mem_reverse.2 member), same⟩

theorem succeeds_addProposals (ordinary : query.IsOrdinary) (counts : limits.AreCounts)
    (goalOrdinary : goal.isOrdinary = true) (kept : Kept) (rules : List Rule) :
    Succeeds (addProposals limits query goal kept rules) := by
  induction rules generalizing kept with
  | nil => exact Attempt.succeeds_pure kept
  | cons rule rules ih =>
      have fillings := @Rule.areAll_propose query limits goal rule ordinary goalOrdinary
      rw [addProposals]
      refine Attempt.succeeds_bind (succeeds_addDistinct (fun t member =>
        Term.isHashable_of_everywhere (fillings.each t member).ordinary) kept) fun between _ => ?_
      rw [fillings.unstopped counts]
      exact ih between

/-- Whatever the limits are, what the standard expander lists may be proposed. -/
theorem isProposed_of_standard (ordinary : query.IsOrdinary)
    (goalOrdinary : goal.isOrdinary = true) {ts : List Term}
    (listed : standard limits query goal = .ok ts) : ∀ t ∈ ts, Rule.IsProposed query goal t := by
  obtain ⟨kept, added, rest⟩ := Attempt.bind_eq_ok_iff.1 listed
  obtain rfl := Attempt.pure_eq_ok_iff.1 rest
  intro t member
  obtain ⟨entry, inside, rfl⟩ := List.mem_map.1 member
  rcases mem_of_addProposals added entry (List.mem_reverse.1 inside) with none | ⟨rule, _, proposed⟩
  · exact absurd none List.not_mem_nil
  · exact (Rule.areAll_isProposed rule ordinary goalOrdinary).each _ proposed

/-- The standard expander lists the fillings of a hole with an ordinary goal. -/
theorem exists_fillings_of_standard (ordinary : query.IsOrdinary)
    (counts : limits.AreCounts) (goalOrdinary : goal.isOrdinary = true) :
    ∃ ts, standard limits query goal = .ok ts ∧
      ∀ t ∈ ts, Term.IsFilling query.env t := by
  obtain ⟨ts, listed⟩ : Succeeds (standard limits query goal) :=
    Attempt.succeeds_bind (succeeds_addProposals ordinary counts goalOrdinary [] Rule.standard)
      fun _ _ => Attempt.succeeds_pure _
  refine ⟨ts, listed, fun t member => ?_⟩
  exact (isProposed_of_standard ordinary goalOrdinary listed t member).isFilling ordinary
    goalOrdinary

/-- The standard expander lists every variable whose type is below the goal. -/
theorem var_mem_of_standard (ordinary : query.IsOrdinary) (goalOrdinary : goal.isOrdinary = true)
    {ts : List Term} (listed : standard limits query goal = .ok ts) {binding : String × Ty}
    (bound : binding ∈ query.env) (below : binding.2.checkedLe goal = .ok true) :
    .var binding.1 ∈ ts := by
  have proposed : .var binding.1 ∈ (Rule.proposeVariables goal query).terms :=
    Proposals.mem_selecting (fun other member => Ty.succeeds_checkedLe
      (ordinary.isComparable.env other member) (Ty.isHashable_of_isOrdinary goalOrdinary))
      bound below
  obtain ⟨u, member, rfl | same⟩ :=
    (distinct_of_ofRules listed).2 .fittingVariables (by decide) _ proposed
  · exact member
  · exact Term.eq_var_of_isSameMember same ▸ member

end Expander

end FunctionSynthesis
