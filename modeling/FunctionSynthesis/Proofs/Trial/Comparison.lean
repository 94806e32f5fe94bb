import Mathlib.Data.List.Forall2
import FunctionSynthesis.Trial
import FunctionSynthesis.Proofs.Attempt
import FunctionSynthesis.Proofs.Value.Numeral
import FunctionSynthesis.Proofs.Value.Scalar
import FunctionSynthesis.Proofs.Value.Structure

/-!
# Comparing outputs

What it takes to reproduce a wanted output, item by item and entry by entry. A comparison
answers unless it comes to a key that is too long to be written (`failsOnly_reproduces`).
-/

namespace FunctionSynthesis

open Attempt (Succeeds FailsOnly)

/-- Whether all keys can be written. -/
def Entries.HasWritableKeys (entries : Entries) : Prop :=
  ∀ entry ∈ entries, entry.1.isWritable = true

namespace Value

variable {actual : Value} {found wanted : List Value}

/-! ### Atoms -/

/-- What agrees is equal and no truth value next to a number, and not a value that differs from
itself. -/
theorem agrees_iff (v w : Value) :
    v.agrees w = true ↔ v.isTruth = w.isTruth ∧ v.isNan = false ∧ v.equal w = true := by
  have unequal {v w : Value} (apart : v.isTruth ≠ w.isTruth) : v.agrees w = false := by
    cases v with
    | bool a =>
        cases w with
        | bool b => exact absurd rfl apart
        | _ => rfl
    | _ =>
        cases w with
        | bool b => simp [agrees, isTruth]
        | _ => exact absurd rfl apart
  by_cases truths : v.isTruth = w.isTruth
  · cases v with
    | bool a =>
        cases w with
        | bool b => cases a <;> cases b <;> decide
        | _ => cases truths
    | float x =>
        cases w with
        | bool b => cases truths
        | _ => cases x <;> simp [agrees, isTruth, isNan, BEq.beq]
    | _ =>
        cases w with
        | bool b => cases truths
        | _ => simp [agrees, isTruth, isNan, BEq.beq]
  · simp [truths, unequal truths]

/-- An atom is reproduced by itself, and by numbers that equal it. -/
theorem reproduces_of_isAtom {wanted : Value} (atom : wanted.isAtom = true) (actual : Value) :
    actual.reproduces wanted = .ok (actual.agrees wanted) := by
  cases wanted <;> first | rfl | exact absurd atom Bool.false_ne_true

/-! ### Items -/

theorem itemsIfMany?_eq_some_iff {count : Nat} :
    actual.itemsIfMany? count = some found ↔
      (actual = .list found ∨ actual = .tuple found) ∧ found.length = count := by
  cases actual with
  | list items =>
      simp only [itemsIfMany?, Option.ite_none_right_eq_some, Option.some.injEq, list.injEq,
        reduceCtorEq, or_false]
      exact ⟨fun ⟨many, same⟩ => ⟨same, same ▸ many⟩, fun ⟨same, many⟩ => ⟨same ▸ many, same⟩⟩
  | tuple items =>
      simp only [itemsIfMany?, Option.ite_none_right_eq_some, Option.some.injEq, tuple.injEq,
        reduceCtorEq, false_or]
      exact ⟨fun ⟨many, same⟩ => ⟨same, same ▸ many⟩, fun ⟨same, many⟩ => ⟨same ▸ many, same⟩⟩
  | _ => simp [itemsIfMany?]

theorem reproducesItems_iff (many : found.length = wanted.length) :
    reproducesItems found wanted = .ok true ↔
      List.Forall₂ (fun v w => reproduces v w = .ok true) found wanted := by
  induction wanted generalizing found with
  | nil =>
      obtain rfl := List.eq_nil_of_length_eq_zero many
      exact iff_of_true rfl .nil
  | cons w wanted ih =>
      cases found with
      | nil => cases many
      | cons v found =>
          rw [reproducesItems, Attempt.and_eq_ok_true_iff, List.forall₂_cons,
            ih (Nat.succ.inj many)]

/-- A sequence is reproduced by one that reproduces it item by item. -/
theorem reproduces_sequence_iff (actual : Value) (wanted : List Value) :
    actual.reproduces (.list wanted) = .ok true ↔
      ∃ found, (actual = .list found ∨ actual = .tuple found) ∧
        List.Forall₂ (fun v w => reproduces v w = .ok true) found wanted := by
  rw [reproduces]
  cases items : actual.itemsIfMany? wanted.length with
  | none =>
      refine iff_of_false (fun same => ?_) ?_
      · cases same
      · rintro ⟨found, isSequence, pairs⟩
        cases items.symm.trans (itemsIfMany?_eq_some_iff.2 ⟨isSequence, pairs.length_eq⟩)
  | some found =>
      obtain ⟨isSequence, many⟩ := itemsIfMany?_eq_some_iff.1 items
      refine (reproducesItems_iff many).trans ⟨fun pairs => ⟨found, isSequence, pairs⟩, ?_⟩
      rintro ⟨other, isSequence', pairs⟩
      obtain rfl := Option.some.inj (items.symm.trans
        (itemsIfMany?_eq_some_iff.2 ⟨isSequence', pairs.length_eq⟩))
      exact pairs

theorem reproduces_tuple (actual : Value) (wanted : List Value) :
    actual.reproduces (.tuple wanted) = actual.reproduces (.list wanted) :=
  rfl

/-! ### Entries -/

section First

variable {key : Value} {entries : Entries}

/-- Nothing can be said of entries that begin with a key that is too long. -/
theorem reproducesEntries_of_not_isWritable (unwritable : ¬ key.isWritable = true)
    (entries wanted : Entries) (value : Value) :
    reproducesEntries entries ((key, value) :: wanted) =
      .error (Fault.tooManyDigits Option.none) := by
  rw [reproducesEntries, written_of_not_isWritable _ unwritable]
  rfl

theorem reproducesEntries_of_valueOf?_eq_some (writable : key.isWritable = true) {v : Value}
    (located : entries.valueOf? (.str key.plainText) = some v) (wanted : Entries) (value : Value) :
    reproducesEntries entries ((key, value) :: wanted) =
      (v.reproduces value >>= fun same =>
        if same then reproducesEntries entries wanted else pure false) := by
  rw [reproducesEntries, written_of_isWritable _ writable]
  dsimp only [bind, Except.bind]
  rw [located]

theorem reproducesEntries_of_valueOf?_eq_none (writable : key.isWritable = true)
    (missing : entries.valueOf? (.str key.plainText) = Option.none) (wanted : Entries)
    (value : Value) : reproducesEntries entries ((key, value) :: wanted) = .ok false := by
  rw [reproducesEntries, written_of_isWritable _ writable]
  dsimp only [bind, Except.bind]
  rw [missing]
  rfl

end First

/-- The entries of a dictionary are reproduced by one that has the texts of their keys, which are
not too long, with values that reproduce theirs. -/
theorem reproducesEntries_iff (found wanted : Entries) :
    reproducesEntries found wanted = .ok true ↔
      ∀ entry ∈ wanted, entry.1.isWritable = true ∧
        ∃ v, found.valueOf? (.str entry.1.plainText) = some v ∧
          reproduces v entry.2 = .ok true := by
  induction wanted with
  | nil => exact iff_of_true rfl (List.forall_mem_nil _)
  | cons entry wanted ih =>
      obtain ⟨k, w⟩ := entry
      rw [List.forall_mem_cons, ← ih]
      by_cases writable : k.isWritable = true
      · cases located : found.valueOf? (.str k.plainText) with
        | none =>
            rw [reproducesEntries_of_valueOf?_eq_none writable located]
            simp
        | some v =>
            rw [reproducesEntries_of_valueOf?_eq_some writable located, Attempt.and_eq_ok_true_iff]
            simp [writable]
      · rw [reproducesEntries_of_not_isWritable writable]
        exact iff_of_false (by simp) fun both => writable both.1.1

theorem reproduces_dict_iff (actual : Value) (wanted : Entries) :
    actual.reproduces (.dict wanted) = .ok true ↔
      ∃ found, actual = .dict found ∧ reproducesEntries found wanted = .ok true := by
  cases actual <;> simp [reproduces, pure, Except.pure]

/-! ### Answers -/

section Answers

variable {kind : Fault → Prop}

theorem failsOnly_reproducesItems
    (each : ∀ w ∈ wanted, ∀ v : Value, FailsOnly kind (v.reproduces w)) (found : List Value) :
    FailsOnly kind (reproducesItems found wanted) := by
  induction wanted generalizing found with
  | nil => exact Attempt.failsOnly_pure true
  | cons w wanted ih =>
      obtain ⟨here, rest⟩ := List.forall_mem_cons.1 each
      cases found with
      | nil => exact Attempt.failsOnly_pure true
      | cons v found => exact (here v).and (ih rest found)

theorem failsOnly_reproducesEntries {wanted : Entries}
    (refused : ¬ wanted.HasWritableKeys → kind (Fault.tooManyDigits Option.none))
    (each : ∀ entry ∈ wanted, ∀ v : Value, FailsOnly kind (v.reproduces entry.2))
    (found : Entries) : FailsOnly kind (reproducesEntries found wanted) := by
  induction wanted with
  | nil => exact Attempt.failsOnly_pure true
  | cons entry wanted ih =>
      obtain ⟨k, w⟩ := entry
      obtain ⟨here, rest⟩ := List.forall_mem_cons.1 each
      have later := ih (fun long => refused fun keys => long (List.forall_mem_cons.1 keys).2) rest
      rw [reproducesEntries]
      refine (failsOnly_written _ fun long => refused fun keys =>
        long (List.forall_mem_cons.1 keys).1).bind fun key => ?_
      split
      next v _ => exact (here v).and later
      next => exact Attempt.failsOnly_pure false

theorem failsOnly_reproduces_list
    (each : ∀ w ∈ wanted, ∀ v : Value, FailsOnly kind (v.reproduces w)) (actual : Value) :
    FailsOnly kind (actual.reproduces (.list wanted)) := by
  rw [reproduces]
  split
  next found _ => exact failsOnly_reproducesItems each found
  next => exact Attempt.failsOnly_pure false

/-- A comparison with an output only fails at a key that is too long to be written. -/
theorem failsOnly_reproduces {wanted : Value}
    (refused : ¬ wanted.EveryDictionary Entries.HasWritableKeys →
      kind (Fault.tooManyDigits Option.none)) (actual : Value) :
    FailsOnly kind (actual.reproduces wanted) := by
  induction wanted using inductionOn generalizing actual with
  | atom wanted isAtom =>
      rw [reproduces_of_isAtom isAtom]
      exact Attempt.failsOnly_pure _
  | list items ih =>
      rw [everyDictionary_list] at refused
      exact failsOnly_reproduces_list (fun w inside => ih w inside fun long =>
        refused fun keys => long (keys w inside)) actual
  | tuple items ih =>
      rw [everyDictionary_tuple] at refused
      rw [reproduces_tuple]
      exact failsOnly_reproduces_list (fun w inside => ih w inside fun long =>
        refused fun keys => long (keys w inside)) actual
  | dict entries ih =>
      rw [everyDictionary_dict] at refused
      cases actual with
      | dict found =>
          refine failsOnly_reproducesEntries (fun long => refused fun keys => long keys.1)
            (fun entry inside => ih entry inside fun long => ?_) found
          exact refused fun keys => long (keys.2 entry inside)
      | _ => exact Attempt.failsOnly_pure false
  | set items => exact Attempt.failsOnly_pure _
  | special kind plain literal => exact Attempt.failsOnly_pure _

/-- A comparison with an output answers if all keys in the output can be written. -/
theorem succeeds_reproduces {wanted : Value}
    (keys : wanted.EveryDictionary Entries.HasWritableKeys) (actual : Value) :
    Succeeds (actual.reproduces wanted) :=
  (failsOnly_reproduces (fun long => long keys) actual).succeeds

end Answers

end Value

end FunctionSynthesis
