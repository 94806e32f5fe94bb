import FunctionSynthesis.Example
import FunctionSynthesis.Proofs.Attempt
import FunctionSynthesis.Proofs.Value.Dictionary
import FunctionSynthesis.Proofs.Value.Numeral

/-!
# Reading examples

Whatever value stands for a collection of examples, reading it fails in no other way than by
saying that a value is unusable (`failsOnly_ofValues`). Otherwise each item is a dictionary with
an input and an output, and all examples have as many arguments as the first
(`ofValues_eq_ok_iff`).
-/

namespace FunctionSynthesis

open Attempt (FailsOnly)

/-- Whether a fault says that a value or its class is unusable. -/
def Fault.IsUnsuitable (fault : Fault) : Prop :=
  (fault.kind.isValue || fault.kind = .type) = true

namespace Value

variable {key : String} {v : Value}

theorem failsOnly_holds (key : String) (v : Value) :
    FailsOnly Fault.IsUnsuitable (v.holds key) := by
  cases v <;> first | exact Attempt.failsOnly_pure _ | exact Attempt.failsOnly_throw rfl

theorem hasKey_iff {entries : Entries} :
    entries.hasKey (.str key) = true ↔ ∃ value, entries.valueOf? (.str key) = some value := by
  unfold Entries.hasKey Entries.valueOf?
  rw [List.any_eq_true, ← List.find?_isSome]
  cases entries.find? fun entry => entry.1 == .str key <;> simp

theorem member_dict (entries : Entries) :
    (Value.dict entries).member key =
      match entries.valueOf? (.str key) with
      | some value => .ok value
      | Option.none => .error ⟨.key, [.str key]⟩ := rfl

/-- What a value holds can be taken out of it unless its class is not the right one. -/
theorem failsOnly_member (held : v.holds key = .ok true) :
    FailsOnly Fault.IsUnsuitable (v.member key) := by
  cases v with
  | dict entries =>
      obtain ⟨value, found⟩ := hasKey_iff.1 (Attempt.pure_eq_ok_iff.1 held)
      rw [member_dict, found]
      exact Attempt.failsOnly_pure value
  | _ => exact Attempt.failsOnly_throw rfl

theorem member_eq_ok_iff {value : Value} :
    v.member key = .ok value ↔ v.get? key = some value := by
  cases v with
  | dict entries =>
      rw [member_dict, get?]
      cases Entries.valueOf? entries (.str key) <;> simp
  | _ => exact Attempt.throw_eq_ok_iff.trans (by simp [get?])

theorem failsOnly_elements (v : Value) : FailsOnly Fault.IsUnsuitable v.elements := by
  unfold elements
  split
  · exact Attempt.failsOnly_pure _
  · exact Attempt.failsOnly_throw rfl

theorem elements_eq_ok_iff {items : List Value} :
    v.elements = .ok items ↔ v.elements? = some items := by
  unfold elements
  split
  next found => rw [found, Attempt.pure_eq_ok_iff, Option.some.injEq]
  next none => rw [none, Attempt.throw_eq_ok_iff]; simp

theorem failsOnly_entries (v : Value) : FailsOnly Fault.IsUnsuitable v.entries := by
  have each (i : Nat) (item : Value) : FailsOnly Fault.IsUnsuitable (entryAt i item) := by
    unfold entryAt
    dsimp only
    split
    · split
      · exact Attempt.failsOnly_pure _
      · exact Attempt.failsOnly_throw rfl
    · exact Attempt.failsOnly_throw rfl
    · exact Attempt.failsOnly_throw rfl
  cases v with
  | dict entries => exact Attempt.failsOnly_pure entries
  | _ =>
      refine (failsOnly_elements _).bind fun items => ?_
      exact (Attempt.failsOnly_mapM fun entry _ => each entry.2 entry.1).bind fun found =>
        Attempt.failsOnly_pure _

end Value

namespace Example

/-! ### One example -/

/-- Whether an item is a dictionary with the input and the output of an example. -/
def IsReadFrom (x : Example) (item : Value) : Prop :=
  ∃ input output, item.get? "input" = some input ∧ item.get? "output" = some output ∧
    x = ⟨argumentsOf input, output⟩

theorem failsOnly_ofValue (item : Value) : FailsOnly Fault.IsUnsuitable (ofValue item) := by
  refine (item.failsOnly_holds "input").bind_of_ok fun hasInput input => ?_
  refine (item.failsOnly_holds "output").bind_of_ok fun hasOutput output => ?_
  split
  next both =>
    obtain ⟨rfl, rfl⟩ := (Bool.and_eq_true_iff (x := hasInput)).1 both
    exact (Value.failsOnly_member input).bind fun _ => (Value.failsOnly_member output).bind
      fun _ => Attempt.failsOnly_pure _
  next =>
    have refused : Fault.IsUnsuitable (Fault.tooManyDigits none) := rfl
    exact item.failsOnly_entries.bind fun _ => (Value.failsOnly_written _ fun _ => refused).bind
      fun _ => Attempt.failsOnly_throw rfl

theorem ofValue_eq_ok_iff {item : Value} {x : Example} :
    ofValue item = .ok x ↔ x.IsReadFrom item := by
  constructor
  · intro read
    obtain ⟨hasInput, _, read⟩ := Attempt.bind_eq_ok_iff.1 read
    obtain ⟨hasOutput, _, read⟩ := Attempt.bind_eq_ok_iff.1 read
    split at read
    next =>
      obtain ⟨input, isInput, read⟩ := Attempt.bind_eq_ok_iff.1 read
      obtain ⟨output, isOutput, read⟩ := Attempt.bind_eq_ok_iff.1 read
      exact ⟨input, output, Value.member_eq_ok_iff.1 isInput, Value.member_eq_ok_iff.1 isOutput,
        (Attempt.pure_eq_ok_iff.1 read).symm⟩
    next =>
      obtain ⟨_, _, read⟩ := Attempt.bind_eq_ok_iff.1 read
      obtain ⟨_, _, read⟩ := Attempt.bind_eq_ok_iff.1 read
      exact (Attempt.throw_eq_ok_iff.1 read).elim
  · rintro ⟨input, output, isInput, isOutput, rfl⟩
    have held {key : String} {value : Value} (found : item.get? key = some value) :
        item.holds key = .ok true := by
      cases item with
      | dict entries => exact Attempt.pure_eq_ok_iff.2 (Value.hasKey_iff.2 ⟨value, found⟩)
      | _ => cases found
    unfold ofValue
    rw [held isInput, held isOutput, Value.member_eq_ok_iff.2 isInput,
      Value.member_eq_ok_iff.2 isOutput]
    rfl

/-! ### Collections -/

theorem mem_insertDistinct {m n : Nat} {counts : List Nat} :
    m ∈ insertDistinct n counts ↔ m = n ∨ m ∈ counts := by
  induction counts with
  | nil => simp [insertDistinct]
  | cons count counts ih =>
      rw [insertDistinct]
      split
      · simp
      · split
        next same => simp [same]
        next => simp [ih, or_left_comm]

theorem mem_arities {examples : List Example} {n : Nat} :
    n ∈ arities examples ↔ ∃ x ∈ examples, x.inputs.length = n := by
  induction examples with
  | nil => simp [arities]
  | cons x examples ih =>
      change n ∈ insertDistinct x.inputs.length (arities examples) ↔ _
      rw [mem_insertDistinct, ih]
      simp [eq_comm]

/-- Examples have one number of arguments when all have as many as the first. -/
theorem arities_of_even {examples : List Example} {n : Nat}
    (even : ∀ x ∈ examples, x.inputs.length = n) :
    arities examples = [] ∨ arities examples = [n] := by
  induction examples with
  | nil => exact Or.inl rfl
  | cons x examples ih =>
      obtain ⟨here, rest⟩ := List.forall_mem_cons.1 even
      have added : arities (x :: examples) = insertDistinct n (arities examples) := by
        rw [← here]
        rfl
      refine Or.inr ?_
      rcases ih rest with none | one
      · rw [added, none, insertDistinct]
      · simp [added, one, insertDistinct]

theorem checkArities_eq_ok_iff {examples found : List Example} :
    checkArities examples = .ok found ↔
      examples = found ∧ ∀ x ∈ examples, x.inputs.length = arityOf examples := by
  unfold checkArities
  split
  next m n rest several =>
    refine Attempt.throw_eq_ok_iff.trans ⟨False.elim, fun ⟨_, even⟩ => ?_⟩
    rcases arities_of_even even with none | one
    · cases several.symm.trans none
    · cases several.symm.trans one
  next single =>
    rw [Attempt.pure_eq_ok_iff]
    refine ⟨fun same => ⟨same, fun x member => ?_⟩, And.left⟩
    obtain ⟨first, others, rfl⟩ := List.exists_cons_of_ne_nil (List.ne_nil_of_mem member)
    have here : first.inputs.length ∈ arities (first :: others) :=
      mem_arities.2 ⟨first, List.mem_cons_self, rfl⟩
    have there : x.inputs.length ∈ arities (first :: others) := mem_arities.2 ⟨x, member, rfl⟩
    match counts : arities (first :: others) with
    | [] => exact absurd (counts ▸ here) List.not_mem_nil
    | [n] =>
        rw [counts, List.mem_singleton] at here there
        exact there.trans here.symm
    | m :: n :: rest => exact absurd counts (single m n rest)

/-- A value that lists no usable examples is refused for what it is. -/
theorem failsOnly_ofValues (given : Value) : FailsOnly Fault.IsUnsuitable (ofValues given) := by
  refine given.failsOnly_elements.bind fun items => ?_
  refine (Attempt.failsOnly_mapM fun item _ => failsOnly_ofValue item).bind fun examples => ?_
  unfold checkArities
  split
  · exact Attempt.failsOnly_throw rfl
  · exact Attempt.failsOnly_pure _

/-- A collection of examples is one of dictionaries, in the same order, that agree on the number
of arguments. -/
theorem ofValues_eq_ok_iff {given : Value} {examples : List Example} :
    ofValues given = .ok examples ↔
      (∃ items, given.elements? = some items ∧ List.Forall₂ IsReadFrom examples items) ∧
        ∀ x ∈ examples, x.inputs.length = arityOf examples := by
  constructor
  · intro read
    obtain ⟨items, listed, read⟩ := Attempt.bind_eq_ok_iff.1 read
    obtain ⟨found, each, read⟩ := Attempt.bind_eq_ok_iff.1 read
    obtain ⟨rfl, even⟩ := checkArities_eq_ok_iff.1 read
    refine ⟨⟨items, Value.elements_eq_ok_iff.1 listed, ?_⟩, even⟩
    exact ((Attempt.forall₂_of_mapM_eq_ok each).imp fun _ _ => ofValue_eq_ok_iff.1).flip
  · rintro ⟨⟨items, listed, pairs⟩, even⟩
    have each := Attempt.mapM_eq_ok_of_forall₂ (pairs.flip.imp fun _ _ => ofValue_eq_ok_iff.2)
    exact Attempt.bind_eq_ok_iff.2 ⟨items, Value.elements_eq_ok_iff.2 listed,
      Attempt.bind_eq_ok_iff.2 ⟨examples, each, checkArities_eq_ok_iff.2 ⟨rfl, even⟩⟩⟩

end Example

end FunctionSynthesis
