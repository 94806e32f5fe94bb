import FunctionSynthesis.Proofs.Attempt
import FunctionSynthesis.Value.Method

/-!
# What methods of texts and lists give

The methods of a text give texts, apart from `split` and `startswith`
(`callMethod_str_cases`), an item of a list is in the list and a slice has no
items of its own.
-/

namespace FunctionSynthesis

open Attempt (bind_eq_ok_iff pure_eq_ok_iff throw_eq_ok_iff)

/-! ### Items and slices -/

theorem Slice.mem_of_mem_of {α : Type} {items : List α} {start stop : Option Int}
    {step : Int} {item : α} (member : item ∈ Slice.of items start stop step) :
    item ∈ items := by
  unfold Slice.of at member
  obtain ⟨i, _, found⟩ := List.mem_filterMap.1 member
  rw [List.getElem?_toArray] at found
  exact List.mem_of_getElem? found

namespace Value

theorem mem_of_pickAt {α : Type} {items : List α} {position : Value} {item : α}
    (picked : pickAt items position = .ok item) : item ∈ items := by
  unfold pickAt at picked
  split at picked
  · simp [throw_eq_ok_iff] at picked
  · dsimp only at picked
    split at picked
    next found =>
      split at found
      · simp at found
      · rw [← pure_eq_ok_iff.1 picked]
        exact List.mem_of_getElem? found
    next => simp [throw_eq_ok_iff] at picked

theorem itemAt_str {s : String} {position result : Value}
    (picked : (Value.str s).itemAt position = .ok result) :
    ∃ t, result = .str t := by
  simp only [itemAt, bind_eq_ok_iff, pure_eq_ok_iff] at picked
  obtain ⟨c, _, rfl⟩ := picked
  exact ⟨_, rfl⟩

theorem mem_of_itemAt_list {items : List Value} {position result : Value}
    (picked : (Value.list items).itemAt position = .ok result) :
    result ∈ items :=
  mem_of_pickAt picked

theorem mem_of_mem_between {α : Type} {items part : List α}
    {start stop step : Value} {item : α}
    (cut : between items start stop step = .ok part) (member : item ∈ part) :
    item ∈ items := by
  simp only [between, bind_eq_ok_iff] at cut
  obtain ⟨width, _, cut⟩ := cut
  split at cut
  · simp [throw_eq_ok_iff, bind_eq_ok_iff] at cut
  · simp only [bind_eq_ok_iff, pure_eq_ok_iff] at cut
    obtain ⟨_, _, _, _, _, rfl⟩ := cut
    exact Slice.mem_of_mem_of member

theorem sliceAt_str {s : String} {start stop step result : Value}
    (cut : (Value.str s).sliceAt start stop step = .ok result) :
    ∃ t, result = .str t := by
  simp only [sliceAt, bind_eq_ok_iff, pure_eq_ok_iff] at cut
  obtain ⟨_, _, rfl⟩ := cut
  exact ⟨_, rfl⟩

theorem sliceAt_list {items : List Value} {start stop step result : Value}
    (cut : (Value.list items).sliceAt start stop step = .ok result) :
    ∃ part, result = .list part ∧ ∀ item ∈ part, item ∈ items := by
  simp only [sliceAt, bind_eq_ok_iff, pure_eq_ok_iff] at cut
  obtain ⟨part, cut, rfl⟩ := cut
  exact ⟨part, rfl, fun _ => mem_of_mem_between cut⟩

/-! ### Operators -/

theorem apply_add_str {s : String} {other result : Value}
    (applied : Operator.add.apply (.str s) other = .ok result) :
    ∃ t, result = .str t := by
  cases other <;>
    simp_all [Operator.apply, number?, Operator.onOthers, Operator.onOthers.refused,
      pure_eq_ok_iff, throw_eq_ok_iff]
  exact ⟨_, applied.symm⟩

theorem apply_int_int {operator : Operator} {n m : Int} {result : Value}
    (arithmetic : operator = .add ∨ operator = .multiply)
    (applied : operator.apply (.int n) (.int m) = .ok result) :
    ∃ k, result = .int k := by
  rcases arithmetic with rfl | rfl <;>
    exact ⟨_, (pure_eq_ok_iff.1 applied).symm⟩

/-! ### Texts -/

/-- The methods of texts that give a text. -/
def textValuedMethods : List String :=
  ["upper", "lower", "capitalize", "title", "strip", "replace", "join"]

theorem strip_eq_str {chars : List Char} {args : List Value} {result : Value}
    (called : strip chars args = .ok result) : ∃ t, result = .str t := by
  unfold strip at called
  split at called
  · exact ⟨_, (pure_eq_ok_iff.1 called).symm⟩
  · exact ⟨_, (pure_eq_ok_iff.1 called).symm⟩
  · exact ⟨_, (pure_eq_ok_iff.1 called).symm⟩
  · exact (throw_eq_ok_iff.1 called).elim

theorem replace_eq_str {chars : List Char} {args : List Value} {result : Value}
    (called : replace chars args = .ok result) : ∃ t, result = .str t := by
  unfold replace at called
  split at called
  · exact ⟨_, (pure_eq_ok_iff.1 called).symm⟩
  · obtain ⟨_, _, called⟩ := bind_eq_ok_iff.1 called
    exact ⟨_, (pure_eq_ok_iff.1 called).symm⟩
  · exact (throw_eq_ok_iff.1 called).elim

theorem join_eq_str {chars : List Char} {args : List Value} {result : Value}
    (called : join chars args = .ok result) : ∃ t, result = .str t := by
  unfold join at called
  split at called
  · split at called
    · obtain ⟨_, _, called⟩ := bind_eq_ok_iff.1 called
      exact ⟨_, (pure_eq_ok_iff.1 called).symm⟩
    · exact (throw_eq_ok_iff.1 called).elim
  · exact (throw_eq_ok_iff.1 called).elim

/-- Whether a value is a list of texts. -/
def IsTexts (v : Value) : Prop :=
  ∃ items, v = .list items ∧ ∀ item ∈ items, ∃ t, item = .str t

theorem isTexts_splitBy {chars : List Char} {separator : Value} {limit : Nat}
    {result : Value} (called : splitBy chars separator limit = .ok result) :
    result.IsTexts := by
  unfold splitBy at called
  split at called
  · refine ⟨_, (pure_eq_ok_iff.1 called).symm, fun item member => ?_⟩
    obtain ⟨piece, _, rfl⟩ := List.mem_map.1 member
    exact ⟨_, rfl⟩
  · split at called
    · exact (throw_eq_ok_iff.1 called).elim
    · refine ⟨_, (pure_eq_ok_iff.1 called).symm, fun item member => ?_⟩
      obtain ⟨piece, _, rfl⟩ := List.mem_map.1 member
      exact ⟨_, rfl⟩
  · exact (throw_eq_ok_iff.1 called).elim

theorem isTexts_split {chars : List Char} {args : List Value} {result : Value}
    (called : split chars args = .ok result) : result.IsTexts := by
  unfold split at called
  split at called
  · exact isTexts_splitBy called
  · exact isTexts_splitBy called
  · obtain ⟨_, _, called⟩ := bind_eq_ok_iff.1 called
    exact isTexts_splitBy called
  · exact (throw_eq_ok_iff.1 called).elim

theorem startsWithin_eq_bool {chars : List Char} {start stop wanted result : Value}
    (called : startsWithin chars start stop wanted = .ok result) :
    ∃ b, result = .bool b := by
  unfold startsWithin at called
  obtain ⟨_, _, called⟩ := bind_eq_ok_iff.1 called
  obtain ⟨_, _, called⟩ := bind_eq_ok_iff.1 called
  split at called
  · exact ⟨_, (pure_eq_ok_iff.1 called).symm⟩
  · obtain ⟨_, _, called⟩ := bind_eq_ok_iff.1 called
    exact ⟨_, (pure_eq_ok_iff.1 called).symm⟩
  · exact (throw_eq_ok_iff.1 called).elim

theorem startsWith_eq_bool {chars : List Char} {args : List Value} {result : Value}
    (called : startsWith chars args = .ok result) : ∃ b, result = .bool b := by
  unfold startsWith at called
  split at called
  · exact startsWithin_eq_bool called
  · exact startsWithin_eq_bool called
  · exact startsWithin_eq_bool called
  · exact (throw_eq_ok_iff.1 called).elim

theorem callTextMethod_cases {text method : String} {args : List Value}
    {result : Value} (called : callTextMethod text method args = .ok result) :
    (method ∈ textValuedMethods ∧ ∃ t, result = .str t) ∨
      (method = "split" ∧ result.IsTexts) ∨
      (method = "startswith" ∧ ∃ b, result = .bool b) := by
  unfold callTextMethod at called
  split at called
  iterate 4
    · exact Or.inl ⟨by simp [textValuedMethods], _, (pure_eq_ok_iff.1 called).symm⟩
  · exact Or.inl ⟨by simp [textValuedMethods], strip_eq_str called⟩
  · exact Or.inl ⟨by simp [textValuedMethods], replace_eq_str called⟩
  · exact Or.inr (Or.inl ⟨rfl, isTexts_split called⟩)
  · exact Or.inl ⟨by simp [textValuedMethods], join_eq_str called⟩
  · exact Or.inr (Or.inr ⟨rfl, startsWith_eq_bool called⟩)
  · exact (throw_eq_ok_iff.1 called).elim

/-! ### Calls -/

theorem callMethod_str_add {s : String} {args : List Value} {result : Value}
    (called : (Value.str s).callMethod "__add__" args = .ok result) :
    ∃ t, result = .str t := by
  change (Value.str s).callOwnMethod "__add__" args = .ok result at called
  match args with
  | [] => exact (throw_eq_ok_iff.1 called).elim
  | [other] => exact apply_add_str called
  | _ :: _ :: _ => exact (throw_eq_ok_iff.1 called).elim

theorem callMethod_str_getitem {s : String} {args : List Value} {result : Value}
    (called : (Value.str s).callMethod "__getitem__" args = .ok result) :
    ∃ t, result = .str t := by
  change (Value.str s).callOwnMethod "__getitem__" args = .ok result at called
  match args with
  | [] => exact (throw_eq_ok_iff.1 called).elim
  | [position] => exact itemAt_str called
  | _ :: _ :: _ => exact (throw_eq_ok_iff.1 called).elim

theorem mem_of_callMethod_list {items args : List Value} {result : Value}
    (called : (Value.list items).callMethod "__getitem__" args = .ok result) :
    result ∈ items := by
  change (Value.list items).callOwnMethod "__getitem__" args = .ok result at called
  match args with
  | [] => exact (throw_eq_ok_iff.1 called).elim
  | [position] => exact mem_of_itemAt_list called
  | _ :: _ :: _ => exact (throw_eq_ok_iff.1 called).elim

end Value

end FunctionSynthesis
