import FunctionSynthesis.Proofs.Ty.Ordinary

/-!
# Membership of values in types

`Ty.Contains` says which values a type has, and equal types have the same members
(`containsBy_iff_of_equal`).

What it means that a value is of a class by name is a parameter, for two reasons.
The statements are about the names of classes. The typing of programs needs more:
that a value of a class with known methods is one of the values these methods
are defined on.
-/

namespace FunctionSynthesis

/-- What it means that a value is of a class. Whatever it means, it holds of the
values that literals, lists and dictionaries are. -/
structure Classification where
  isOf : Value → String → Prop
  atom : ∀ v : Value, v.isAtom = true → isOf v v.className
  list : ∀ items, isOf (.list items) "list"
  dict : ∀ entries, isOf (.dict entries) "dict"

namespace Classification

/-- The name of the class of a value decides. -/
def byName : Classification where
  isOf v name := v.className = name
  atom _ _ := rfl
  list _ := rfl
  dict _ := rfl

end Classification

namespace Ty

mutual

/-- Whether a value is a member of a type. -/
def ContainsBy (classes : Classification) : Ty → Value → Prop
  | .top, _ => True
  | .bottom, _ => False
  | .literal w, v => v.sameLiteral w = true
  | .text s, v => v = .str s
  | .nominal name, v => name = "object" ∨ classes.isOf v name
  | .generic base param, v =>
      if base = "list" then
        ∃ items, v = .list items ∧ ∀ item ∈ items, ContainsBy classes param item
      else if base = "dict" then
        ∃ entries : Entries, v = .dict entries ∧
          ∀ entry ∈ entries, ContainsBy classes param entry.2
      else base = "object" ∨ classes.isOf v base
  | .union ts, v => SomeContainsBy classes ts v
  | .record fields, v =>
      ∃ entries, v = .dict entries ∧ FieldsContainBy classes fields entries
  | .var _, _ => False
  | .foreign, _ => False
termination_by structural t => t

/-- Whether a value is a member of one of several types. -/
def SomeContainsBy (classes : Classification) : List Ty → Value → Prop
  | [], _ => False
  | t :: ts, v => ContainsBy classes t v ∨ SomeContainsBy classes ts v
termination_by structural ts => ts

/-- Whether a dictionary has a member of its type for every field that counts. -/
def FieldsContainBy (classes : Classification) :
    List (String × Ty) → Entries → Prop
  | [], _ => True
  | (key, t) :: fields, entries =>
      (hasField fields key = true ∨
        ∃ v, entries.valueOf? (.str key) = some v ∧ ContainsBy classes t v) ∧
      FieldsContainBy classes fields entries
termination_by structural fields => fields

end

/-- Whether a value is a member of a type, when classes go by their name. -/
def Contains (t : Ty) (v : Value) : Prop :=
  ContainsBy .byName t v

variable {classes : Classification}

/-! ### Shapes of types -/

@[simp]
theorem containsBy_top (v : Value) : ContainsBy classes .top v :=
  trivial

@[simp]
theorem not_containsBy_bottom (v : Value) : ¬ ContainsBy classes .bottom v :=
  id

theorem containsBy_literal (w v : Value) :
    ContainsBy classes (.literal w) v ↔ v.sameLiteral w = true :=
  Iff.rfl

theorem containsBy_union (ts : List Ty) (v : Value) :
    ContainsBy classes (.union ts) v ↔ ∃ t ∈ ts, ContainsBy classes t v := by
  change SomeContainsBy classes ts v ↔ _
  induction ts with
  | nil => simp [SomeContainsBy]
  | cons t ts ih => simp [SomeContainsBy, ih]

theorem fieldsContainBy_iff (fields : List (String × Ty)) (entries : Entries) :
    FieldsContainBy classes fields entries ↔
      ∀ key t, lastField? fields key = some t →
        ∃ v, entries.valueOf? (.str key) = some v ∧ ContainsBy classes t v := by
  induction fields with
  | nil => simp [FieldsContainBy, lastField?, firstField?]
  | cons field fields ih =>
      obtain ⟨name, t⟩ := field
      rw [FieldsContainBy, ih]
      constructor
      · rintro ⟨first, rest⟩ key u last
        rw [lastField?_cons] at last
        by_cases later : hasField fields key = true
        · rw [if_pos later] at last
          exact rest key u last
        · rw [if_neg later] at last
          by_cases same : name = key
          · subst same
            rw [if_pos (beq_self_eq_true name)] at last
            cases last
            exact first.resolve_left later
          · simp [same] at last
      · intro all
        constructor
        · by_cases later : hasField fields name = true
          · exact Or.inl later
          · exact Or.inr (all name t (by simp [lastField?_cons, later]))
        · intro key u last
          have later : hasField fields key = true := by
            rw [← isSome_lastField?, last]
            rfl
          exact all key u (by rw [lastField?_cons, if_pos later, last])

theorem containsBy_record (fields : List (String × Ty)) (v : Value) :
    ContainsBy classes (.record fields) v ↔
      ∃ entries : Entries, v = .dict entries ∧
        ∀ key t, lastField? fields key = some t →
          ∃ w, entries.valueOf? (.str key) = some w ∧ ContainsBy classes t w := by
  change (∃ entries, v = .dict entries ∧ FieldsContainBy classes fields entries) ↔ _
  simp only [fieldsContainBy_iff]

theorem containsBy_generic (base : String) (param : Ty) (v : Value) :
    ContainsBy classes (.generic base param) v ↔
      if base = "list" then
        ∃ items, v = .list items ∧ ∀ item ∈ items, ContainsBy classes param item
      else if base = "dict" then
        ∃ entries : Entries, v = .dict entries ∧
          ∀ entry ∈ entries, ContainsBy classes param entry.2
      else base = "object" ∨ classes.isOf v base :=
  Iff.rfl

theorem containsBy_list (param : Ty) (v : Value) :
    ContainsBy classes (.generic "list" param) v ↔
      ∃ items, v = .list items ∧ ∀ item ∈ items, ContainsBy classes param item := by
  rw [containsBy_generic, if_pos rfl]

theorem containsBy_dict (param : Ty) (v : Value) :
    ContainsBy classes (.generic "dict" param) v ↔
      ∃ entries : Entries, v = .dict entries ∧
        ∀ entry ∈ entries, ContainsBy classes param entry.2 := by
  rw [containsBy_generic, if_neg (by decide), if_pos rfl]

theorem isOf_of_containsBy_generic {base : String} {param : Ty} {v : Value}
    (member : ContainsBy classes (.generic base param) v) :
    base = "object" ∨ classes.isOf v base := by
  rw [containsBy_generic] at member
  by_cases isList : base = "list"
  · rw [if_pos isList] at member
    obtain ⟨items, rfl, _⟩ := member
    exact Or.inr (isList ▸ classes.list items)
  · rw [if_neg isList] at member
    by_cases isDict : base = "dict"
    · rw [if_pos isDict] at member
      obtain ⟨entries, rfl, _⟩ := member
      exact Or.inr (isDict ▸ classes.dict entries)
    · rw [if_neg isDict] at member
      exact member

theorem containsBy_generic_mono {base : String} {param param' : Ty} {v : Value}
    (mono : ∀ w, ContainsBy classes param w → ContainsBy classes param' w)
    (member : ContainsBy classes (.generic base param) v) :
    ContainsBy classes (.generic base param') v := by
  rw [containsBy_generic] at member ⊢
  by_cases isList : base = "list"
  · rw [if_pos isList] at member ⊢
    obtain ⟨items, rfl, all⟩ := member
    exact ⟨items, rfl, fun item inside => mono item (all item inside)⟩
  · rw [if_neg isList] at member ⊢
    by_cases isDict : base = "dict"
    · rw [if_pos isDict] at member ⊢
      obtain ⟨entries, rfl, all⟩ := member
      exact ⟨entries, rfl, fun entry inside => mono entry.2 (all entry inside)⟩
    · rw [if_neg isDict] at member ⊢
      exact member

theorem containsBy_union_mono {ts us : List Ty} {v : Value}
    (mono : ∀ t ∈ ts, ∃ u ∈ us, ContainsBy classes t v → ContainsBy classes u v)
    (member : ContainsBy classes (.union ts) v) :
    ContainsBy classes (.union us) v := by
  rw [containsBy_union] at member ⊢
  obtain ⟨t, left, member⟩ := member
  obtain ⟨u, right, wider⟩ := mono t left
  exact ⟨u, right, wider member⟩

theorem containsBy_record_mono {fs gs : List (String × Ty)} {v : Value}
    (mono : ∀ key u, lastField? gs key = some u →
      ∃ t, lastField? fs key = some t ∧
        ∀ w, ContainsBy classes t w → ContainsBy classes u w)
    (member : ContainsBy classes (.record fs) v) :
    ContainsBy classes (.record gs) v := by
  rw [containsBy_record] at member ⊢
  obtain ⟨entries, rfl, all⟩ := member
  refine ⟨entries, rfl, fun key u foundRight => ?_⟩
  obtain ⟨t, foundLeft, wider⟩ := mono key u foundRight
  obtain ⟨w, found, member⟩ := all key t foundLeft
  exact ⟨w, found, wider w member⟩

theorem containsBy_iff_alternatives (t : Ty) (v : Value) :
    ContainsBy classes t v ↔ ∃ u ∈ t.alternatives, ContainsBy classes u v := by
  induction t with
  | union ts ih =>
      rw [containsBy_union, alternatives_union]
      constructor
      · rintro ⟨t, inside, member⟩
        obtain ⟨u, alternative, member⟩ := (ih t inside).1 member
        exact ⟨u, List.mem_flatMap.2 ⟨t, inside, alternative⟩, member⟩
      · rintro ⟨u, alternative, member⟩
        obtain ⟨t, inside, alternative⟩ := List.mem_flatMap.1 alternative
        exact ⟨t, inside, (ih t inside).2 ⟨u, alternative, member⟩⟩
  | _ =>
      rw [alternatives_eq_singleton rfl]
      simp only [List.mem_singleton, exists_eq_left]

/-! ### Equality -/

/-- Equal types have the same members. -/
theorem containsBy_iff_of_equal {a b : Ty} {v : Value}
    (ha : a.isOrdinary = true) (hb : b.isOrdinary = true)
    (same : equal a b = true) :
    ContainsBy classes a v ↔ ContainsBy classes b v := by
  induction a generalizing b v with
  | literal w =>
      cases b with
      | literal w' =>
          have left := isHashable_of_isOrdinary ha
          have right := isHashable_of_isOrdinary hb
          rw [isHashable] at left right
          rw [equal] at same
          rw [containsBy_literal, containsBy_literal]
          exact ⟨fun member => Value.sameLiteral_trans right member same,
            fun member => Value.sameLiteral_trans left member
              (Value.sameLiteral_symm right same)⟩
      | _ => simp [equal] at same
  | text s =>
      cases b with
      | text s' =>
          obtain rfl : s = s' := by simpa [equal] using same
          exact Iff.rfl
      | _ => simp [equal] at same
  | nominal name =>
      cases b with
      | nominal name' =>
          obtain rfl : name = name' := by simpa [equal] using same
          exact Iff.rfl
      | _ => simp [equal] at same
  | generic base param ih =>
      cases b with
      | generic base' param' =>
          rw [isOrdinary_generic] at ha hb
          rw [equal, Bool.and_eq_true, beq_iff_eq] at same
          obtain ⟨rfl, same⟩ := same
          exact ⟨containsBy_generic_mono fun w => (ih ha hb same).1,
            containsBy_generic_mono fun w => (ih ha hb same).2⟩
      | _ => simp [equal] at same
  | union ts ih =>
      cases b with
      | union us =>
          rw [isOrdinary_union] at ha hb
          rw [equal, equalTable_eq_map, hitsEverywhere_map_iff] at same
          obtain ⟨rows, columns⟩ := same
          have told : ∀ t ∈ ts, ∀ u ∈ us,
              (isWrittenLike t u && equal t u) = true →
              (ContainsBy classes t v ↔ ContainsBy classes u v) := by
            intro t left u right hit
            exact ih t left (ha t left) (hb u right) (Bool.and_eq_true _ _ ▸ hit).2
          constructor
          · refine containsBy_union_mono fun t left => ?_
            obtain ⟨u, right, hit⟩ := rows t left
            exact ⟨u, right, (told t left u right hit).1⟩
          · refine containsBy_union_mono fun u right => ?_
            obtain ⟨t, left, hit⟩ := columns u right
            exact ⟨t, left, (told t left u right hit).2⟩
      | _ => simp [equal] at same
  | record fs ih =>
      cases b with
      | record gs =>
          rw [isOrdinary_record] at ha hb
          rw [equal, Bool.and_eq_true, allFieldsMatch_iff, List.all_eq_true] at same
          obtain ⟨matched, covered⟩ := same
          have told : ∀ key t u, lastField? fs key = some t →
              lastField? gs key = some u → ∀ w,
              (ContainsBy classes t w ↔ ContainsBy classes u w) := by
            intro key t u foundLeft foundRight w
            obtain ⟨u', foundRight', alike⟩ := matched key t foundLeft
            obtain rfl : u = u' := by simpa [foundRight] using foundRight'
            have left := mem_of_lastField? foundLeft
            have right := mem_of_lastField? foundRight
            exact ih _ left (ha _ left) (hb _ right) alike
          constructor
          · refine containsBy_record_mono fun key u foundRight => ?_
            have present := covered _ (mem_of_lastField? foundRight)
            rw [← isSome_lastField?] at present
            obtain ⟨t, foundLeft⟩ := Option.isSome_iff_exists.1 present
            exact ⟨t, foundLeft, fun w => (told key t u foundLeft foundRight w).1⟩
          · refine containsBy_record_mono fun key t foundLeft => ?_
            obtain ⟨u, foundRight, _⟩ := matched key t foundLeft
            exact ⟨u, foundRight, fun w => (told key t u foundLeft foundRight w).2⟩
      | _ => simp [equal] at same
  | top => cases b <;> simp_all [equal]
  | bottom => cases b <;> simp_all [equal]
  | var name =>
      cases b with
      | var name' => exact Iff.rfl
      | _ => simp [equal] at same
  | foreign =>
      cases b with
      | foreign => exact Iff.rfl
      | _ => simp [equal] at same

end Ty

end FunctionSynthesis
