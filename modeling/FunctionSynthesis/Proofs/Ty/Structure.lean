import FunctionSynthesis.Ty.Subtype
import FunctionSynthesis.Ty.Comparison

/-!
# The structure of types

Induction on types, in which the members of a union and the fields of a record
are reached through membership, and the functions that go through lists of types
told by the operations on lists that they are.
-/

namespace FunctionSynthesis.Ty

/-! ### Induction -/

/-- Induction on types with membership for what is inside lists. -/
@[induction_eliminator]
theorem inductionOn {motive : Ty → Prop}
    (top : motive .top) (bottom : motive .bottom)
    (literal : ∀ value, motive (.literal value))
    (text : ∀ value, motive (.text value))
    (nominal : ∀ name, motive (.nominal name))
    (generic : ∀ base param, motive param → motive (.generic base param))
    (union : ∀ members, (∀ t ∈ members, motive t) → motive (.union members))
    (record : ∀ fields, (∀ field ∈ fields, motive field.2) →
      motive (.record fields))
    (var : ∀ name, motive (.var name)) (foreign : motive .foreign) (t : Ty) :
    motive t :=
  @Ty.rec motive (fun members => ∀ t ∈ members, motive t)
    (fun fields => ∀ field ∈ fields, motive field.2)
    (fun field => motive field.2)
    top bottom literal text nominal generic union record var foreign
    (fun _ member => absurd member List.not_mem_nil)
    (fun _ _ here rest => List.forall_mem_cons.2 ⟨here, rest⟩)
    (fun _ member => absurd member List.not_mem_nil)
    (fun _ _ here rest => List.forall_mem_cons.2 ⟨here, rest⟩)
    (fun _ _ here => here) t

/-! ### Fields -/

theorem hasField_eq_any (fields : List (String × Ty)) (key : String) :
    hasField fields key = fields.any fun field => field.1 == key := by
  induction fields with
  | nil => rfl
  | cons field fields ih => simp [hasField, ih]

/-- A field counts unless a later one has its name. -/
theorem lastField?_cons (name : String) (t : Ty) (fields : List (String × Ty))
    (key : String) :
    lastField? ((name, t) :: fields) key =
      if hasField fields key then lastField? fields key
      else if name == key then some t else none := by
  have present : hasField fields key =
      (fields.reverse.find? fun field => field.1 == key).isSome := by
    rw [hasField_eq_any, Bool.eq_iff_iff]
    simp
  simp only [lastField?, firstField?, List.reverse_cons, List.find?_append,
    present]
  cases fields.reverse.find? fun field => field.1 == key with
  | some field => simp
  | none => by_cases same : name = key <;> simp [same]

theorem isSome_lastField? (fields : List (String × Ty)) (key : String) :
    (lastField? fields key).isSome = hasField fields key := by
  induction fields with
  | nil => rfl
  | cons field fields ih =>
      rw [lastField?_cons, hasField]
      by_cases later : hasField fields key = true
      · simp [later, ih]
      · by_cases same : field.1 = key <;> simp [later, same]

theorem mem_of_lastField? {fields : List (String × Ty)} {key : String} {t : Ty}
    (last : lastField? fields key = some t) : (key, t) ∈ fields := by
  obtain ⟨field, found, rfl⟩ := Option.map_eq_some_iff.1 last
  have same : field.1 = key := by simpa using List.find?_some found
  exact same ▸ List.mem_reverse.1 (List.mem_of_find?_eq_some found)

theorem mem_of_firstField? {fields : List (String × Ty)} {key : String} {t : Ty}
    (first : firstField? fields key = some t) : (key, t) ∈ fields := by
  obtain ⟨field, found, rfl⟩ := Option.map_eq_some_iff.1 first
  have same : field.1 = key := by simpa using List.find?_some found
  exact same ▸ List.mem_of_find?_eq_some found

/-! ### Functions on lists of types -/

theorem alternativesOf_eq_flatMap (ts : List Ty) :
    alternativesOf ts = ts.flatMap alternatives := by
  induction ts with
  | nil => rfl
  | cons t ts ih => simp [alternativesOf, ih]

theorem alternatives_union (ts : List Ty) :
    (union ts).alternatives = ts.flatMap alternatives :=
  alternativesOf_eq_flatMap ts

theorem alternatives_eq_singleton {t : Ty} (alone : t.isUnion = false) :
    t.alternatives = [t] := by
  cases t <;> first | rfl | cases alone

theorem anyAlternative_of_alone (test : Ty → Bool) {t : Ty} (alone : t.isUnion = false) :
    t.anyAlternative test = test t := by
  rw [anyAlternative, alternatives_eq_singleton alone, List.any_cons, List.any_nil,
    Bool.or_false]

theorem promoteAllWith_eq_map (general : Value → Ty) (ts : List Ty) :
    promoteAllWith general ts = ts.map (promoteWith general) := by
  induction ts with
  | nil => rfl
  | cons t ts ih => simp [promoteAllWith, ih]

theorem promoteFieldsWith_eq_map (general : Value → Ty)
    (fields : List (String × Ty)) :
    promoteFieldsWith general fields =
      fields.map fun field => (field.1, promoteWith general field.2) := by
  induction fields with
  | nil => rfl
  | cons field fields ih => simp [promoteFieldsWith, ih]

theorem areHashable_eq_all (ts : List Ty) :
    areHashable ts = ts.all isHashable := by
  induction ts with
  | nil => rfl
  | cons t ts ih => simp [areHashable, ih]

theorem areHashableFields_eq_all (fields : List (String × Ty)) :
    areHashableFields fields = fields.all fun field => isHashable field.2 := by
  induction fields with
  | nil => rfl
  | cons field fields ih => simp [areHashableFields, ih]

theorem isHashable_union (ts : List Ty) :
    (Ty.union ts).isHashable = true ↔ ∀ t ∈ ts, t.isHashable = true := by
  rw [isHashable, areHashable_eq_all, List.all_eq_true]

theorem isHashable_record (fields : List (String × Ty)) :
    (Ty.record fields).isHashable = true ↔ ∀ field ∈ fields, field.2.isHashable = true := by
  rw [isHashable, areHashableFields_eq_all, List.all_eq_true]

theorem equalTable_eq_map (ts us : List Ty) :
    equalTable ts us =
      ts.map fun t => us.map fun u => isWrittenLike t u && equal t u := by
  induction ts with
  | nil => rfl
  | cons t ts ih => simp [equalTable, ih]

theorem likenessTable_eq_map (ts us : List Ty) :
    likenessTable ts us = ts.map fun t => us.map fun u => isWrittenLike t u := by
  induction ts with
  | nil => rfl
  | cons t ts ih => simp [likenessTable, ih]

theorem fieldLikenessTable_eq_map (fs gs : List (String × Ty)) :
    fieldLikenessTable fs gs =
      fs.map fun f => gs.map fun g => f.1 == g.1 && isWrittenLike f.2 g.2 := by
  induction fs with
  | nil => rfl
  | cons f fs ih => simp [fieldLikenessTable, ih]

theorem allLeWith_eq_all (literalLe : Value → Ty → Bool) (ts : List Ty) (b : Ty) :
    allLeWith literalLe ts b = ts.all fun t => leWith literalLe t b := by
  induction ts with
  | nil => rfl
  | cons t ts ih => simp [allLeWith, ih]

theorem lastFieldLeWith_eq_any (literalLe : Value → Ty → Bool)
    (fields : List (String × Ty)) (key : String) (b : Ty) :
    lastFieldLeWith literalLe fields key b =
      (lastField? fields key).any fun t => leWith literalLe t b := by
  induction fields with
  | nil => rfl
  | cons field fields ih =>
      rw [lastFieldLeWith, lastField?_cons, ih]
      by_cases later : hasField fields key = true
      · simp [later]
      · by_cases same : field.1 = key <;> simp [later, same]

theorem allFieldsMatch_iff (fs gs : List (String × Ty)) :
    allFieldsMatch fs gs = true ↔
      ∀ key t, lastField? fs key = some t →
        ∃ u, lastField? gs key = some u ∧ equal t u = true := by
  induction fs with
  | nil => simp [allFieldsMatch, lastField?, firstField?]
  | cons f fs ih =>
      obtain ⟨name, t⟩ := f
      have unfolded : allFieldsMatch ((name, t) :: fs) gs = true ↔
          (hasField fs name = false →
            ∃ u, lastField? gs name = some u ∧ equal t u = true) ∧
          allFieldsMatch fs gs = true := by
        rw [allFieldsMatch]
        cases hasField fs name <;> cases lastField? gs name <;> simp
      rw [unfolded, ih]
      constructor
      · rintro ⟨first, rest⟩ key u last
        rw [lastField?_cons] at last
        by_cases later : hasField fs key = true
        · rw [if_pos later] at last
          exact rest key u last
        · rw [if_neg later] at last
          by_cases same : name = key
          · subst same
            rw [if_pos (beq_self_eq_true name)] at last
            cases last
            exact first (by simpa using later)
          · simp [same] at last
      · intro all
        refine ⟨fun last => all name t ?_, fun key u last => all key u ?_⟩
        · simp [lastField?_cons, last]
        · have later : hasField fs key = true := by
            rw [← isSome_lastField?, last]
            rfl
          rw [lastField?_cons, if_pos later, last]

/-- A table made from two lists has a hit in every row and in every column when
every item of the one list is related to one of the other, and the other way
round. -/
theorem hitsEverywhere_map_iff {α β : Type} (related : α → β → Bool)
    (xs : List α) (ys : List β) :
    hitsEverywhere ys.length (xs.map fun x => ys.map (related x)) = true ↔
      (∀ x ∈ xs, ∃ y ∈ ys, related x y = true) ∧
        (∀ y ∈ ys, ∃ x ∈ xs, related x y = true) := by
  -- the columns in which one of the first rows has a hit are kept as a list
  have columns : ∀ (found : β → Bool),
      (xs.map fun x => ys.map (related x)).foldl (List.zipWith or) (ys.map found) =
        ys.map fun y => found y || xs.any fun x => related x y := by
    induction xs with
    | nil => simp
    | cons x xs ih =>
        intro found
        have row : List.zipWith or (ys.map found) (ys.map (related x)) =
            ys.map fun y => found y || related x y := by
          simp [List.zipWith_map, List.zipWith_self]
        rw [List.map_cons, List.foldl_cons, row, ih]
        simp [Bool.or_assoc]
  have start : List.replicate ys.length false = ys.map fun _ => false := by
    simp [List.map_const']
  unfold hitsEverywhere
  rw [start, columns]
  simp

end FunctionSynthesis.Ty
