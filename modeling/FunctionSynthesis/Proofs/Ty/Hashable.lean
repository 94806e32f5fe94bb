import FunctionSynthesis.Proofs.Ty.Structure
import FunctionSynthesis.Proofs.Value.Equality

/-!
# Hashable types

Types whose literals can be members of sets can always be compared: the comparisons that may
fail do not fail on them (`checkedEqual_of_isHashable`, `checkedLe_of_isHashable`), and each
equals itself (`equal_refl`).
-/

namespace FunctionSynthesis.Ty

/-! ### Comparisons -/

theorem meets_eq_false {α : Type} {condition goesOn : α → Bool} {xs : List α}
    (never : ∀ x ∈ xs, condition x = false) :
    meets condition goesOn xs = false := by
  induction xs with
  | nil => rfl
  | cons x xs ih =>
      obtain ⟨here, rest⟩ := List.forall_mem_cons.1 never
      simp [meets, here, ih rest]

theorem fieldFails_eq_any (fields : List (String × Ty)) (key : String) (u : Ty) :
    fieldFails fields key u =
      (lastField? fields key).any fun t => equalFails t u := by
  induction fields with
  | nil => rfl
  | cons field fields ih =>
      rw [fieldFails, lastField?_cons, ih]
      by_cases later : hasField fields key = true
      · simp [later]
      · by_cases same : field.1 = key <;> simp [later, same]

theorem equalFails_of_isHashable {a b : Ty} (ha : a.isHashable = true)
    (hb : b.isHashable = true) : equalFails a b = false := by
  induction a generalizing b with
  | generic base param ih =>
      cases b with
      | generic base' param' =>
          rw [isHashable] at ha hb
          simp [equalFails, ih ha hb]
      | _ => rfl
  | union ts =>
      cases b with
      | union us =>
          rw [isHashable] at ha hb
          simp [equalFails, ha, hb]
      | _ => rfl
  | record fs ih =>
      cases b with
      | record gs =>
          rw [isHashable_record] at ha hb
          rw [equalFails]
          refine Bool.and_eq_false_iff.2 (Or.inr (meets_eq_false fun key _ => ?_))
          cases foundRight : lastField? gs key with
          | none => rfl
          | some u =>
              rw [Option.any_some, fieldFails_eq_any]
              cases foundLeft : lastField? fs key with
              | none => rfl
              | some t =>
                  have left := mem_of_lastField? foundLeft
                  have right := mem_of_lastField? foundRight
                  exact ih _ left (ha _ left) (hb _ right)
      | _ => rfl
  | _ => simp [equalFails]

theorem checkedEqual_of_isHashable {a b : Ty} (ha : a.isHashable = true)
    (hb : b.isHashable = true) : a.checkedEqual b = .ok (a == b) := by
  simp [checkedEqual, equalFails_of_isHashable ha hb, pure, Except.pure]

theorem checkedLe_of_isHashable {a b : Ty} (ha : a.isHashable = true)
    (hb : b.isHashable = true) : a.checkedLe b = .ok (a.le b) := by
  simp [checkedLe, leFails_eq_false ha hb, pure, Except.pure]

/-! ### Reflexivity -/

theorem isWrittenLike_refl {t : Ty} (hashable : t.isHashable = true) :
    t.isWrittenLike t = true := by
  induction t with
  | literal v =>
      exact Value.sameLiteral_refl hashable
  | generic base param ih =>
      rw [isHashable] at hashable
      simp [isWrittenLike, ih hashable]
  | union ts ih =>
      rw [isHashable_union] at hashable
      rw [isWrittenLike, likenessTable_eq_map, hitsEverywhere_map_iff]
      exact ⟨fun t member => ⟨t, member, ih t member (hashable t member)⟩,
        fun t member => ⟨t, member, ih t member (hashable t member)⟩⟩
  | record fields ih =>
      rw [isHashable_record] at hashable
      have here (field : String × Ty) (member : field ∈ fields) :
          (field.1 == field.1 && field.2.isWrittenLike field.2) = true := by
        simp [ih field member (hashable field member)]
      rw [isWrittenLike, fieldLikenessTable_eq_map, hitsEverywhere_map_iff]
      exact ⟨fun field member => ⟨field, member, here field member⟩,
        fun field member => ⟨field, member, here field member⟩⟩
  | _ => simp [isWrittenLike]

theorem equal_refl {t : Ty} (hashable : t.isHashable = true) : t.equal t = true := by
  induction t with
  | literal v =>
      exact Value.sameLiteral_refl hashable
  | generic base param ih =>
      rw [isHashable] at hashable
      simp [equal, ih hashable]
  | union ts ih =>
      rw [isHashable_union] at hashable
      have here (t : Ty) (member : t ∈ ts) :
          (t.isWrittenLike t && t.equal t) = true := by
        rw [isWrittenLike_refl (hashable t member), ih t member (hashable t member)]
        rfl
      rw [equal, equalTable_eq_map, hitsEverywhere_map_iff]
      exact ⟨fun t member => ⟨t, member, here t member⟩,
        fun t member => ⟨t, member, here t member⟩⟩
  | record fields ih =>
      rw [isHashable_record] at hashable
      rw [equal, Bool.and_eq_true, allFieldsMatch_iff, List.all_eq_true]
      refine ⟨fun key t last => ⟨t, last, ?_⟩, fun field member => ?_⟩
      · have member := mem_of_lastField? last
        exact ih _ member (hashable _ member)
      · rw [hasField_eq_any, List.any_eq_true]
        exact ⟨field, member, beq_self_eq_true field.1⟩
  | _ => simp [equal]

end FunctionSynthesis.Ty
