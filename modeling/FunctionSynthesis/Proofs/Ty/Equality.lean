import FunctionSynthesis.Proofs.Ty.Parts

/-!
# Equality of types

Equality of types and being written alike are symmetric and transitive on hashable types.
On regular types, whose literals are scalars and whose records give each name once, equal types
are written alike (`isWrittenLike_of_equal`).
-/

namespace FunctionSynthesis.Ty

/-! ### Equality -/

theorem equal_union_iff (ts us : List Ty) :
    equal (.union ts) (.union us) = true ↔
      (∀ t ∈ ts, ∃ u ∈ us, isWrittenLike t u = true ∧ equal t u = true) ∧
        ∀ u ∈ us, ∃ t ∈ ts, isWrittenLike t u = true ∧ equal t u = true := by
  rw [equal, equalTable_eq_map, hitsEverywhere_map_iff]
  simp only [Bool.and_eq_true]

theorem equal_record_iff (fs gs : List (String × Ty)) :
    equal (.record fs) (.record gs) = true ↔
      (∀ key t, lastField? fs key = some t →
        ∃ u, lastField? gs key = some u ∧ equal t u = true) ∧
      ∀ g ∈ gs, ∃ t, lastField? fs g.1 = some t := by
  rw [equal, Bool.and_eq_true, allFieldsMatch_iff, List.all_eq_true]
  simp only [← isSome_lastField?, Option.isSome_iff_exists]

theorem isWrittenLike_trans {a b c : Ty} (hc : c.isHashable = true)
    (first : isWrittenLike a b = true) (second : isWrittenLike b c = true) :
    isWrittenLike a c = true := by
  induction a generalizing b c with
  | literal u =>
      cases b <;> cases c <;> simp [isWrittenLike] at first second ⊢
      exact Value.sameLiteral_trans hc first second
  | generic base param ih =>
      cases b <;> cases c <;> simp [isWrittenLike] at first second ⊢
      rw [isHashable] at hc
      exact ⟨first.1.trans second.1, ih hc first.2 second.2⟩
  | union ts ih =>
      cases b with
      | union us =>
          cases c with
          | union vs =>
              rw [isHashable_union] at hc
              rw [isWrittenLike, likenessTable_eq_map, hitsEverywhere_map_iff]
                at first second ⊢
              constructor
              · intro t left
                obtain ⟨u, middle, alike⟩ := first.1 t left
                obtain ⟨v, right, alike'⟩ := second.1 u middle
                exact ⟨v, right, ih t left (hc v right) alike alike'⟩
              · intro v right
                obtain ⟨u, middle, alike'⟩ := second.2 v right
                obtain ⟨t, left, alike⟩ := first.2 u middle
                exact ⟨t, left, ih t left (hc v right) alike alike'⟩
          | _ => simp [isWrittenLike] at second
      | _ => simp [isWrittenLike] at first
  | record fs ih =>
      cases b with
      | record gs =>
          cases c with
          | record hs =>
              rw [isHashable_record] at hc
              rw [isWrittenLike, fieldLikenessTable_eq_map, hitsEverywhere_map_iff]
                at first second ⊢
              have joined : ∀ f ∈ fs, ∀ g : String × Ty, ∀ h ∈ hs,
                  (f.1 == g.1 && isWrittenLike f.2 g.2) = true →
                  (g.1 == h.1 && isWrittenLike g.2 h.2) = true →
                  (f.1 == h.1 && isWrittenLike f.2 h.2) = true := by
                intro f left g h right alike alike'
                rw [Bool.and_eq_true, beq_iff_eq] at alike alike' ⊢
                exact ⟨alike.1.trans alike'.1,
                  ih f left (hc h right) alike.2 alike'.2⟩
              constructor
              · intro f left
                obtain ⟨g, middle, alike⟩ := first.1 f left
                obtain ⟨h, right, alike'⟩ := second.1 g middle
                exact ⟨h, right, joined f left g h right alike alike'⟩
              · intro h right
                obtain ⟨g, middle, alike'⟩ := second.2 h right
                obtain ⟨f, left, alike⟩ := first.2 g middle
                exact ⟨f, left, joined f left g h right alike alike'⟩
          | _ => simp [isWrittenLike] at second
      | _ => simp [isWrittenLike] at first
  | _ => cases b <;> cases c <;> simp_all [isWrittenLike]

theorem equal_trans {a b c : Ty} (hc : c.isHashable = true)
    (first : equal a b = true) (second : equal b c = true) : equal a c = true := by
  induction a generalizing b c with
  | literal u =>
      cases b <;> cases c <;> simp [equal] at first second ⊢
      exact Value.sameLiteral_trans hc first second
  | generic base param ih =>
      cases b <;> cases c <;> simp [equal] at first second ⊢
      rw [isHashable] at hc
      exact ⟨first.1.trans second.1, ih hc first.2 second.2⟩
  | union ts ih =>
      cases b with
      | union us =>
          cases c with
          | union vs =>
              rw [isHashable_union] at hc
              rw [equal_union_iff] at first second ⊢
              constructor
              · intro t left
                obtain ⟨u, middle, written, same⟩ := first.1 t left
                obtain ⟨v, right, written', same'⟩ := second.1 u middle
                exact ⟨v, right, isWrittenLike_trans (hc v right) written written',
                  ih t left (hc v right) same same'⟩
              · intro v right
                obtain ⟨u, middle, written', same'⟩ := second.2 v right
                obtain ⟨t, left, written, same⟩ := first.2 u middle
                exact ⟨t, left, isWrittenLike_trans (hc v right) written written',
                  ih t left (hc v right) same same'⟩
          | _ => simp [equal] at second
      | _ => simp [equal] at first
  | record fs ih =>
      cases b with
      | record gs =>
          cases c with
          | record hs =>
              rw [isHashable_record] at hc
              rw [equal_record_iff] at first second ⊢
              constructor
              · intro key t left
                obtain ⟨u, middle, same⟩ := first.1 key t left
                obtain ⟨v, right, same'⟩ := second.1 key u middle
                refine ⟨v, right, ?_⟩
                exact ih _ (mem_of_lastField? left)
                  (hc _ (mem_of_lastField? right)) same same'
              · intro h right
                obtain ⟨u, middle⟩ := second.2 h right
                exact first.2 (h.1, u) (mem_of_lastField? middle)
          | _ => simp [equal] at second
      | _ => simp [equal] at first
  | _ => cases b <;> cases c <;> simp_all [equal]

theorem isWrittenLike_symm {a b : Ty} (hb : b.isHashable = true)
    (alike : isWrittenLike a b = true) : isWrittenLike b a = true := by
  induction a generalizing b with
  | literal v =>
      cases b <;> simp [isWrittenLike] at alike ⊢
      exact Value.sameLiteral_symm hb alike
  | generic base param ih =>
      cases b <;> simp [isWrittenLike] at alike ⊢
      rw [isHashable] at hb
      exact ⟨alike.1.symm, ih hb alike.2⟩
  | union ts ih =>
      cases b with
      | union us =>
          rw [isHashable_union] at hb
          rw [isWrittenLike, likenessTable_eq_map, hitsEverywhere_map_iff] at alike ⊢
          constructor
          · intro u right
            obtain ⟨t, left, alike⟩ := alike.2 u right
            exact ⟨t, left, ih t left (hb u right) alike⟩
          · intro t left
            obtain ⟨u, right, alike⟩ := alike.1 t left
            exact ⟨u, right, ih t left (hb u right) alike⟩
      | _ => simp [isWrittenLike] at alike
  | record fs ih =>
      cases b with
      | record gs =>
          rw [isHashable_record] at hb
          rw [isWrittenLike, fieldLikenessTable_eq_map, hitsEverywhere_map_iff] at alike ⊢
          have swapped : ∀ f ∈ fs, ∀ g ∈ gs, (f.1 == g.1 && isWrittenLike f.2 g.2) = true →
              (g.1 == f.1 && isWrittenLike g.2 f.2) = true := by
            intro f left g right alike
            rw [Bool.and_eq_true, beq_iff_eq] at alike ⊢
            exact ⟨alike.1.symm, ih f left (hb g right) alike.2⟩
          constructor
          · intro g right
            obtain ⟨f, left, alike⟩ := alike.2 g right
            exact ⟨f, left, swapped f left g right alike⟩
          · intro f left
            obtain ⟨g, right, alike⟩ := alike.1 f left
            exact ⟨g, right, swapped f left g right alike⟩
      | _ => simp [isWrittenLike] at alike
  | _ => cases b <;> simp_all [isWrittenLike]

theorem equal_symm {a b : Ty} (hb : b.isHashable = true) (same : equal a b = true) :
    equal b a = true := by
  induction a generalizing b with
  | literal v =>
      cases b <;> simp [equal] at same ⊢
      exact Value.sameLiteral_symm hb same
  | generic base param ih =>
      cases b <;> simp [equal] at same ⊢
      rw [isHashable] at hb
      exact ⟨same.1.symm, ih hb same.2⟩
  | union ts ih =>
      cases b with
      | union us =>
          rw [isHashable_union] at hb
          rw [equal_union_iff] at same ⊢
          constructor
          · intro u right
            obtain ⟨t, left, alike, same⟩ := same.2 u right
            exact ⟨t, left, isWrittenLike_symm (hb u right) alike,
              ih t left (hb u right) same⟩
          · intro t left
            obtain ⟨u, right, alike, same⟩ := same.1 t left
            exact ⟨u, right, isWrittenLike_symm (hb u right) alike,
              ih t left (hb u right) same⟩
      | _ => simp [equal] at same
  | record fs ih =>
      cases b with
      | record gs =>
          rw [isHashable_record] at hb
          rw [equal_record_iff] at same ⊢
          obtain ⟨matched, covered⟩ := same
          constructor
          · intro key u right
            obtain ⟨t, left⟩ := covered _ (mem_of_lastField? right)
            obtain ⟨u', right', same⟩ := matched key t left
            obtain rfl : u' = u := by simpa [right] using right'.symm
            exact ⟨t, left, ih _ (mem_of_lastField? left)
              (hb _ (mem_of_lastField? right)) same⟩
          · intro f left
            have present : (lastField? fs f.1).isSome = true := by
              rw [isSome_lastField?, hasField_eq_any, List.any_eq_true]
              exact ⟨f, left, beq_self_eq_true f.1⟩
            obtain ⟨t, found⟩ := Option.isSome_iff_exists.1 present
            obtain ⟨u, found', _⟩ := matched f.1 t found
            exact ⟨u, found'⟩
      | _ => simp [equal] at same
  | _ => cases b <;> simp_all [equal]

/-- Equal types have equal alternatives. -/
theorem exists_alternative_of_equal {a b u : Ty} (same : equal a b = true)
    (alternative : u ∈ a.alternatives) : ∃ w ∈ b.alternatives, equal u w = true := by
  induction a generalizing b with
  | union ts ih =>
      cases b with
      | union us =>
          rw [equal_union_iff] at same
          rw [alternatives_union, List.mem_flatMap] at alternative
          obtain ⟨t, inside, alternative⟩ := alternative
          obtain ⟨t', inside', _, same⟩ := same.1 t inside
          obtain ⟨w, alternative', same⟩ := ih t inside same alternative
          rw [alternatives_union]
          exact ⟨w, List.mem_flatMap.2 ⟨t', inside', alternative'⟩, same⟩
      | _ => simp [equal] at same
  | _ =>
      have alone : b.alternatives = [b] := by
        cases b <;> first | rfl | simp [equal] at same
      rw [List.eq_of_mem_singleton alternative, alone]
      exact ⟨b, List.mem_singleton_self b, same⟩

/-! ### Regular types -/

/-- Whether a type, if it is a record, gives each name once. -/
def HasDistinctNames : Ty → Prop
  | .record fields => (fields.map Prod.fst).Nodup
  | _ => True

/-- Whether the literals in a type are scalars and its records give each name
once. -/
structure IsRegular (t : Ty) : Prop where
  ordinary : t.isOrdinary = true
  names : t.Everywhere HasDistinctNames

theorem IsRegular.hashable {t : Ty} (regular : t.IsRegular) : t.isHashable = true :=
  isHashable_of_isOrdinary regular.ordinary

theorem IsRegular.of_mem_parts {t u : Ty} (regular : t.IsRegular) (part : u ∈ t.parts) :
    u.IsRegular :=
  ⟨isOrdinary_of_mem_parts regular.ordinary part, regular.names.of_mem_parts part⟩

theorem IsRegular.of_mem_alternatives {t u : Ty} (regular : t.IsRegular)
    (alternative : u ∈ t.alternatives) : u.IsRegular :=
  regular.of_mem_parts (mem_parts_of_mem_alternatives alternative)

theorem IsRegular.of_mem_union {ts : List Ty} {t : Ty} (regular : (union ts).IsRegular)
    (member : t ∈ ts) : t.IsRegular :=
  regular.of_mem_parts (mem_parts_of_member member)

theorem IsRegular.of_mem_record {fields : List (String × Ty)} {field : String × Ty}
    (regular : (record fields).IsRegular) (member : field ∈ fields) :
    field.2.IsRegular :=
  regular.of_mem_parts (mem_parts_of_field member)

theorem IsRegular.of_generic {base : String} {param : Ty}
    (regular : (generic base param).IsRegular) : param.IsRegular :=
  regular.of_mem_parts (List.mem_cons_of_mem _ param.mem_parts_self)

/-- In a record that gives each name once every field counts. -/
theorem HasDistinctNames.lastField?_of_mem {fields : List (String × Ty)}
    (distinct : HasDistinctNames (record fields)) {field : String × Ty}
    (member : field ∈ fields) : lastField? fields field.1 = some field.2 := by
  have distinct : (fields.map Prod.fst).Nodup := distinct
  induction fields with
  | nil => exact absurd member List.not_mem_nil
  | cons first fields ih =>
      obtain ⟨fresh, distinct⟩ := List.nodup_cons.1 distinct
      have missing : ∀ name, hasField fields name = true → name ∈ fields.map Prod.fst := by
        intro name present
        rw [hasField_eq_any, List.any_eq_true] at present
        obtain ⟨other, inside, same⟩ := present
        exact beq_iff_eq.1 same ▸ List.mem_map_of_mem inside
      rcases List.mem_cons.1 member with rfl | inside
      · have last : hasField fields field.1 ≠ true := fun present =>
          fresh (missing field.1 present)
        rw [lastField?_cons, if_neg last, if_pos (beq_self_eq_true field.1)]
      · have found := ih distinct inside distinct
        have later : hasField fields field.1 = true := by
          rw [← isSome_lastField?, found]
          rfl
        rw [lastField?_cons, if_pos later]
        exact found

theorem IsRegular.lastField?_of_mem {fields : List (String × Ty)}
    (regular : (record fields).IsRegular) {field : String × Ty} (member : field ∈ fields) :
    lastField? fields field.1 = some field.2 :=
  regular.names.here.lastField?_of_mem member

/-- Equal types are written alike when their records give each name once. -/
theorem isWrittenLike_of_equal {a b : Ty} (ha : a.IsRegular) (hb : b.IsRegular)
    (same : equal a b = true) : isWrittenLike a b = true := by
  induction a generalizing b with
  | generic base param ih =>
      cases b with
      | generic base' param' =>
          rw [equal, Bool.and_eq_true] at same
          rw [isWrittenLike, Bool.and_eq_true]
          exact ⟨same.1, ih ha.of_generic hb.of_generic same.2⟩
      | _ => simp [equal] at same
  | union ts =>
      cases b with
      | union us =>
          rw [equal_union_iff] at same
          rw [isWrittenLike, likenessTable_eq_map, hitsEverywhere_map_iff]
          constructor
          · intro t left
            obtain ⟨u, right, written, _⟩ := same.1 t left
            exact ⟨u, right, written⟩
          · intro u right
            obtain ⟨t, left, written, _⟩ := same.2 u right
            exact ⟨t, left, written⟩
      | _ => simp [equal] at same
  | record fs ih =>
      cases b with
      | record gs =>
          rw [equal_record_iff] at same
          obtain ⟨matched, covered⟩ := same
          have written : ∀ key t u, lastField? fs key = some t →
              lastField? gs key = some u → isWrittenLike t u = true := by
            intro key t u left right
            obtain ⟨u', right', same⟩ := matched key t left
            obtain rfl : u' = u := by simpa [right] using right'.symm
            have inside := mem_of_lastField? left
            exact ih _ inside (ha.of_mem_record inside)
              (hb.of_mem_record (mem_of_lastField? right)) same
          rw [isWrittenLike, fieldLikenessTable_eq_map, hitsEverywhere_map_iff]
          constructor
          · intro f left
            have found := ha.lastField?_of_mem left
            obtain ⟨u, found', _⟩ := matched f.1 f.2 found
            refine ⟨(f.1, u), mem_of_lastField? found', ?_⟩
            simp [written f.1 f.2 u found found']
          · intro g right
            obtain ⟨t, found⟩ := covered g right
            refine ⟨(g.1, t), mem_of_lastField? found, ?_⟩
            simp [written g.1 t g.2 found (hb.lastField?_of_mem right)]
      | _ => simp [equal] at same
  | _ => cases b <;> simp_all [equal, isWrittenLike]

end FunctionSynthesis.Ty
