import Mathlib.Data.List.Forall2
import FunctionSynthesis.Proofs.Occurrence
import FunctionSynthesis.Value

/-!
# What a dictionary keeps

A dictionary has no values but those of the list of entries that it is made from
(`exists_mem_of_mem_ofList`), and if the keys in that list are different, it is the list
(`ofList_eq_self`). A text that is the key of several entries comes where the first of them is
(`map_fst_ofList_ofFields`) and has the value of the last one (`valueOf?_ofList_ofFields`).
-/

namespace FunctionSynthesis

theorem Value.beq_str_iff (v : Value) (s : String) :
    (v == .str s) = true ↔ v = .str s := by
  change Value.equal v (.str s) = true ↔ v = .str s
  cases v <;> simp [equal, number?]

namespace Entries

/-- Putting a value changes what belongs to its key and to no other. -/
theorem valueOf?_put (entries : Entries) (key other : String) (value : Value) :
    (entries.put (.str key) value).valueOf? (.str other) =
      if key = other then some value else entries.valueOf? (.str other) := by
  induction entries with
  | nil =>
      by_cases same : key = other
      · subst same
        simp [put, valueOf?, Value.beq_str_iff]
      · have differ : (Value.str key == .str other) = false :=
          Bool.eq_false_iff.2 fun h =>
            same (Value.str.inj ((Value.beq_str_iff _ _).1 h))
        simp [put, valueOf?, same, differ]
  | cons entry rest ih =>
      obtain ⟨k, v⟩ := entry
      rw [put]
      by_cases here : (k == Value.str key) = true
      · rw [if_pos here]
        obtain rfl := (Value.beq_str_iff _ _).1 here
        by_cases same : key = other
        · subst same
          simp [valueOf?, here]
        · have differ : (Value.str key == .str other) = false :=
            Bool.eq_false_iff.2 fun h =>
              same (Value.str.inj ((Value.beq_str_iff _ _).1 h))
          simp [valueOf?, same, differ]
      · rw [if_neg here]
        by_cases found : (k == Value.str other) = true
        · have different : key ≠ other := by
            rintro rfl
            exact here found
          simp [valueOf?, found, different]
        · simpa [valueOf?, List.find?_cons, found] using ih

theorem exists_mem_of_mem_put {entries : Entries} {key value : Value}
    {entry : Value × Value} (member : entry ∈ entries.put key value) :
    entry.2 = value ∨ entry ∈ entries := by
  induction entries with
  | nil => exact Or.inl (by rw [List.mem_singleton.1 member])
  | cons first rest ih =>
      obtain ⟨k, v⟩ := first
      rw [put] at member
      split at member
      · rcases List.mem_cons.1 member with rfl | later
        · exact Or.inl rfl
        · exact Or.inr (List.mem_cons_of_mem _ later)
      · rcases List.mem_cons.1 member with rfl | later
        · exact Or.inr List.mem_cons_self
        · exact (ih later).imp_right (List.mem_cons_of_mem _)

theorem exists_mem_of_mem_merge {entries more : Entries} {entry : Value × Value}
    (member : entry ∈ entries.merge more) :
    (∃ given ∈ more, entry.2 = given.2) ∨ entry ∈ entries := by
  induction more generalizing entries with
  | nil => exact Or.inr member
  | cons first more ih =>
      rcases ih member with ⟨given, inside, same⟩ | earlier
      · exact Or.inl ⟨given, List.mem_cons_of_mem _ inside, same⟩
      · rcases exists_mem_of_mem_put earlier with same | old
        · exact Or.inl ⟨first, List.mem_cons_self, same⟩
        · exact Or.inr old

/-- Every value of a dictionary is one of those it is made from. -/
theorem exists_mem_of_mem_ofList {entries : Entries} {entry : Value × Value}
    (member : entry ∈ ofList entries) : ∃ given ∈ entries, entry.2 = given.2 :=
  (exists_mem_of_mem_merge member).resolve_right List.not_mem_nil

/-! ### Different keys -/

/-- Whether no key is given twice. -/
def HasDistinctKeys (entries : Entries) : Prop :=
  entries.Pairwise fun e f => (e.1 == f.1) = false

instance (entries : Entries) : Decidable entries.HasDistinctKeys :=
  inferInstanceAs (Decidable (entries.Pairwise fun e f => (e.1 == f.1) = false))

theorem hasDistinctKeys_iff_nodup {entries : Entries}
    (texts : ∀ entry ∈ entries, ∃ key, entry.1 = .str key) :
    entries.HasDistinctKeys ↔ (entries.map Prod.fst).Nodup := by
  rw [List.Nodup, List.pairwise_map]
  refine List.Pairwise.iff_of_mem fun {e f} _ inside => ?_
  obtain ⟨key, isKey⟩ := texts f inside
  rw [isKey, Bool.eq_false_iff, ne_eq, Value.beq_str_iff]

/-- A new key comes last. -/
theorem put_eq_append {entries : Entries} {key : Value} (value : Value)
    (fresh : ∀ entry ∈ entries, (entry.1 == key) = false) :
    entries.put key value = entries ++ [(key, value)] := by
  induction entries with
  | nil => rfl
  | cons entry entries ih =>
      obtain ⟨k, v⟩ := entry
      obtain ⟨here, rest⟩ := List.forall_mem_cons.1 fresh
      rw [put, here, ih rest]
      rfl

theorem merge_eq_append {entries more : Entries}
    (distinct : HasDistinctKeys (entries ++ more)) : entries.merge more = entries ++ more := by
  induction more generalizing entries with
  | nil => exact (List.append_nil entries).symm
  | cons entry more ih =>
      have fresh := (List.pairwise_append.1 distinct).2.2
      have last := put_eq_append entry.2 fun e member => fresh e member entry List.mem_cons_self
      have moved : entries ++ entry :: more = entries ++ [entry] ++ more := by simp
      rw [moved] at distinct ⊢
      rw [← ih distinct, ← last]
      rfl

theorem ofList_eq_self {entries : Entries} (distinct : entries.HasDistinctKeys) :
    ofList entries = entries :=
  merge_eq_append distinct

/-- If keys are different, the entry of a text key is the one that counts. -/
theorem HasDistinctKeys.valueOf?_of_mem {entries : Entries} (distinct : entries.HasDistinctKeys)
    {key : String} {value : Value} (member : (.str key, value) ∈ entries) :
    entries.valueOf? (.str key) = some value := by
  induction entries with
  | nil => exact absurd member List.not_mem_nil
  | cons entry entries ih =>
      obtain ⟨k, v⟩ := entry
      obtain ⟨fresh, distinct⟩ := List.pairwise_cons.1 distinct
      rcases List.mem_cons.1 member with same | later
      · obtain ⟨rfl, rfl⟩ := Prod.mk.inj same
        simp [valueOf?, Value.beq_str_iff]
      · simpa [valueOf?, List.find?_cons, fresh _ later] using ih distinct later

theorem mem_of_valueOf? {entries : Entries} {key : String} {value : Value}
    (found : entries.valueOf? (.str key) = some value) : (.str key, value) ∈ entries := by
  obtain ⟨⟨k, v⟩, located, rfl⟩ := Option.map_eq_some_iff.1 found
  have same := List.find?_some located
  obtain rfl := (Value.beq_str_iff k key).1 same
  exact List.mem_of_find?_eq_some located

/-! ### Repeated keys -/

/-- A new key comes last, and a known one stays as it is. -/
theorem map_fst_put (entries : Entries) (key value : Value) :
    (entries.put key value).map Prod.fst =
      if entries.hasKey key then entries.map Prod.fst else entries.map Prod.fst ++ [key] := by
  induction entries with
  | nil => rfl
  | cons entry entries ih =>
      obtain ⟨k, v⟩ := entry
      rw [put]
      by_cases here : (k == key) = true
      · simp [hasKey, here]
      · rw [if_neg here, List.map_cons, ih]
        by_cases later : hasKey entries key = true <;>
          simp_all only [hasKey, List.any_cons, List.map_cons, Bool.or_true, Bool.or_self,
            if_true, Bool.false_eq_true, if_false, List.cons_append, Bool.not_eq_true]

theorem hasKey_str_iff (entries : Entries) (key : String) :
    entries.hasKey (.str key) = true ↔ .str key ∈ entries.map Prod.fst := by
  simp [hasKey, Value.beq_str_iff]

theorem ofList_ofFields_concat (fields : List (String × Value)) (key : String) (value : Value) :
    ofList (ofFields (fields ++ [(key, value)])) =
      (ofList (ofFields fields)).put (.str key) value := by
  simp [ofList, merge, ofFields]

theorem map_fst_ofList_ofFields (fields : List (String × Value)) :
    (ofList (ofFields fields)).map Prod.fst =
      (fields.map Prod.fst).eraseDups.map Value.str := by
  induction fields using List.reverseRecOn with
  | nil => rfl
  | append_singleton fields field ih =>
      obtain ⟨key, value⟩ := field
      have known : (ofList (ofFields fields)).hasKey (.str key) =
          (firstOccurrences (· == ·) (fields.map Prod.fst)).any (key == ·) := by
        rw [eraseDups_eq_firstOccurrences] at ih
        rw [Bool.eq_iff_iff, hasKey_str_iff, ih]
        simp
      rw [ofList_ofFields_concat, map_fst_put, ih, known, List.map_append, List.map_singleton,
        eraseDups_eq_firstOccurrences, eraseDups_eq_firstOccurrences,
        ← keep_firstOccurrences (isTransitiveOn_beq _), keep]
      split
      · rfl
      · rw [List.map_append, List.map_singleton]

theorem valueOf?_ofList_ofFields (fields : List (String × Value)) (key : String) :
    (ofList (ofFields fields)).valueOf? (.str key) = fields.reverse.lookup key := by
  induction fields using List.reverseRecOn with
  | nil => rfl
  | append_singleton fields field ih =>
      obtain ⟨last, value⟩ := field
      rw [ofList_ofFields_concat, valueOf?_put, ih, List.reverse_append, List.reverse_singleton,
        List.singleton_append, List.lookup_cons]
      by_cases same : key = last
      · simp [same]
      · rw [if_neg (Ne.symm same), beq_false_of_ne same]

end Entries

end FunctionSynthesis
