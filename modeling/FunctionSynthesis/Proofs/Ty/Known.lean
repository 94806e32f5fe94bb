import FunctionSynthesis.Proofs.Ty.Membership

/-!
# Values of known classes

A value of a known class is built the way its class says: a member of the class
of texts is a text. The values that can be written as JSON are of known classes
throughout, so that for them it makes no difference whether classes go by name
(`containsBy_known_of_isJson`).
-/

namespace FunctionSynthesis

namespace Value

mutual

/-- Whether a value can be written as JSON. -/
def isJson : Value → Bool
  | .list items => areJson items
  | .dict entries => areJsonEntries entries
  | v => v.isAtom
termination_by structural v => v

def areJson : List Value → Bool
  | [] => true
  | item :: items => isJson item && areJson items
termination_by structural items => items

def areJsonEntries : Entries → Bool
  | [] => true
  | (key, value) :: entries =>
      key.text?.isSome && isJson value && areJsonEntries entries
termination_by structural entries => entries

end

@[simp]
theorem isJson_list (items : List Value) :
    (Value.list items).isJson = true ↔ ∀ item ∈ items, item.isJson = true := by
  rw [isJson]
  induction items with
  | nil => simp [areJson]
  | cons item items ih => simp [areJson, ih]

@[simp]
theorem isJson_dict (entries : Entries) :
    (Value.dict entries).isJson = true ↔
      ∀ entry ∈ entries, entry.1.text?.isSome = true ∧ entry.2.isJson = true := by
  rw [isJson]
  induction entries with
  | nil => simp [areJsonEntries]
  | cons entry entries ih => simp [areJsonEntries, ih]

theorem exists_eq_str_of_text? {v : Value} (text : v.text?.isSome = true) :
    ∃ key, v = .str key := by
  cases v <;> first | exact ⟨_, rfl⟩ | cases text

/-- Whether a value is one of which only the class and texts are known. -/
def isSpecial : Value → Bool
  | .special _ _ _ => true
  | _ => false

theorem not_isSpecial_of_isJson {v : Value} (json : v.isJson = true) :
    v.isSpecial = false := by
  cases v with
  | special kind plain literal => simp [isJson, isAtom, isScalar] at json
  | _ => rfl

end Value

/-- The class of a value is known when it is not special. -/
def Classification.known : Classification where
  isOf v name := v.className = name ∧ v.isSpecial = false
  atom v atom := by cases v <;> simp_all [Value.isAtom, Value.isScalar, Value.isSpecial]
  list _ := ⟨rfl, rfl⟩
  dict _ := ⟨rfl, rfl⟩

namespace Ty

theorem mem_of_valueOf? {entries : Entries} {key v : Value}
    (found : entries.valueOf? key = some v) : ∃ entry ∈ entries, entry.2 = v := by
  obtain ⟨entry, located, rfl⟩ := Option.map_eq_some_iff.1 found
  exact ⟨entry, List.mem_of_find?_eq_some located, rfl⟩

/-- A value that is of a class in one sense and, being of a kind that its parts
share, also in another, is a member of the same types. -/
theorem containsBy_of_classes {classes classes' : Classification}
    (kind : Value → Prop)
    (items : ∀ items, kind (.list items) → ∀ item ∈ items, kind item)
    (entries : ∀ entries : Entries, kind (.dict entries) →
      ∀ entry ∈ entries, kind entry.2)
    (weaker : ∀ v name, kind v → classes.isOf v name → classes'.isOf v name)
    {t : Ty} {v : Value} (ofKind : kind v) (member : ContainsBy classes t v) :
    ContainsBy classes' t v := by
  induction t generalizing v with
  | nominal name => exact member.imp_right (weaker v name ofKind)
  | generic base param ih =>
      rw [containsBy_generic] at member ⊢
      by_cases isList : base = "list"
      · rw [if_pos isList] at member ⊢
        obtain ⟨inside, rfl, all⟩ := member
        exact ⟨inside, rfl, fun item here =>
          ih (items inside ofKind item here) (all item here)⟩
      · rw [if_neg isList] at member ⊢
        by_cases isDict : base = "dict"
        · rw [if_pos isDict] at member ⊢
          obtain ⟨inside, rfl, all⟩ := member
          exact ⟨inside, rfl, fun entry here =>
            ih (entries inside ofKind entry here) (all entry here)⟩
        · rw [if_neg isDict] at member ⊢
          exact member.imp_right (weaker v base ofKind)
  | union ts ih =>
      rw [containsBy_union] at member ⊢
      obtain ⟨t, inside, member⟩ := member
      exact ⟨t, inside, ih t inside ofKind member⟩
  | record fields ih =>
      rw [containsBy_record] at member ⊢
      obtain ⟨inside, rfl, all⟩ := member
      refine ⟨inside, rfl, fun key t found => ?_⟩
      obtain ⟨w, value, member⟩ := all key t found
      obtain ⟨entry, here, rfl⟩ := mem_of_valueOf? value
      exact ⟨entry.2, value, ih _ (mem_of_lastField? found)
        (entries inside ofKind entry here) member⟩
  | _ => exact member

theorem containsBy_known_of_isJson {t : Ty} {v : Value} (json : v.isJson = true)
    (member : t.Contains v) : ContainsBy .known t v := by
  refine containsBy_of_classes (fun v => v.isJson = true) ?_ ?_ ?_ json member
  · intro items json
    exact (Value.isJson_list items).1 json
  · intro entries json entry inside
    exact ((Value.isJson_dict entries).1 json entry inside).2
  · intro v name json sameName
    exact ⟨sameName, Value.not_isSpecial_of_isJson json⟩

theorem contains_of_containsBy_known {t : Ty} {v : Value}
    (member : ContainsBy .known t v) : t.Contains v := by
  refine containsBy_of_classes (fun _ => True) ?_ ?_ ?_ trivial member
  · exact fun _ _ _ _ => trivial
  · exact fun _ _ _ _ => trivial
  · exact fun _ _ _ known => known.1

/-! ### Members of known classes -/

theorem eq_str_of_containsBy_string {v : Value}
    (member : ContainsBy .known string v) : ∃ s, v = .str s := by
  rcases member with impossible | ⟨sameName, ordinary⟩
  · exact absurd impossible (by decide)
  · cases v <;> simp_all [Value.className, Value.isSpecial]

theorem eq_int_of_containsBy_integer {v : Value}
    (member : ContainsBy .known integer v) : ∃ n, v = .int n := by
  rcases member with impossible | ⟨sameName, ordinary⟩
  · exact absurd impossible (by decide)
  · cases v <;> simp_all [Value.className, Value.isSpecial]

theorem containsBy_string (s : String) : ContainsBy .known string (.str s) :=
  Or.inr ⟨rfl, rfl⟩

end Ty

end FunctionSynthesis
