import FunctionSynthesis.Proofs.Value.Dictionary
import FunctionSynthesis.Proofs.Value.Plain

/-!
# Structure of values

A condition on the dictionaries in a value, or on its leaves, holds of a value with items
when it holds of the items. A value is keyed when every dictionary in it gives each of its
keys once, as the dictionaries of a program do.
-/

namespace FunctionSynthesis.Value

/-! ### Dictionaries -/

mutual

/-- The dictionaries in a value, which may be one itself. Keys and members of sets have
none in them. -/
def dictionaries : Value → List Entries
  | .list items => dictionariesOf items
  | .tuple items => dictionariesOf items
  | .dict entries => entries :: dictionariesOfEntries entries
  | _ => []
termination_by structural v => v

def dictionariesOf : List Value → List Entries
  | [] => []
  | item :: items => dictionaries item ++ dictionariesOf items
termination_by structural items => items

def dictionariesOfEntries : Entries → List Entries
  | [] => []
  | (_, value) :: entries => dictionaries value ++ dictionariesOfEntries entries
termination_by structural entries => entries

end

theorem dictionariesOf_eq_flatMap (items : List Value) :
    dictionariesOf items = items.flatMap dictionaries := by
  induction items with
  | nil => rfl
  | cons item items ih => rw [dictionariesOf, ih, List.flatMap_cons]

theorem dictionariesOfEntries_eq_flatMap (entries : Entries) :
    dictionariesOfEntries entries = entries.flatMap fun entry => entry.2.dictionaries := by
  induction entries with
  | nil => rfl
  | cons entry entries ih => rw [dictionariesOfEntries, ih, List.flatMap_cons]

/-- Whether a condition holds of every dictionary in a value. -/
def EveryDictionary (condition : Entries → Prop) (v : Value) : Prop :=
  ∀ entries ∈ v.dictionaries, condition entries

instance (condition : Entries → Prop) [DecidablePred condition] (v : Value) :
    Decidable (v.EveryDictionary condition) :=
  inferInstanceAs (Decidable (∀ entries ∈ v.dictionaries, condition entries))

section

variable {condition : Entries → Prop}

theorem everyDictionary_list (items : List Value) :
    (Value.list items).EveryDictionary condition ↔
      ∀ item ∈ items, item.EveryDictionary condition := by
  simp only [EveryDictionary, dictionaries, dictionariesOf_eq_flatMap, List.mem_flatMap]
  exact ⟨fun all item member entries inside => all entries ⟨item, member, inside⟩,
    fun all entries ⟨item, member, inside⟩ => all item member entries inside⟩

theorem everyDictionary_tuple (items : List Value) :
    (Value.tuple items).EveryDictionary condition ↔
      ∀ item ∈ items, item.EveryDictionary condition :=
  everyDictionary_list items

theorem everyDictionary_dict (entries : Entries) :
    (Value.dict entries).EveryDictionary condition ↔
      condition entries ∧ ∀ entry ∈ entries, entry.2.EveryDictionary condition := by
  simp only [EveryDictionary, dictionaries, dictionariesOfEntries_eq_flatMap,
    List.forall_mem_cons, List.mem_flatMap]
  exact and_congr_right fun _ =>
    ⟨fun all entry member inner inside => all inner ⟨entry, member, inside⟩,
      fun all inner ⟨entry, member, inside⟩ => all entry member inner inside⟩

theorem everyDictionary_of_isAtom {v : Value} (atom : v.isAtom = true) :
    v.EveryDictionary condition := by
  intro entries inside
  cases v <;> first | exact absurd inside List.not_mem_nil | cases atom

end

/-- Whether every dictionary in a value gives each of its keys once. -/
def IsKeyed (v : Value) : Prop :=
  v.EveryDictionary Entries.HasDistinctKeys

instance (v : Value) : Decidable v.IsKeyed :=
  inferInstanceAs (Decidable (v.EveryDictionary Entries.HasDistinctKeys))

/-! ### Leaves -/

theorem allItems_iff (condition : Value → Bool) (items : List Value) :
    allItems condition items = true ↔ ∀ item ∈ items, item.all condition = true := by
  induction items with
  | nil => simp [allItems]
  | cons item items ih => simp [allItems, ih]

theorem all_list (condition : Value → Bool) (items : List Value) :
    (Value.list items).all condition = true ↔ ∀ item ∈ items, item.all condition = true := by
  rw [all, allItems_iff]

theorem all_tuple (condition : Value → Bool) (items : List Value) :
    (Value.tuple items).all condition = true ↔ ∀ item ∈ items, item.all condition = true := by
  rw [all, allItems_iff]

theorem all_dict (condition : Value → Bool) (entries : Entries) :
    (Value.dict entries).all condition = true ↔ ∀ entry ∈ entries,
      entry.1.all condition = true ∧ entry.2.all condition = true := by
  rw [all]
  induction entries with
  | nil => simp [allEntries]
  | cons entry entries ih => simp [allEntries, ih]

end FunctionSynthesis.Value
