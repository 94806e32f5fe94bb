import FunctionSynthesis.Proofs.Value.Dictionary
import FunctionSynthesis.Proofs.Value.Scalar

/-!
# Plain values

Plain values are built from scalars and texts by lists and by dictionaries, whose
keys are scalars and texts.
-/

namespace FunctionSynthesis.Value

mutual

/-- Whether a value is built from scalars and texts by lists and dictionaries. A
dictionary has each of its keys once. -/
def isPlain : Value → Bool
  | .list items => arePlain items
  | .dict entries => arePlainEntries entries
  | v => v.isAtom
termination_by structural v => v

def arePlain : List Value → Bool
  | [] => true
  | item :: items => isPlain item && arePlain items
termination_by structural items => items

def arePlainEntries : Entries → Bool
  | [] => true
  | (key, value) :: entries =>
      key.isAtom && isPlain value && !Entries.hasKey entries key &&
        arePlainEntries entries
termination_by structural entries => entries

end

theorem isPlain_list (items : List Value) :
    (Value.list items).isPlain = true ↔ ∀ item ∈ items, item.isPlain = true := by
  rw [isPlain]
  induction items with
  | nil => simp [arePlain]
  | cons item items ih => simp [arePlain, ih]

theorem isPlain_dict_cons (key value : Value) (entries : Entries) :
    (Value.dict ((key, value) :: entries)).isPlain = true ↔
      key.isAtom = true ∧ value.isPlain = true ∧ entries.hasKey key = false ∧
        (Value.dict entries).isPlain = true := by
  simp only [isPlain, arePlainEntries, Bool.and_eq_true, Bool.not_eq_true', and_assoc]

theorem isPlain_of_mem_dict {entries : Entries} {entry : Value × Value}
    (plain : (Value.dict entries).isPlain = true) (member : entry ∈ entries) :
    entry.2.isPlain = true := by
  induction entries with
  | nil => exact absurd member List.not_mem_nil
  | cons first rest ih =>
      rw [isPlain_dict_cons] at plain
      rcases List.mem_cons.1 member with rfl | later
      · exact plain.2.1
      · exact ih plain.2.2.2 later

/-! ### Induction -/

/-- Induction on values, in which items and the values of entries are reached through
membership. -/
theorem inductionOn {motive : Value → Prop}
    (atom : ∀ v : Value, v.isAtom = true → motive v)
    (list : ∀ items, (∀ item ∈ items, motive item) → motive (.list items))
    (tuple : ∀ items, (∀ item ∈ items, motive item) → motive (.tuple items))
    (set : ∀ items, (∀ item ∈ items, motive item) → motive (.set items))
    (dict : ∀ entries : Entries, (∀ entry ∈ entries, motive entry.2) →
      motive (.dict entries))
    (special : ∀ kind plain literal, motive (.special kind plain literal))
    (v : Value) : motive v :=
  @Value.rec motive (fun xs => ∀ x ∈ xs, motive x) (fun es => ∀ e ∈ es, motive e.2)
    (fun e => motive e.2)
    (atom .none rfl) (fun b => atom (.bool b) rfl) (fun n => atom (.int n) rfl)
    (fun x => atom (.float x) rfl) (fun s => atom (.str s) rfl) list tuple dict set special
    (fun _ member => absurd member List.not_mem_nil)
    (fun _ _ here rest => List.forall_mem_cons.2 ⟨here, rest⟩)
    (fun _ member => absurd member List.not_mem_nil)
    (fun _ _ here rest => List.forall_mem_cons.2 ⟨here, rest⟩)
    (fun _ _ _ value => value) v

/-- Induction on plain values. -/
theorem inductionOnPlain {motive : Value → Prop}
    (atom : ∀ v : Value, v.isAtom = true → motive v)
    (list : ∀ items, (∀ item ∈ items, item.isPlain = true ∧ motive item) →
      motive (.list items))
    (dict : ∀ entries : Entries, (Value.dict entries).isPlain = true →
      (∀ entry ∈ entries, motive entry.2) → motive (.dict entries))
    (v : Value) (plain : v.isPlain = true) : motive v := by
  induction v using inductionOn with
  | atom v isAtom => exact atom v isAtom
  | list items ih =>
      rw [isPlain_list] at plain
      exact list items fun item inside => ⟨plain item inside, ih item inside (plain item inside)⟩
  | dict entries ih =>
      exact dict entries plain fun entry inside =>
        ih entry inside (isPlain_of_mem_dict plain inside)
  | tuple items => exact Bool.noConfusion plain
  | set items => exact Bool.noConfusion plain
  | special kind shown literal => exact Bool.noConfusion plain

end FunctionSynthesis.Value
