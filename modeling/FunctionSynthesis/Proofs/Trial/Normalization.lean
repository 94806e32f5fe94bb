import FunctionSynthesis.Proofs.Json.Conversion
import FunctionSynthesis.Proofs.Trial.Comparison
import FunctionSynthesis.Proofs.Value.Equality

/-!
# Comparing what JSON makes of a value

A result is compared after it has gone through JSON, with an output that has not. A value
reproduces itself on this way if JSON writes all keys of its dictionaries the way they are
shown (`reproduces_of_throughJson`). With a key of another kind it does not, unless a text
stands in for that key (`keepsTexts_of_reproduces`).
-/

namespace FunctionSynthesis

namespace Entries

/-- Whether JSON writes all keys the way they are shown. -/
def KeepsTexts (entries : Entries) : Prop :=
  ∀ entry ∈ entries, entry.1.keepsText = true

/-- Whether no key is a text in which a key of another kind is shown. -/
def AvoidsSpellings (entries : Entries) : Prop :=
  ∀ entry ∈ entries, ∀ s ∈ entry.1.text?, s ∉ Value.spelledOtherwise

instance (entries : Entries) : Decidable entries.KeepsTexts :=
  inferInstanceAs (Decidable (∀ entry ∈ entries, entry.1.keepsText = true))

variable {entries results : Entries}

/-- Keys that are all found by the way they are shown are written in this way. -/
theorem keepsTexts_of_covered (avoids : entries.AvoidsSpellings)
    (pairs : List.Forall₂ Value.EntryThroughJson entries results)
    (covered : ∀ entry ∈ entries, ∃ v, results.valueOf? (.str entry.1.plainText) = some v) :
    entries.KeepsTexts := by
  intro entry member
  by_contra changes
  obtain ⟨_, _, key, isKey, _⟩ := Attempt.exists_of_mem_right pairs.flip member
  have spelled := Value.mem_spelledOtherwise_of_keyText (Bool.eq_false_iff.2 changes) isKey
  obtain ⟨v, found⟩ := covered entry member
  obtain ⟨other, member', key', isKey', same, _⟩ :=
    Attempt.exists_of_mem_right pairs (mem_of_valueOf? found)
  obtain rfl := Value.str.inj same
  have text := Value.eq_str_of_keyText isKey' spelled
  exact avoids other member' _ (by rw [text]; rfl) spelled

/-- A key that is written the way it is shown is found with its value. -/
theorem valueOf?_plainText (distinct : entries.HasDistinctTexts)
    (pairs : List.Forall₂ Value.EntryThroughJson entries results) {entry : Value × Value}
    (member : entry ∈ entries) (keeps : entry.1.keepsText = true) :
    entry.1.isWritable = true ∧
      ∃ v, results.valueOf? (.str entry.1.plainText) = some v ∧ entry.2.throughJson = .ok v := by
  obtain ⟨⟨k, v⟩, inside, key, isKey, same, written⟩ :=
    Attempt.exists_of_mem_right pairs.flip member
  obtain rfl : k = .str key := same
  refine ⟨Value.isWritable_of_keyText isKey, v, ?_, written⟩
  rw [← Value.keyText_eq_plainText keeps isKey]
  exact (distinct.hasDistinctKeys pairs).valueOf?_of_mem inside

end Entries

namespace Value

theorem agrees_self {v : Value} (atom : v.isAtom = true) (some : v.isNan = false) :
    v.agrees v = true :=
  (agrees_iff v v).2 ⟨rfl, some, equal_refl (isHashable_of_isAtom atom)⟩

theorem isNan_eq_false_of_all {v : Value} (atom : v.isAtom = true)
    (numbers : v.all (fun leaf => !leaf.isNan) = true) : v.isNan = false := by
  cases v with
  | float x => simpa [all] using numbers
  | _ => rfl

theorem reproduces_list_of_forall₂ {items results : List Value}
    (pairs : List.Forall₂ (fun v w => v.throughJson = .ok w) items results)
    (each : ∀ v ∈ items, ∀ w, v.throughJson = .ok w → w.reproduces v = .ok true) :
    (Value.list results).reproduces (.list items) = .ok true := by
  refine (reproduces_sequence_iff _ items).2 ⟨results, Or.inl rfl, ?_⟩
  exact (((List.forall₂_and_left _ _).2 ⟨each, pairs⟩).imp
    fun v w ⟨here, written⟩ => here w written).flip

/-- What JSON makes of a value reproduces the value if all of its keys keep their texts. -/
theorem reproduces_of_throughJson {v w : Value} (written : v.throughJson = .ok w)
    (numbers : v.all (fun leaf => !leaf.isNan) = true)
    (distinct : v.EveryDictionary Entries.HasDistinctTexts)
    (keeps : v.EveryDictionary Entries.KeepsTexts) : w.reproduces v = .ok true := by
  induction v using inductionOn generalizing w with
  | atom v isAtom =>
      rw [eq_of_throughJson isAtom written, reproduces_of_isAtom isAtom,
        agrees_self isAtom (isNan_eq_false_of_all isAtom numbers)]
  | list items ih =>
      rw [all_list] at numbers
      rw [everyDictionary_list] at distinct keeps
      obtain ⟨results, rfl, pairs⟩ := (throughJson_list_iff items w).1 written
      exact reproduces_list_of_forall₂ pairs fun v inside w written =>
        ih v inside written (numbers v inside) (distinct v inside) (keeps v inside)
  | tuple items ih =>
      rw [all_tuple] at numbers
      rw [everyDictionary_tuple] at distinct keeps
      rw [throughJson_tuple] at written
      obtain ⟨results, rfl, pairs⟩ := (throughJson_list_iff items w).1 written
      rw [reproduces_tuple]
      exact reproduces_list_of_forall₂ pairs fun v inside w written =>
        ih v inside written (numbers v inside) (distinct v inside) (keeps v inside)
  | dict entries ih =>
      rw [all_dict] at numbers
      obtain ⟨texts, distinct⟩ := (everyDictionary_dict entries).1 distinct
      obtain ⟨plain, keeps⟩ := (everyDictionary_dict entries).1 keeps
      obtain ⟨results, rfl, pairs⟩ := (throughJson_dict_iff entries w).1 written
      rw [Entries.ofList_eq_self (texts.hasDistinctKeys pairs), reproduces_dict_iff]
      refine ⟨results, rfl, (reproducesEntries_iff results entries).2 fun entry member => ?_⟩
      obtain ⟨writable, v, found, written⟩ :=
        Entries.valueOf?_plainText texts pairs member (plain entry member)
      exact ⟨writable, v, found, ih entry member written (numbers entry member).2
        (distinct entry member) (keeps entry member)⟩
  | set items => cases written
  | special kind plain literal => cases written

/-- JSON only writes dictionaries whose keys are not too long. -/
theorem hasWritableKeys_of_throughJson {v w : Value} (written : v.throughJson = .ok w) :
    v.EveryDictionary Entries.HasWritableKeys := by
  have items {given results : List Value}
      (ih : ∀ item ∈ given, ∀ {w}, item.throughJson = .ok w →
        item.EveryDictionary Entries.HasWritableKeys)
      (pairs : List.Forall₂ (fun v w => v.throughJson = .ok w) given results) :
      ∀ item ∈ given, item.EveryDictionary Entries.HasWritableKeys := by
    intro item inside
    obtain ⟨result, _, written⟩ := Attempt.exists_of_mem_right pairs.flip inside
    exact ih item inside written
  induction v using inductionOn generalizing w with
  | atom v isAtom => exact everyDictionary_of_isAtom isAtom
  | list given ih =>
      obtain ⟨results, _, pairs⟩ := (throughJson_list_iff given w).1 written
      exact (everyDictionary_list given).2 (items ih pairs)
  | tuple given ih =>
      rw [throughJson_tuple] at written
      obtain ⟨results, _, pairs⟩ := (throughJson_list_iff given w).1 written
      exact (everyDictionary_tuple given).2 (items ih pairs)
  | dict entries ih =>
      obtain ⟨results, _, pairs⟩ := (throughJson_dict_iff entries w).1 written
      refine (everyDictionary_dict entries).2 ⟨fun entry member => ?_, fun entry member => ?_⟩
      · obtain ⟨_, _, key, isKey, _⟩ := Attempt.exists_of_mem_right pairs.flip member
        exact isWritable_of_keyText isKey
      · obtain ⟨_, _, _, _, _, written⟩ := Attempt.exists_of_mem_right pairs.flip member
        exact ih entry member written
  | set items => cases written
  | special kind plain literal => cases written

theorem everyItem_of_forall₂ {condition : Entries → Prop} {items results : List Value}
    (pairs : List.Forall₂ (fun v w => v.throughJson = .ok w) items results)
    (each : ∀ v ∈ items, ∀ w, v.throughJson = .ok w → w.reproduces v = .ok true →
      v.EveryDictionary condition)
    (same : (Value.list results).reproduces (.list items) = .ok true) :
    ∀ v ∈ items, v.EveryDictionary condition := by
  intro v inside
  obtain ⟨found, isList | isTuple, reproduced⟩ := (reproduces_sequence_iff _ items).1 same
  · obtain rfl := Value.list.inj isList
    obtain ⟨w, _, written, same⟩ :=
      Attempt.exists_of_mem_right (Attempt.forall₂_both pairs reproduced.flip).flip inside
    exact each v inside w written same
  · cases isTuple

/-- When what JSON makes of a value reproduces the value, all of its keys keep their texts,
unless there are texts that look like other keys. -/
theorem keepsTexts_of_reproduces {v w : Value} (written : v.throughJson = .ok w)
    (distinct : v.EveryDictionary Entries.HasDistinctTexts)
    (avoids : v.EveryDictionary Entries.AvoidsSpellings) (same : w.reproduces v = .ok true) :
    v.EveryDictionary Entries.KeepsTexts := by
  induction v using inductionOn generalizing w with
  | atom v isAtom => exact everyDictionary_of_isAtom isAtom
  | list items ih =>
      rw [everyDictionary_list] at distinct avoids ⊢
      obtain ⟨results, rfl, pairs⟩ := (throughJson_list_iff items w).1 written
      exact everyItem_of_forall₂ pairs (fun v inside w written =>
        ih v inside written (distinct v inside) (avoids v inside)) same
  | tuple items ih =>
      rw [everyDictionary_tuple] at distinct avoids ⊢
      rw [throughJson_tuple] at written
      obtain ⟨results, rfl, pairs⟩ := (throughJson_list_iff items w).1 written
      exact everyItem_of_forall₂ pairs (fun v inside w written =>
        ih v inside written (distinct v inside) (avoids v inside)) same
  | dict entries ih =>
      obtain ⟨texts, distinct⟩ := (everyDictionary_dict entries).1 distinct
      obtain ⟨spellings, avoids⟩ := (everyDictionary_dict entries).1 avoids
      obtain ⟨results, rfl, pairs⟩ := (throughJson_dict_iff entries w).1 written
      rw [Entries.ofList_eq_self (texts.hasDistinctKeys pairs)] at same
      have covered := (reproducesEntries_iff results entries).1 same
      have plain := Entries.keepsTexts_of_covered spellings pairs fun entry member =>
        (covered entry member).2.imp fun _ => And.left
      refine (everyDictionary_dict entries).2 ⟨plain, fun entry member => ?_⟩
      obtain ⟨_, v, found, same⟩ := covered entry member
      obtain ⟨_, v', found', written⟩ :=
        Entries.valueOf?_plainText texts pairs member (plain entry member)
      obtain rfl := Option.some.inj (found.symm.trans found')
      exact ih entry member written (distinct entry member) (avoids entry member) same
  | set items => cases written
  | special kind plain literal => cases written

/-- Whether a value can be told from what JSON makes of it: its numbers equal themselves,
and JSON gives the keys of each dictionary different texts. -/
structure IsTellable (v : Value) : Prop where
  numbers : v.all (fun leaf => !leaf.isNan) = true
  texts : v.EveryDictionary Entries.HasDistinctTexts

/-- What JSON makes of a value can be compared with the value, and it reproduces the value if
no key is nothing, a truth value or an infinite number. Without texts that look like such keys,
this is the only case. -/
theorem normalized_reproduces (v w : Value) (written : v.throughJson = .ok w)
    (tellable : v.IsTellable) :
    (∃ same, w.reproduces v = .ok same) ∧
    (v.EveryDictionary Entries.KeepsTexts → w.reproduces v = .ok true) ∧
    (v.EveryDictionary Entries.AvoidsSpellings →
      (w.reproduces v = .ok true ↔ v.EveryDictionary Entries.KeepsTexts)) := by
  have sufficient := reproduces_of_throughJson written tellable.numbers tellable.texts
  exact ⟨succeeds_reproduces (hasWritableKeys_of_throughJson written) w, sufficient,
    fun avoids => ⟨keepsTexts_of_reproduces written tellable.texts avoids, sufficient⟩⟩

/-- A tuple in a dictionary that has an integer and a text for keys. -/
theorem normalized_reproduces_integers :
    let v : Value := .dict [(.int (-2), .tuple [.none, .bool true]), (.str "2", .list [])]
    ∃ w, v.throughJson = .ok w ∧ w.reproduces v = .ok true := by
  intro v
  have key : Json.integerText (-2) = .ok "-2" :=
    integerText_eq_ok (lt_numeralBound (by decide))
  have written : v.throughJson =
      .ok (.dict [(.str "-2", .list [.none, .bool true]), (.str "2", .list [])]) := by
    simp only [v, throughJson, throughJsonMembers, Json.keyText, key]
    rfl
  have texts : v.EveryDictionary Entries.HasDistinctTexts := by
    have here : Entries.HasDistinctTexts
        [(.int (-2), .tuple [.none, .bool true]), (.str "2", .list [])] := by
      simp [Entries.HasDistinctTexts, key, Json.keyText, pure, Except.pure, Except.toOption]
    simpa [v, EveryDictionary, dictionaries, dictionariesOf, dictionariesOfEntries] using here
  exact ⟨_, written, (normalized_reproduces v _ written ⟨by decide, texts⟩).2.1 (by decide)⟩

/-- JSON writes a truth value that is a key in another way than it is shown. -/
theorem not_normalized_reproduces_truth :
    let v : Value := .dict [(.bool true, .none)]
    ∃ w, v.throughJson = .ok w ∧ v.IsTellable ∧ w.reproduces v = .ok false := by
  intro v
  have written : v.throughJson = .ok (.dict [(.str "true", .none)]) := by rfl
  exact ⟨_, written, ⟨by decide, by decide⟩, rfl⟩

end Value

end FunctionSynthesis
