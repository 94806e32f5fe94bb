import FunctionSynthesis.Grammar.Rule
import FunctionSynthesis.Proofs.Term.Evaluation
import FunctionSynthesis.Proofs.Text.Splitting
import FunctionSynthesis.Proofs.Value.Dictionary

/-!
# Parsing of query strings

A text of pairs `key=value` that are joined by `&` is parsed to the dictionary of its first pairs
by the terms that are proposed for a record (`queryStrings_decode`).
-/

namespace FunctionSynthesis

/-! ### Encoded pairs -/

/-- The text `key=value` of a pair. -/
def encodedPair (pair : String × String) : String :=
  pair.1 ++ "=" ++ pair.2

/-- The texts of pairs joined by `&`. -/
def encodedPairs (pairs : List (String × String)) : String :=
  "&".intercalate (pairs.map encodedPair)

/-- Whether a text has none of the characters that stand between keys, values and pairs. -/
def IsPlainText (s : String) : Prop :=
  '&' ∉ s.toList ∧ '=' ∉ s.toList

instance (s : String) : Decidable (IsPlainText s) :=
  inferInstanceAs (Decidable (_ ∧ _))

/-- Whether the key and the value of a pair are plain texts. -/
structure IsPlainPair (pair : String × String) : Prop where
  key : IsPlainText pair.1
  value : IsPlainText pair.2

/-- Whether a dictionary is that of pairs: its keys are those of the pairs, each where it comes
first, and a key has the value that it is given last. -/
structure Entries.IsOfPairs (entries : Entries) (pairs : List (String × String)) : Prop where
  keys : entries.map Prod.fst = (pairs.map Prod.fst).eraseDups.map Value.str
  values : ∀ key, entries.valueOf? (.str key) = (pairs.reverse.lookup key).map Value.str

variable {pairs : List (String × String)} {pair : String × String}

theorem toList_encodedPair (pair : String × String) :
    (encodedPair pair).toList = Text.join ['='] [pair.1.toList, pair.2.toList] := by
  simp [encodedPair, Text.join]

theorem toList_encodedPairs (pairs : List (String × String)) :
    (encodedPairs pairs).toList =
      Text.join ['&'] (pairs.map fun pair => (encodedPair pair).toList) := by
  rw [encodedPairs, String.toList_intercalate, List.map_map]
  rfl

theorem splitOn_encodedPair (plain : IsPlainPair pair) :
    Text.splitOn ['='] ((encodedPair pair).toList.length + 1) (encodedPair pair).toList =
      [pair.1.toList, pair.2.toList] := by
  rw [toList_encodedPair]
  apply Text.splitOn_join (List.cons_ne_nil _ _)
  · simp [plain.key.2, plain.value.2]
  · have few := Text.length_le_length_join (c := '=') [pair.1.toList, pair.2.toList]
    omega

theorem splitOn_encodedPairs (some : pairs ≠ []) (plain : ∀ pair ∈ pairs, IsPlainPair pair) :
    Text.splitOn ['&'] ((encodedPairs pairs).toList.length + 1) (encodedPairs pairs).toList =
      pairs.map fun pair => (encodedPair pair).toList := by
  rw [toList_encodedPairs]
  apply Text.splitOn_join
  · simpa using some
  · rw [List.forall_mem_map]
    intro pair member
    have here := plain pair member
    simp [encodedPair, here.key.1, here.value.1]
  · have few := Text.length_le_length_join (c := '&')
      (pairs.map fun pair => (encodedPair pair).toList)
    omega

/-! ### Dictionaries of pairs -/

theorem lookup_map_snd {β γ : Type} (f : β → γ) (pairs : List (String × β)) (key : String) :
    (pairs.map fun pair => (pair.1, f pair.2)).lookup key = (pairs.lookup key).map f := by
  induction pairs with
  | nil => rfl
  | cons pair pairs ih =>
      rw [List.map_cons, List.lookup_cons, List.lookup_cons, ih]
      by_cases here : (key == pair.1) = true <;> simp [here]

/-- The dictionary of pairs of which the later ones replace the earlier ones. -/
def decodedPairs (pairs : List (String × String)) : Entries :=
  Entries.ofList (Entries.ofFields (pairs.map fun pair => (pair.1, .str pair.2)))

theorem isOfPairs_decodedPairs (pairs : List (String × String)) :
    (decodedPairs pairs).IsOfPairs pairs := by
  constructor
  · rw [decodedPairs, Entries.map_fst_ofList_ofFields, List.map_map]
    rfl
  · intro key
    rw [decodedPairs, Entries.valueOf?_ofList_ofFields, ← List.map_reverse]
    exact lookup_map_snd Value.str pairs.reverse key

theorem Term.dictionaryOf_ofFields (fields : List (String × Value)) :
    Term.dictionaryOf (Entries.ofFields fields) =
      .ok (.dict (Entries.ofList (Entries.ofFields fields))) := by
  have hashable : (Entries.ofFields fields).findSome? (fun e => e.1.unhashable?) = none := by
    rw [List.findSome?_eq_none_iff]
    intro entry member
    obtain ⟨field, _, rfl⟩ := List.mem_map.1 member
    rfl
  rw [Term.dictionaryOf, hashable]
  rfl

namespace Term

variable {values : List (String × Value)}

/-! ### Values of the parts -/

theorem evaluate_splitAt {receiver : Term} {s separator : String}
    (isText : evaluate values receiver = .ok (.str s)) (some : separator ≠ "") :
    evaluate values (receiver.splitAt separator) =
      .ok (.list ((Text.splitOn separator.toList (s.toList.length + 1) s.toList).map
        fun piece => .str (String.ofList piece))) := by
  rw [splitAt, evaluate, isText]
  change Value.splitBy s.toList (.str separator) (s.toList.length + 1) = _
  rw [Value.splitBy, if_neg some]
  rfl

theorem evaluate_item {receiver : Term} {items : List Value} {i : ℕ} {v : Value}
    (isList : evaluate values receiver = .ok (.list items)) (inside : items[i]? = some v) :
    evaluate values (receiver.item (.int i)) = .ok v := by
  rw [item, evaluate, isList]
  change Value.pickAt items (.int i) = .ok v
  have place : Slice.fromFront items.length i = i := by
    rw [Slice.fromFront, if_neg (by omega)]
  simp only [Value.pickAt, Value.integer?, place]
  rw [if_neg (by omega), Int.toNat_natCast, inside]
  rfl

theorem evaluate_var {name : String} {v : Value} (bound : values.lookup name = some v) :
    evaluate values (.var name) = .ok v := by
  rw [evaluate, bound]
  rfl

/-- The key and the value of a term whose value is an encoded pair. -/
theorem evaluate_keyValueEntry {t : Term} (plain : IsPlainPair pair)
    (isText : evaluate values t = .ok (.str (encodedPair pair))) :
    evaluate values t.keyValueEntry.1 = .ok (.str pair.1) ∧
      evaluate values t.keyValueEntry.2 = .ok (.str pair.2) := by
  have pieces := evaluate_splitAt isText (show "=" ≠ "" by decide)
  have split := splitOn_encodedPair plain
  change Text.splitOn "=".toList _ _ = _ at split
  rw [split] at pieces
  constructor
  · exact evaluate_item (i := 0) pieces (by simp)
  · exact evaluate_item (i := 1) pieces (by simp)

/-- The value of each of the first pairs of a term whose value is that of encoded pairs. -/
theorem evaluate_item_splitAt {t : Term} (some : pairs ≠ [])
    (plain : ∀ pair ∈ pairs, IsPlainPair pair)
    (isText : evaluate values t = .ok (.str (encodedPairs pairs))) {i : ℕ}
    (isPair : pairs[i]? = .some pair) :
    evaluate values ((t.splitAt "&").item (.int i)) = .ok (.str (encodedPair pair)) := by
  have pieces := evaluate_splitAt isText (show "&" ≠ "" by decide)
  have split := splitOn_encodedPairs some plain
  change Text.splitOn "&".toList _ _ = _ at split
  rw [split] at pieces
  apply evaluate_item pieces
  simp [isPair]

/-! ### Values of records -/

theorem evaluate_record_of_pairs {entries : List (Term × Term)} {pairs : List (String × String)}
    (each : List.Forall₂ (fun entry pair => evaluate values entry.1 = .ok (.str pair.1) ∧
      evaluate values entry.2 = .ok (.str pair.2)) entries pairs) :
    evaluate values (.record entries) = .ok (.dict (decodedPairs pairs)) := by
  have evaluated : evaluateEntries values entries =
      .ok (Entries.ofFields (pairs.map fun pair => (pair.1, .str pair.2))) := by
    rw [evaluateEntries_eq_ok_iff, Entries.ofFields, List.map_map, List.forall₂_map_right_iff]
    exact each
  rw [evaluate, evaluated]
  exact dictionaryOf_ofFields _

/-- The dictionary that is parsed from a variable with one pair. -/
def pairRecord (name : String) : Term :=
  .record [(Term.var name).keyValueEntry]

/-- The dictionary that is parsed from the first pairs of a variable. -/
def pairsRecord (name : String) (count : ℕ) : Term :=
  .record (((Term.var name).queryPairs count).map keyValueEntry)

theorem evaluate_pairsRecord {name : String} (some : pairs ≠ [])
    (plain : ∀ pair ∈ pairs, IsPlainPair pair)
    (bound : values.lookup name = .some (.str (encodedPairs pairs))) {count : ℕ}
    (few : count ≤ pairs.length) :
    evaluate values (pairsRecord name count) =
      .ok (.dict (decodedPairs (pairs.take count))) := by
  apply evaluate_record_of_pairs
  rw [queryPairs, List.map_map, List.forall₂_map_left_iff, List.forall₂_iff_get]
  constructor
  · rw [List.length_range, List.length_take, Nat.min_eq_left few]
  · intro i inside inside'
    have isPair : pairs[i]? = .some ((pairs.take count).get ⟨i, inside'⟩) := by
      simp
    rw [List.get_eq_getElem, List.getElem_range]
    apply evaluate_keyValueEntry
    · exact plain _ (List.mem_of_getElem? isPair)
    · exact evaluate_item_splitAt some plain (evaluate_var bound) isPair

theorem evaluate_pairRecord {name : String} (plain : IsPlainPair pair)
    (bound : values.lookup name = some (.str (encodedPairs [pair]))) :
    evaluate values (pairRecord name) = .ok (.dict (decodedPairs [pair])) := by
  apply evaluate_record_of_pairs
  have isText : evaluate values (.var name) = .ok (.str (encodedPair pair)) := by
    rw [evaluate_var bound, encodedPairs, List.map_singleton, String.intercalate_singleton]
  exact .cons (evaluate_keyValueEntry plain isText) .nil

end Term

/-! ### Proposals -/

/-- If what comes before an item that passes passes as well, nothing that passes comes after an
item that does not. -/
theorem takeWhile_eq_filter {α : Type} {p : α → Bool} {xs : List α}
    (downward : xs.Pairwise fun x y => p y = true → p x = true) :
    xs.takeWhile p = xs.filter p := by
  induction xs with
  | nil => rfl
  | cons x xs ih =>
      obtain ⟨here, later⟩ := List.pairwise_cons.1 downward
      by_cases passes : p x = true
      · rw [List.takeWhile_cons_of_pos passes, List.filter_cons_of_pos passes, ih later]
      · rw [List.takeWhile_cons_of_neg passes, List.filter_cons_of_neg passes]
        apply Eq.symm
        apply List.filter_eq_nil_iff.2
        exact fun y member passes' => passes (here y member passes')

namespace Rule

/-- The numbers of pairs that are tried for a record are those that it has fields for, and one. -/
theorem mem_counts_iff (limit size count : ℕ) :
    count ∈ ((List.range limit).map (· + 1)).takeWhile
        (fun count => count ≤ 1 || count ≤ size) ↔
      1 ≤ count ∧ count ≤ limit ∧ (count = 1 ∨ count ≤ size) := by
  have downward : ((List.range limit).map (· + 1)).Pairwise fun x y =>
      (decide (y ≤ 1) || decide (y ≤ size)) = true →
        (decide (x ≤ 1) || decide (x ≤ size)) = true := by
    apply List.pairwise_map.2
    apply List.pairwise_lt_range.imp
    intro x y less
    simp only [Bool.or_eq_true, decide_eq_true_iff]
    omega
  rw [takeWhile_eq_filter downward, List.mem_filter, List.mem_map]
  simp only [List.mem_range, Bool.or_eq_true, decide_eq_true_iff]
  constructor
  · rintro ⟨⟨i, inside, rfl⟩, fits⟩
    omega
  · rintro ⟨positive, inside, fits⟩
    exact ⟨⟨count - 1, by omega, by omega⟩, by omega⟩

theorem mem_queryStrings_iff (fields : List (String × Ty)) (query : Query) (limits : Limits)
    (t : Term) :
    t ∈ (queryStrings.propose (.record fields) query limits).terms ↔
      ∃ name ∈ query.stringVariables, t = Term.pairRecord name ∨
        ∃ count, 1 ≤ count ∧ count ≤ maxQueryPairs ∧ (count = 1 ∨ count ≤ fields.length) ∧
          t = Term.pairsRecord name count := by
  change t ∈ proposeQueryStrings (.record fields) query ↔ _
  rw [proposeQueryStrings, List.mem_flatMap]
  apply exists_congr
  intro name
  apply and_congr_right
  intro _
  rw [List.mem_cons, List.mem_map]
  apply or_congr Iff.rfl
  apply exists_congr
  intro count
  rw [mem_counts_iff, and_assoc, and_assoc, @eq_comm _ t]
  rfl

/-- A variable that holds encoded pairs is parsed to the dictionary of its first pairs. For a
record exactly these terms are proposed: for each variable that may hold a text the one that does
not look for several pairs, and those for each number of pairs that the record has fields for. -/
theorem queryStrings_decode (fields : List (String × Ty)) (query : Query) (limits : Limits) :
    (∀ (name : String) (values : List (String × Value)) (pairs : List (String × String)),
      pairs ≠ [] → (∀ pair ∈ pairs, IsPlainPair pair) →
      values.lookup name = some (.str (encodedPairs pairs)) →
      ∀ count, 1 ≤ count → count ≤ min pairs.length maxQueryPairs →
        ∃ found : Entries,
          (Term.pairsRecord name count).evaluate values = .ok (.dict found) ∧
          found.IsOfPairs (pairs.take count) ∧
          (pairs.length = 1 → (Term.pairRecord name).evaluate values = .ok (.dict found))) ∧
    ∀ t : Term,
      t ∈ (queryStrings.propose (.record fields) query limits).terms ↔
        ∃ name ∈ query.stringVariables, t = Term.pairRecord name ∨
          ∃ count, 1 ≤ count ∧ count ≤ maxQueryPairs ∧ (count = 1 ∨ count ≤ fields.length) ∧
            t = Term.pairsRecord name count := by
  constructor
  · intro name values pairs some plain bound count positive few
    have inside : count ≤ pairs.length := Nat.le_trans few (Nat.min_le_left _ _)
    refine ⟨_, Term.evaluate_pairsRecord some plain bound inside, isOfPairs_decodedPairs _, ?_⟩
    intro single
    obtain ⟨pair, rfl⟩ := List.length_eq_one_iff.1 single
    have whole : count = [pair].length := Nat.le_antisymm inside positive
    rw [whole, List.take_length]
    exact Term.evaluate_pairRecord (plain pair List.mem_cons_self) bound
  · exact mem_queryStrings_iff fields query limits

/-- The value that a repeated key is given last may be empty, and later pairs are left out. -/
theorem queryStrings_decode_repeated :
    ∃ found : Entries,
      (Term.pairsRecord "arg0" 2).evaluate [("arg0", .str "a=1&a=&b=2")] = .ok (.dict found) ∧
      found.valueOf? (.str "a") = some (.str "") ∧ found.valueOf? (.str "b") = none := by
  have plain : ∀ pair ∈ [("a", "1"), ("a", ""), ("b", "2")], IsPlainPair pair := by
    simp only [List.forall_mem_cons]
    exact ⟨⟨by decide, by decide⟩, ⟨by decide, by decide⟩, ⟨by decide, by decide⟩, by simp⟩
  obtain ⟨found, evaluated, isOfPairs, _⟩ :=
    (queryStrings_decode [] { env := [], goal := .string } {}).1 "arg0"
      [("arg0", .str "a=1&a=&b=2")] _ (List.cons_ne_nil _ _) plain rfl 2 (by decide) (by decide)
  exact ⟨found, evaluated, isOfPairs.values "a", isOfPairs.values "b"⟩

end Rule

end FunctionSynthesis
