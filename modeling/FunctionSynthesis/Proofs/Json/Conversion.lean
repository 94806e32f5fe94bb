import FunctionSynthesis.Json.Writer
import FunctionSynthesis.Proofs.Attempt
import FunctionSynthesis.Proofs.Term.Source
import FunctionSynthesis.Proofs.Value.Numeral
import FunctionSynthesis.Proofs.Value.Structure

/-!
# What JSON makes of a value

Writing a value as JSON and reading it back makes lists of sequences, item by item, and
gives the entries of dictionaries the texts of their keys (`throughJson_dict_iff`).

JSON writes texts, integers and finite floating numbers as keys the way they are shown. The
other keys get another text, and a text of this kind can only come from a text
(`mem_spelledOtherwise_of_keyText`, `eq_str_of_keyText`).
-/

namespace FunctionSynthesis

namespace Value

/-! ### Items and entries -/

theorem throughJsonItems_eq_ok_iff (items results : List Value) :
    throughJsonItems items = .ok results ↔
      List.Forall₂ (fun v w => v.throughJson = .ok w) items results := by
  induction items generalizing results with
  | nil =>
      rw [throughJsonItems, Attempt.pure_eq_ok_iff, List.forall₂_nil_left_iff, eq_comm]
  | cons v items ih =>
      rw [throughJsonItems]
      simp only [Attempt.bind_eq_ok_iff, Attempt.pure_eq_ok_iff, ih, List.forall₂_cons_left_iff]
      constructor
      · rintro ⟨w, here, ws, rest, rfl⟩
        exact ⟨w, ws, here, rest, rfl⟩
      · rintro ⟨w, ws, here, rest, rfl⟩
        exact ⟨w, here, ws, rest, rfl⟩

/-- Whether JSON makes one entry of another: it has the text of the key as its key. -/
def EntryThroughJson (entry result : Value × Value) : Prop :=
  ∃ key, Json.keyText entry.1 = .ok key ∧ result.1 = .str key ∧
    entry.2.throughJson = .ok result.2

theorem throughJsonMembers_eq_ok_iff (entries results : Entries) :
    throughJsonMembers entries = .ok results ↔
      List.Forall₂ EntryThroughJson entries results := by
  induction entries generalizing results with
  | nil =>
      rw [throughJsonMembers, Attempt.pure_eq_ok_iff, List.forall₂_nil_left_iff, eq_comm]
  | cons entry entries ih =>
      obtain ⟨k, v⟩ := entry
      rw [throughJsonMembers]
      simp only [Attempt.bind_eq_ok_iff, Attempt.pure_eq_ok_iff, ih, List.forall₂_cons_left_iff]
      constructor
      · rintro ⟨key, isKey, w, here, ms, rest, rfl⟩
        exact ⟨(.str key, w), ms, ⟨key, isKey, rfl, here⟩, rest, rfl⟩
      · rintro ⟨⟨k', w⟩, ms, ⟨key, isKey, rfl, here⟩, rest, rfl⟩
        exact ⟨key, isKey, w, here, ms, rest, rfl⟩

theorem throughJson_list_iff (items : List Value) (w : Value) :
    (Value.list items).throughJson = .ok w ↔
      ∃ results, w = .list results ∧
        List.Forall₂ (fun v w => v.throughJson = .ok w) items results := by
  rw [throughJson]
  simp only [Attempt.bind_eq_ok_iff, Attempt.pure_eq_ok_iff, throughJsonItems_eq_ok_iff]
  exact exists_congr fun results => and_comm.trans (and_congr_left fun _ => eq_comm)

theorem throughJson_tuple (items : List Value) :
    (Value.tuple items).throughJson = (Value.list items).throughJson := by
  rw [throughJson, throughJson]

theorem throughJson_dict_iff (entries : Entries) (w : Value) :
    (Value.dict entries).throughJson = .ok w ↔
      ∃ results, w = .dict (Entries.ofList results) ∧
        List.Forall₂ EntryThroughJson entries results := by
  rw [throughJson]
  simp only [Attempt.bind_eq_ok_iff, Attempt.pure_eq_ok_iff, throughJsonMembers_eq_ok_iff]
  exact exists_congr fun results => and_comm.trans (and_congr_left fun _ => eq_comm)

/-- An integer that is not too long is written. -/
theorem integerText_eq_ok {n : Int} (short : n.natAbs < numeralBound) :
    Json.integerText n = .ok (toString n) :=
  if_pos ((isWritable_int_iff n).2 short)

/-- JSON leaves an atom as it is. -/
theorem eq_of_throughJson {v w : Value} (atom : v.isAtom = true)
    (written : v.throughJson = .ok w) : w = v := by
  cases v with
  | int n =>
      obtain ⟨_, _, same⟩ := Attempt.bind_eq_ok_iff.1 written
      exact (Attempt.pure_eq_ok_iff.1 same).symm
  | none => exact (Attempt.pure_eq_ok_iff.1 written).symm
  | bool b => exact (Attempt.pure_eq_ok_iff.1 written).symm
  | float x => exact (Attempt.pure_eq_ok_iff.1 written).symm
  | str s => exact (Attempt.pure_eq_ok_iff.1 written).symm
  | _ => cases atom

/-! ### Texts of keys -/

/-- Whether JSON writes a key the way it is shown. -/
def keepsText : Value → Bool
  | .str _ => true
  | .int _ => true
  | .float x => x.isFinite
  | _ => false

/-- How the keys are shown that JSON writes in another way. -/
def spelledOtherwise : List String :=
  ["None", "True", "False", "inf", "-inf", "nan"]

/-- A key that JSON writes is not too long. -/
theorem isWritable_of_keyText {k : Value} {key : String} (isKey : Json.keyText k = .ok key) :
    k.isWritable = true := by
  cases k with
  | int n =>
      by_contra unwritable
      rw [Json.keyText, Json.integerText, if_neg unwritable] at isKey
      exact Attempt.throw_eq_ok_iff.1 isKey
  | none => rfl
  | bool b => rfl
  | float x => rfl
  | str s => rfl
  | _ => cases isKey

theorem keyText_eq_plainText {k : Value} {key : String} (keeps : k.keepsText = true)
    (isKey : Json.keyText k = .ok key) : key = k.plainText := by
  cases k with
  | str s => exact (Attempt.pure_eq_ok_iff.1 isKey).symm
  | int n =>
      rw [Json.keyText, Json.integerText] at isKey
      split at isKey
      · exact (Attempt.pure_eq_ok_iff.1 isKey).symm
      · exact (Attempt.throw_eq_ok_iff.1 isKey).elim
  | float x =>
      have same := (Attempt.pure_eq_ok_iff.1 isKey).symm
      cases x with
      | finite negative significand exponent stored => exact same
      | _ => cases keeps
  | _ => cases keeps

theorem mem_spelledOtherwise_of_keyText {k : Value} {key : String} (changes : k.keepsText = false)
    (isKey : Json.keyText k = .ok key) : k.plainText ∈ spelledOtherwise := by
  cases k with
  | none => decide
  | bool b => cases b <;> decide
  | float x =>
      cases x with
      | infinite negative => cases negative <;> decide
      | nan => decide
      | finite negative significand exponent stored => cases changes
  | str s => cases changes
  | int n => cases changes
  | _ => exact (Attempt.throw_eq_ok_iff.1 isKey).elim

/-- A number begins with a digit behind its sign. -/
theorem exists_digit_of_number {k : Value} (keeps : k.keepsText = true)
    (number : k.text? = Option.none) :
    ∃ sign digit rest, k.plainText.toList = sign ++ digit :: rest ∧
      (sign = [] ∨ sign = ['-']) ∧ digit.isDigit = true := by
  have signs (negative : Prop) [Decidable negative] :
      (if negative then ['-'] else ([] : List Char)) = [] ∨
        (if negative then ['-'] else ([] : List Char)) = ['-'] := by
    split <;> simp
  cases k with
  | int n =>
      have text : (Value.int n).plainText.toList =
          (if n < 0 then ['-'] else []) ++ (toString n.natAbs).toList :=
        Term.toList_toString_int n
      rw [Binary64.toList_toString] at text
      cases digits : Nat.toDigits 10 n.natAbs with
      | nil => exact absurd digits Nat.toDigits_ne_nil
      | cons digit rest =>
          refine ⟨_, digit, rest, digits ▸ text, signs (n < 0), ?_⟩
          exact Binary64.isDigit_of_mem_toDigits (digits ▸ List.mem_cons_self)
  | float x =>
      obtain ⟨numeral, _, text, _⟩ := Binary64.exists_numeral (x := x) keeps
      cases whole : numeral.whole with
      | nil => exact absurd whole numeral.whole_ne_nil
      | cons digit rest =>
          rw [Binary64.Numeral.chars, whole, List.cons_append, List.cons_append] at text
          exact ⟨_, digit, _, text, signs (x.isNegative = true),
            numeral.isDigit_of_mem_whole digit (whole ▸ List.mem_cons_self)⟩
  | str s => cases number
  | _ => cases keeps

/-- No key but a text is written the way one of those is shown. -/
theorem eq_str_of_keyText {k : Value} {key : String} (isKey : Json.keyText k = .ok key)
    (spelled : key ∈ spelledOtherwise) : k = .str key := by
  cases keeps : k.keepsText with
  | true =>
      cases text : k.text? with
      | some s =>
          cases k with
          | str s => exact congrArg Value.str (Attempt.pure_eq_ok_iff.1 isKey)
          | _ => cases text
      | none =>
          obtain ⟨sign, digit, rest, same, signs, isDigit⟩ := exists_digit_of_number keeps text
          rw [← keyText_eq_plainText keeps isKey] at same
          simp only [spelledOtherwise, List.mem_cons, List.not_mem_nil, or_false] at spelled
          rcases spelled with rfl | rfl | rfl | rfl | rfl | rfl <;>
            rcases signs with rfl | rfl <;>
            · cases same
              first | done | exact absurd isDigit (by decide)
  | false =>
      cases k with
      | none =>
          obtain rfl := Attempt.pure_eq_ok_iff.1 isKey
          exact absurd spelled (by decide)
      | bool b =>
          obtain rfl := Attempt.pure_eq_ok_iff.1 isKey
          cases b <;> exact absurd spelled (by decide)
      | float x =>
          obtain rfl := Attempt.pure_eq_ok_iff.1 isKey
          cases x with
          | infinite negative => cases negative <;> exact absurd spelled (by decide)
          | nan => exact absurd spelled (by decide)
          | finite negative significand exponent stored => cases keeps
      | str s => cases keeps
      | int n => cases keeps
      | _ => exact (Attempt.throw_eq_ok_iff.1 isKey).elim

end Value

/-! ### Different texts -/

/-- Whether JSON gives the keys of a dictionary different texts. -/
def Entries.HasDistinctTexts (entries : Entries) : Prop :=
  (entries.map fun entry => (Json.keyText entry.1).toOption).Nodup

instance (entries : Entries) : Decidable entries.HasDistinctTexts :=
  inferInstanceAs (Decidable (entries.map fun entry => (Json.keyText entry.1).toOption).Nodup)

theorem Entries.HasDistinctTexts.hasDistinctKeys {entries results : Entries}
    (distinct : entries.HasDistinctTexts)
    (pairs : List.Forall₂ Value.EntryThroughJson entries results) : results.HasDistinctKeys := by
  have texts : entries.map (fun entry => (Json.keyText entry.1).toOption) =
      results.map fun result => result.1.text? := by
    rw [← List.forall₂_eq_eq_eq, List.forall₂_map_left_iff, List.forall₂_map_right_iff]
    refine pairs.imp fun entry result ⟨key, isKey, same, _⟩ => ?_
    rw [isKey, same]
    rfl
  have named : ∀ result ∈ results, ∃ key, result.1 = .str key := by
    intro result member
    obtain ⟨_, _, key, _, same, _⟩ := Attempt.exists_of_mem_right pairs member
    exact ⟨key, same⟩
  have different : results.Pairwise fun e f => e.1.text? ≠ f.1.text? := by
    rw [HasDistinctTexts, texts] at distinct
    exact List.pairwise_map.1 distinct
  refine different.imp_of_mem fun {e f} left right apart => ?_
  obtain ⟨key, same⟩ := named f right
  rw [Bool.eq_false_iff, same, ne_eq, Value.beq_str_iff]
  intro equal
  rw [equal, same] at apart
  exact apart rfl

end FunctionSynthesis
