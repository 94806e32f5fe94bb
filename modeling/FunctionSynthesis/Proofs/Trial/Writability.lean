import FunctionSynthesis.Proofs.Example.Sameness

/-!
# Integers that are too long

JSON only has integers of so many digits, and no floating number is as large as one that has
more (`Binary64.natAbs_lt_of_rank?`). So what comes from JSON reproduces no output with a longer
integer in it (`isWritable_of_reproduces`), and no longer integer is in what is the same as a value
without one (`isWritable_of_isSame`).
-/

namespace FunctionSynthesis

/-! ### Bounds -/

theorem Binary64.natAbs_lt_two_pow_of_rank? {x : Binary64} {n : Int}
    (same : x.rank? = some (.inr n)) : ∃ k ≤ 1024, n.natAbs < 2 ^ k := by
  cases x with
  | nan => cases same
  | infinite negative => cases same
  | finite negative significand exponent stored =>
      obtain ⟨few, _, low, _⟩ := stored
      have positive : Nat.pow 2 (-exponent).toNat ≠ 0 := Nat.ne_of_gt (Nat.two_pow_pos _)
      have whole : (n : Rat) = mkRat n 1 := (Rat.mkRat_one n).symm
      simp only [rank?, Option.some.injEq, Sum.inr.injEq] at same
      rw [whole, Rat.mkRat_eq_iff positive Nat.one_ne_zero] at same
      have magnitude : significand * 2 ^ exponent.toNat = n.natAbs * 2 ^ (-exponent).toNat := by
        have sizes := congrArg Int.natAbs same
        rw [Int.natAbs_mul, Int.natAbs_mul] at sizes
        cases negative <;> simpa [Int.natAbs_mul, Int.natAbs_pow] using sizes
      refine ⟨53 + exponent.toNat, by omega, ?_⟩
      calc n.natAbs ≤ n.natAbs * 2 ^ (-exponent).toNat :=
            Nat.le_mul_of_pos_right _ (Nat.two_pow_pos _)
        _ = significand * 2 ^ exponent.toNat := magnitude.symm
        _ < 2 ^ 53 * 2 ^ exponent.toNat := Nat.mul_lt_mul_of_pos_right few (Nat.two_pow_pos _)
        _ = 2 ^ (53 + exponent.toNat) := (Nat.pow_add _ _ _).symm

/-- An integer that a floating number equals is not too long. -/
theorem Binary64.natAbs_lt_of_rank? {x : Binary64} {n : Int} (same : x.rank? = some (.inr n)) :
    n.natAbs < Value.numeralBound := by
  obtain ⟨k, small, below⟩ := natAbs_lt_two_pow_of_rank? same
  have few : k ≤ Value.longestNumeral := small.trans (by decide)
  exact below.trans_le (Value.two_pow_le_numeralBound few)

namespace Value

/-! ### Values from JSON -/

/-- Whether a value is what JSON makes of some value. -/
def IsFromJson (w : Value) : Prop :=
  ∃ v : Value, v.throughJson = .ok w

/-- JSON has integers that can be written, other atoms, lists and dictionaries. -/
theorem IsFromJson.shape {w : Value} (source : w.IsFromJson) :
    (w.isAtom = true ∧ w.isWritable = true) ∨
      (∃ items, w = .list items ∧ ∀ item ∈ items, item.IsFromJson) ∨
      ∃ entries, w = .dict entries ∧ ∀ entry ∈ entries, entry.2.IsFromJson := by
  have sequence {given : List Value} (written : (Value.list given).throughJson = .ok w) :
      ∃ items, w = .list items ∧ ∀ item ∈ items, item.IsFromJson := by
    obtain ⟨items, same, pairs⟩ := (throughJson_list_iff given w).1 written
    refine ⟨items, same, fun item inside => ?_⟩
    obtain ⟨v, _, written⟩ := Attempt.exists_of_mem_right pairs inside
    exact ⟨v, written⟩
  obtain ⟨v, written⟩ := source
  cases v with
  | int n =>
      obtain rfl := eq_of_throughJson (v := .int n) rfl written
      obtain ⟨text, isText, _⟩ := Attempt.bind_eq_ok_iff.1 written
      unfold Json.integerText at isText
      split at isText
      next writable => exact Or.inl ⟨rfl, writable⟩
      next => exact (Attempt.throw_eq_ok_iff.1 isText).elim
  | list given => exact Or.inr (Or.inl (sequence written))
  | tuple given => exact Or.inr (Or.inl (sequence (throughJson_tuple given ▸ written)))
  | dict given =>
      obtain ⟨results, same, pairs⟩ := (throughJson_dict_iff given w).1 written
      refine Or.inr (Or.inr ⟨_, same, fun entry member => ?_⟩)
      obtain ⟨result, inside, same⟩ := Entries.exists_mem_of_mem_ofList member
      obtain ⟨entry, _, _, _, _, written⟩ := Attempt.exists_of_mem_right pairs inside
      exact ⟨entry.2, same ▸ written⟩
  | set items => cases written
  | special kind plain literal => cases written
  | _ =>
      cases written
      exact Or.inl ⟨rfl, rfl⟩

theorem IsFromJson.isWritable_of_isAtom {w : Value} (source : w.IsFromJson)
    (atom : w.isAtom = true) : w.isWritable = true := by
  rcases source.shape with ⟨_, writable⟩ | ⟨_, rfl, _⟩ | ⟨_, rfl, _⟩
  · exact writable
  · cases atom
  · cases atom

theorem IsFromJson.of_mem_sequence {w : Value} {items : List Value} (source : w.IsFromJson)
    (sequence : w = .list items ∨ w = .tuple items) :
    ∀ item ∈ items, item.IsFromJson := by
  rcases source.shape with ⟨atom, _⟩ | ⟨_, rfl, each⟩ | ⟨_, rfl, _⟩
  · rcases sequence with rfl | rfl <;> cases atom
  · rcases sequence with same | same <;> cases same
    exact each
  · rcases sequence with same | same <;> cases same

theorem IsFromJson.of_mem_dict {entries : Entries} (source : (Value.dict entries).IsFromJson) :
    ∀ entry ∈ entries, entry.2.IsFromJson := by
  rcases source.shape with ⟨atom, _⟩ | ⟨_, same, _⟩ | ⟨_, same, each⟩
  · cases atom
  · cases same
  · exact Value.dict.inj same ▸ each

/-! ### Outputs -/

theorem natAbs_lt_of_agrees {v : Value} {n : Int} (source : v.IsFromJson)
    (same : v.agrees (.int n) = true) : n.natAbs < numeralBound := by
  obtain ⟨truths, _, equal⟩ := (agrees_iff v (.int n)).1 same
  cases v with
  | int m =>
      have ranks := (Number.equal_iff (.int m) (.int n)).1 equal
      obtain rfl : m = n := by simpa [Number.rank?] using ranks
      exact (isWritable_int_iff m).1 (source.isWritable_of_isAtom rfl)
  | float x => exact Binary64.natAbs_lt_of_rank? ((Number.equal_iff (.float x) (.int n)).1 equal)
  | bool b => cases truths
  | _ => cases equal

/-- What comes from JSON only reproduces data with integers that can be written. -/
theorem isWritable_of_reproduces {v w : Value} (source : v.IsFromJson) (json : w.isJson = true)
    (same : v.reproduces w = .ok true) : w.isWritable = true := by
  induction w using inductionOn generalizing v with
  | atom w isAtom =>
      rw [reproduces_of_isAtom isAtom] at same
      cases w with
      | int n => exact (isWritable_int_iff n).2 (natAbs_lt_of_agrees source (Except.ok.inj same))
      | _ => first | rfl | cases isAtom
  | list wanted ih =>
      obtain ⟨found, sequence, pairs⟩ := (reproduces_sequence_iff v wanted).1 same
      refine (all_list _ wanted).2 fun w inside => ?_
      obtain ⟨v, member, same⟩ := Attempt.exists_of_mem_right pairs inside
      exact ih w inside (source.of_mem_sequence sequence v member)
        ((isJson_list wanted).1 json w inside) same
  | dict wanted ih =>
      obtain ⟨found, rfl, covered⟩ := (reproduces_dict_iff v wanted).1 same
      refine (all_dict _ wanted).2 fun entry inside => ?_
      obtain ⟨text, inner⟩ := (isJson_dict wanted).1 json entry inside
      obtain ⟨_, u, value, same⟩ := (reproducesEntries_iff found wanted).1 covered entry inside
      have member := Entries.mem_of_valueOf? value
      obtain ⟨key, isKey⟩ := exists_eq_str_of_text? text
      exact ⟨isKey ▸ rfl, ih entry inside (source.of_mem_dict _ member) inner same⟩
  | tuple items => cases json
  | set items => cases json
  | special kind plain literal => cases json

/-- What is the same as data that can be written can be written. -/
theorem isWritable_of_isSame {v w : Value} (data : v.IsJsonData) (data' : w.IsJsonData)
    (same : w.isSame v = true) (writable : w.isWritable = true) : v.isWritable = true :=
  isWritable_of_reproduces ⟨w, throughJson_eq_self data' writable⟩ data.json
    (reproduces_of_isSame data' data (isSame_symm data data' same))

end Value

end FunctionSynthesis
