import FunctionSynthesis.Proofs.Toml.Numeral

/-!
# How scalars are spelled in TOML

A text between quotes, an integer, a number and a truth value are read back from their spelling
at the end of a line. A text with a control character is the exception: it cannot be read at all
(`basicText?_escaped`).
-/

namespace FunctionSynthesis.Toml

open Binary64 (Numeral pointed powered)

variable (negative : Bool) (numeral : Numeral)

/-! ### Scalars -/

/-- Whether characters spell a value at the end of a line, and there are no control characters
among them. -/
structure Spells (text : List Char) (v : Value) : Prop where
  read : ∀ fuel rest, value (fuel + 1) (text ++ '\n' :: rest) = pure (v, '\n' :: rest)
  allowed : ∀ c ∈ text, isForbidden c = false
  notBlank : ∀ c ∈ text.head?, isBlank c = false

theorem allowed_of_any {chars : List Char} (none : chars.any isForbidden = false) :
    ∀ c ∈ chars, isForbidden c = false := fun c member =>
  Bool.eq_false_iff.2 (List.any_eq_false.1 none c member)

theorem notBlank_of_cons {c : Char} {chars : List Char} (notBlank : isBlank c = false) :
    ∀ d ∈ (c :: chars).head?, isBlank d = false := by
  intro d head
  cases head
  exact notBlank

/-- A value that is neither an array nor an inline table is a scalar. -/
theorem value_of_scalar {c : Char} (array : c ≠ '[') (table : c ≠ '\x7b') (fuel : Nat)
    (rest : List Char) : value (fuel + 1) (c :: rest) = scalar (c :: rest) := by
  unfold value
  split
  next same => exact absurd (List.cons.inj same).1 array
  next same => exact absurd (List.cons.inj same).1 table
  next => rfl

theorem isForbidden_of_isDigit {c : Char} (digit : c.isDigit = true) :
    isForbidden c = false := by
  have bounds := Token.toNat_of_isDigit digit
  unfold isForbidden
  rw [Bool.or_eq_false_iff, Bool.and_eq_false_iff]
  exact ⟨Or.inl (decide_eq_false (by omega)), decide_eq_false (by omega)⟩

theorem ne_of_isDigit {c d : Char} (digit : c.isDigit = true) (other : d.isDigit = false) :
    c ≠ d := by
  rintro rfl
  exact absurd digit (by rw [other]; decide)

/-- Whether a numeral can start with a character. -/
def StartsNumeral (c : Char) : Prop :=
  c.isDigit = true ∨ c = '-'

theorem StartsNumeral.ne {c d : Char} (starts : StartsNumeral c) (noDigit : d.isDigit = false)
    (noSign : d ≠ '-') : c ≠ d := by
  rcases starts with digit | rfl
  · exact ne_of_isDigit digit noDigit
  · exact noSign.symm

/-- What starts as a numeral is no word and no text. -/
theorem scalar_of_startsNumeral {c : Char} (starts : StartsNumeral c) (rest : List Char) :
    scalar (c :: rest) = measurement (c :: rest) := by
  have noWord (first : Char) (others : List Char) {word : String} {found : List Char}
      (other : c ≠ first) (isWord : word.toList = first :: others) :
      (if word.toList.isPrefixOf (c :: rest) then some ((c :: rest).drop word.length)
        else none) ≠ some found := by
    rw [isWord, List.isPrefixOf, beq_eq_false_iff_ne.2 other.symm]
    exact nofun
  have noTrue : c ≠ 't' := starts.ne (by decide) (by decide)
  have noFalse : c ≠ 'f' := starts.ne (by decide) (by decide)
  have quoted : c ≠ '"' := starts.ne (by decide) (by decide)
  have literal : c ≠ '\'' := starts.ne (by decide) (by decide)
  unfold scalar
  dsimp only
  split
  next same => exact absurd (List.cons.inj same).1 quoted
  next same => exact absurd (List.cons.inj same).1 literal
  next =>
    split
    next found => exact absurd found (noWord 't' _ noTrue rfl)
    next found => exact absurd found (noWord 'f' _ noFalse rfl)
    next => rfl

theorem isForbidden_of_mem_chars {c : Char} (member : c ∈ numeral.chars) :
    isForbidden c = false := by
  simp only [Numeral.chars, List.mem_append] at member
  rcases member with (whole | fraction) | exponent
  · exact isForbidden_of_isDigit (numeral.isDigit_of_mem_whole c whole)
  · have all := numeral.isDigit_of_mem_fraction
    cases known : numeral.fraction with
    | nil =>
        rw [known] at fraction
        cases fraction
    | cons d found =>
        rw [known] at fraction all
        rcases List.mem_cons.1 fraction with rfl | inside
        · decide
        · exact isForbidden_of_isDigit (all c inside)
  · cases known : numeral.exponent with
    | none =>
        rw [known] at exponent
        cases exponent
    | some k =>
        obtain ⟨found, spelled, _, all, _⟩ := Binary64.exists_powered k
        rw [known, spelled] at exponent
        rcases List.mem_cons.1 exponent with rfl | inside
        · decide
        · rcases List.mem_cons.1 inside with rfl | inside
          · split <;> decide
          · exact isForbidden_of_isDigit (all c inside)

theorem StartsNumeral.isBlank {c : Char} (starts : StartsNumeral c) : isBlank c = false := by
  have noSpace : c ≠ ' ' := starts.ne (by decide) (by decide)
  have noTab : c ≠ '\t' := starts.ne (by decide) (by decide)
  simp [Toml.isBlank, noSpace, noTab]

variable {negative numeral} {v : Value}

/-- A numeral spells the value that its parts have. -/
theorem spells_signed (canonical : IsCanonical numeral.whole)
    (given : decimalOf negative numeral.whole (pointed numeral.fraction)
      (powered numeral.exponent) = pure v) : Spells (signed negative numeral.chars) v := by
  obtain ⟨c, others, starts, spelled⟩ :
      ∃ c others, StartsNumeral c ∧ signed negative numeral.chars = c :: others := by
    obtain ⟨c, others, spelled, digit⟩ := exists_digit numeral
    cases negative with
    | true => exact ⟨'-', _, Or.inr rfl, rfl⟩
    | false => exact ⟨c, others, Or.inl digit, spelled⟩
  refine ⟨fun fuel rest => ?_, fun d member => ?_, fun d head => ?_⟩
  · have behind : signed negative numeral.chars ++ '\n' :: rest =
        signed negative (numeral.chars ++ '\n' :: rest) := by
      cases negative <;> rfl
    have measured := measurement_chars negative numeral canonical rest
    rw [decimal_chars negative numeral canonical, given, ← behind, spelled,
      List.cons_append] at measured
    rw [spelled, List.cons_append, value_of_scalar (starts.ne (by decide) (by decide))
      (starts.ne (by decide) (by decide)), scalar_of_startsNumeral starts, measured]
    rfl
  · cases negative with
    | true =>
        rcases List.mem_cons.1 member with rfl | inside
        · decide
        · exact isForbidden_of_mem_chars numeral inside
    | false => exact isForbidden_of_mem_chars numeral member
  · rw [spelled] at head
    obtain rfl := Option.some.inj head
    exact starts.isBlank

/-! ### Integers -/

/-- The digits of a number without fraction and exponent. -/
def wholeNumeral (n : Nat) : Numeral where
  whole := Nat.toDigits 10 n
  fraction := []
  exponent := none
  whole_ne_nil := Nat.toDigits_ne_nil
  isDigit_of_mem_whole _ member := Binary64.isDigit_of_mem_toDigits member
  isDigit_of_mem_fraction _ member := absurd member List.not_mem_nil
  natAbs_exponent_lt := nofun

theorem isCanonical_toDigits (n : Nat) : IsCanonical (Nat.toDigits 10 n) := by
  intro zero
  rw [Token.eq_zero_of_head?_toDigits zero]
  rfl

theorem toList_toString_int (n : Int) :
    (toString n).toList = signed (decide (n < 0)) (wholeNumeral n.natAbs).chars := by
  have chars (m : Nat) : (wholeNumeral m).chars = (toString m).toList := by
    simp [Numeral.chars, wholeNumeral, pointed, powered]
  rw [chars]
  cases n with
  | ofNat m => rfl
  | negSucc m =>
      have text : toString (Int.negSucc m) = "-" ++ toString (m + 1) := rfl
      rw [text, String.toList_append, decide_eq_true (Int.negSucc_lt_zero m)]
      rfl

/-- An integer with few enough digits is spelled by them. -/
theorem spells_integer {n : Int} (short : n.natAbs < Value.numeralBound) :
    Spells (toString n).toList (.int n) := by
  rw [toList_toString_int]
  refine spells_signed (isCanonical_toDigits _) ?_
  have few : ¬ Value.longestNumeral < (Nat.toDigits 10 n.natAbs).length := by
    have some : 0 < Value.longestNumeral := by decide
    unfold Value.numeralBound at short
    -- The bound is a power that must not be evaluated.
    generalize Value.longestNumeral = k at short some ⊢
    rw [not_lt, Nat.length_toDigits_le_iff (by decide) some]
    exact short
  have magnitude : (if n < 0 then -(n.natAbs : Int) else n.natAbs) = n := by
    split <;> omega
  change decimalOf (decide (n < 0)) (Nat.toDigits 10 n.natAbs) [] [] = _
  unfold decimalOf
  rw [if_pos (by decide), if_neg few, Binary64.digitsValue_toDigits]
  simp only [decide_eq_true_eq, magnitude]

/-! ### Floating numbers -/

open Binary64 (positional scientific)

/-- Whether a text does not start with a zero that could be left out. -/
def StartsCanonically (text : List Char) : Prop :=
  ∀ rest, text = '0' :: rest → ∀ c ∈ rest.head?, c.isDigit = false

theorem startsCanonically_of_head? {text : List Char} (other : text.head? ≠ some '0') :
    StartsCanonically text := by
  rintro rest rfl
  exact absurd rfl other

theorem head?_toDigits_ne {n : Nat} (some : n ≠ 0) : (Nat.toDigits 10 n).head? ≠ .some '0' :=
  fun zero => some (Token.eq_zero_of_head?_toDigits zero)

theorem startsCanonically_positional {n : Nat} (some : n ≠ 0) (point : Int) :
    StartsCanonically (positional (toString n) point).toList := by
  have head := head?_toDigits_ne some
  obtain ⟨c, others, spelled⟩ := List.exists_cons_of_ne_nil (Nat.toDigits_ne_nil (b := 10) (n := n))
  unfold positional
  split
  next =>
    rintro rest same d head'
    rw [String.toList_append, String.toList_append] at same
    obtain ⟨_, rfl⟩ := List.cons.inj same
    cases head'
    decide
  next large =>
    refine startsCanonically_of_head? ?_
    dsimp only
    split
    next =>
      rw [String.toList_append, String.toList_append, Binary64.toList_toString, spelled]
      rw [spelled] at head
      exact head
    next =>
      obtain ⟨k, whole⟩ : ∃ k, point.toNat = k + 1 := ⟨point.toNat - 1, by omega⟩
      rw [String.toList_append, String.toList_append, Binary64.toList_toString, spelled, whole,
        String.toList_ofList]
      rw [spelled] at head
      exact head

theorem startsCanonically_scientific {n : Nat} (some : n ≠ 0) (exponent : Int) :
    StartsCanonically (scientific (toString n) exponent).toList := by
  have head := head?_toDigits_ne some
  refine startsCanonically_of_head? ?_
  unfold scientific
  rw [Binary64.toList_toString, String.toList_append]
  cases spelled : Nat.toDigits 10 n with
  | nil => exact absurd spelled Nat.toDigits_ne_nil
  | cons c others =>
      rw [spelled] at head
      cases others with
      | nil =>
          dsimp only
          rw [String.toList_singleton]
          exact head
      | cons d others =>
          dsimp only
          rw [String.toList_append, String.toList_append, String.toList_singleton]
          exact head

theorem startsCanonically_unsignedText (x : Binary64) :
    StartsCanonically x.unsignedText.toList := by
  unfold Binary64.unsignedText
  dsimp only
  by_cases zero : x.shortest.digits = 0
  · rw [if_pos zero]
    rintro rest same c head
    obtain ⟨_, rfl⟩ := List.cons.inj same
    cases head
    decide
  · rw [if_neg zero]
    split
    · exact startsCanonically_positional zero _
    · exact startsCanonically_scientific zero _

theorem isCanonical_of_startsCanonically (starts : StartsCanonically numeral.chars) :
    IsCanonical numeral.whole := by
  intro zero
  obtain ⟨c, found, whole⟩ := List.exists_cons_of_ne_nil numeral.whole_ne_nil
  rw [whole] at zero ⊢
  obtain rfl := Option.some.inj zero
  cases found with
  | nil => rfl
  | cons d found =>
      have digit := numeral.isDigit_of_mem_whole d (by simp [whole])
      have noDigit := starts (d :: found ++ pointed numeral.fraction ++ powered numeral.exponent)
        (by simp [Numeral.chars, whole]) d rfl
      exact absurd digit (by rw [noDigit]; decide)

theorem decimalOf_of_isReal (isReal : numeral.IsReal) (negative : Bool) {x : Binary64}
    (read : Binary64.ofUnsigned? false numeral.chars = some x) :
    decimalOf negative numeral.whole (pointed numeral.fraction) (powered numeral.exponent) =
      pure (.float (if negative then x.negate else x)) := by
  have real : ¬ ((pointed numeral.fraction).isEmpty &&
      (powered numeral.exponent).isEmpty) = true := by
    rw [Bool.and_eq_true, List.isEmpty_iff, List.isEmpty_iff]
    rintro ⟨noFraction, noExponent⟩
    rcases isReal with fraction | exponent
    · rw [Binary64.pointed_of_ne_nil fraction] at noFraction
      cases noFraction
    · obtain ⟨k, known⟩ := Option.isSome_iff_exists.1 exponent
      obtain ⟨found, spelled, _⟩ := Binary64.exists_powered k
      rw [known, spelled] at noExponent
      cases noExponent
  have number : Binary64.ofNumeral? numeral.chars = some x := by
    obtain ⟨c, others, spelled, digit⟩ := exists_digit numeral
    rw [spelled] at read ⊢
    unfold Binary64.ofNumeral?
    split
    next same => exact absurd (List.cons.inj same).1 (ne_of_isDigit digit (by decide))
    next same => exact absurd (List.cons.inj same).1 (ne_of_isDigit digit (by decide))
    next => exact read
  unfold decimalOf
  rw [if_neg real, show numeral.whole ++ pointed numeral.fraction ++ powered numeral.exponent =
    numeral.chars from rfl, number]
  rfl

theorem negate_absolute {x : Binary64} (finite : x.isFinite = true) :
    (if x.isNegative then x.absolute.negate else x.absolute) = x := by
  cases x with
  | finite negative significand exponent stored => cases negative <;> rfl
  | _ => cases finite

/-- The words for what is beyond all numbers. -/
theorem spells_infinite (negative : Bool) :
    Spells (Binary64.infinite negative).text.toList (.float (.infinite negative)) := by
  cases negative with
  | true =>
      exact ⟨fun fuel rest => rfl, allowed_of_any (by decide), notBlank_of_cons (by decide)⟩
  | false =>
      exact ⟨fun fuel rest => rfl, allowed_of_any (by decide), notBlank_of_cons (by decide)⟩

/-- A number is spelled by its text, be it finite or not. -/
theorem spells_float {x : Binary64} (isNumber : x ≠ .nan) : Spells x.text.toList (.float x) := by
  by_cases finite : x.isFinite = true
  · obtain ⟨numeral, isReal, spelled, read⟩ := Binary64.exists_numeral finite
    have same : x.unsignedText.toList = numeral.chars :=
      List.append_cancel_left ((Binary64.toList_text finite).symm.trans spelled)
    have starts : StartsCanonically numeral.chars := same ▸ startsCanonically_unsignedText x
    have text : x.text.toList = signed x.isNegative numeral.chars := by
      rw [spelled, signed]
      split <;> rfl
    rw [text]
    refine spells_signed (isCanonical_of_startsCanonically starts) ?_
    rw [decimalOf_of_isReal isReal x.isNegative read, negate_absolute finite]
  · cases x with
    | finite negative significand exponent stored => exact absurd rfl finite
    | infinite negative => exact spells_infinite negative
    | nan => exact absurd rfl isNumber

/-! ### Truth values -/

theorem spells_truth (b : Bool) :
    Spells (if b then "true" else "false").toList (.bool b) := by
  cases b with
  | true => exact ⟨fun fuel rest => rfl, allowed_of_any (by decide), notBlank_of_cons (by decide)⟩
  | false => exact ⟨fun fuel rest => rfl, allowed_of_any (by decide), notBlank_of_cons (by decide)⟩

/-! ### Texts -/

/-- A character with a backslash in front if it could not stand in a text otherwise. -/
def escapedChar (c : Char) : List Char :=
  if c = '\\' || c = '"' then ['\\', c] else [c]

def escaped (chars : List Char) : List Char :=
  chars.flatMap escapedChar

theorem escaped_cons (c : Char) (chars : List Char) :
    escaped (c :: chars) = escapedChar c ++ escaped chars := rfl

/-- A text is read up to its last quote, unless there is a control character in it. -/
theorem basicText?_escaped {fuel : Nat} (read chars rest : List Char)
    (enough : chars.length < fuel) :
    basicText? fuel read (escaped chars ++ '"' :: rest) =
      if chars.any isForbidden then none
      else some (String.ofList (read.reverse ++ chars), rest) := by
  -- Every step takes one character of the text, be it marked or not, and puts it before the
  -- others that have been read.
  induction chars generalizing fuel read with
  | nil =>
      obtain ⟨fuel, rfl⟩ := Nat.exists_eq_succ_of_ne_zero (Nat.ne_zero_of_lt enough)
      simp [escaped, basicText?]
  | cons c chars ih =>
      obtain ⟨fuel, rfl⟩ := Nat.exists_eq_succ_of_ne_zero (Nat.ne_zero_of_lt enough)
      have later := ih (c :: read) (Nat.lt_of_succ_lt_succ enough)
      rw [escaped_cons]
      by_cases marked : c = '\\' ∨ c = '"'
      · have step : basicText? (fuel + 1) read (escapedChar c ++ escaped chars ++ '"' :: rest) =
            basicText? fuel (c :: read) (escaped chars ++ '"' :: rest) := by
          rcases marked with rfl | rfl <;> rfl
        have allowed : isForbidden c = false := by
          rcases marked with rfl | rfl <;> decide
        rw [step, later, List.any_cons, allowed]
        simp
      · obtain ⟨noBackslash, noQuote⟩ := not_or.1 marked
        have step : basicText? (fuel + 1) read (escapedChar c ++ escaped chars ++ '"' :: rest) =
            if isForbidden c then none
            else basicText? fuel (c :: read) (escaped chars ++ '"' :: rest) := by
          unfold escapedChar
          rw [if_neg (by simp [noBackslash, noQuote]), List.singleton_append, List.cons_append,
            basicText?]
          · exact noQuote
          · exact noBackslash
        rw [step, later, List.any_cons]
        cases isForbidden c <;> simp

theorem length_le_length_escaped (chars : List Char) : chars.length ≤ (escaped chars).length := by
  induction chars with
  | nil => exact le_rfl
  | cons c chars ih =>
      have some : 1 ≤ (escapedChar c).length := by
        unfold escapedChar
        split <;> simp
      rw [escaped_cons, List.length_append, List.length_cons]
      omega

/-- A text in quotes does not start as one of several lines. -/
theorem not_threeQuotes {chars rest after : List Char} (noQuote : rest.head? ≠ some '"') :
    escaped chars ++ '"' :: rest ≠ '"' :: '"' :: after := by
  intro same
  cases chars with
  | nil =>
      obtain ⟨_, same⟩ := List.cons.inj same
      exact noQuote (by rw [same]; rfl)
  | cons c chars =>
      rw [escaped_cons] at same
      unfold escapedChar at same
      split at same
      next => exact absurd (List.cons.inj same).1 (by decide)
      next unmarked =>
        obtain rfl := (List.cons.inj same).1
        exact unmarked (by decide)

theorem text?_quoted (chars rest : List Char) (noQuote : rest.head? ≠ some '"') :
    text? ('"' :: (escaped chars ++ '"' :: rest)) =
      if chars.any isForbidden then none else some (String.ofList chars, rest) := by
  have enough : chars.length < ('"' :: (escaped chars ++ '"' :: rest)).length + 1 := by
    have longer := length_le_length_escaped chars
    simp only [List.length_cons, List.length_append]
    omega
  have read := basicText?_escaped [] chars rest enough
  unfold text?
  dsimp only
  split
  next same => exact absurd (List.cons.inj same).2 (not_threeQuotes noQuote)
  next same => exact absurd (List.cons.inj same).1 (by decide)
  next same =>
    obtain ⟨_, rfl⟩ := List.cons.inj same
    exact read
  next same => exact absurd (List.cons.inj same).1 (by decide)
  next _ _ other _ => exact absurd rfl (other _)

/-- A text in quotes is read back, unless there is a control character in it. -/
theorem value_quoted (fuel : Nat) (chars rest : List Char) (noQuote : rest.head? ≠ some '"') :
    (value (fuel + 1) ('"' :: (escaped chars ++ '"' :: rest))).run =
      if chars.any isForbidden then none
      else some (.ok (.str (String.ofList chars), rest)) := by
  rw [value_of_scalar (by decide) (by decide)]
  change (liftM (text? ('"' :: (escaped chars ++ '"' :: rest))) >>= fun found =>
    (pure (Value.str found.1, found.2) : Reading (Value × List Char))).run = _
  rw [text?_quoted chars rest noQuote]
  split <;> rfl

theorem allowed_of_mem_escaped {chars : List Char} (allowed : ∀ c ∈ chars, isForbidden c = false)
    {c : Char} (member : c ∈ escaped chars) : isForbidden c = false := by
  obtain ⟨d, inside, here⟩ := List.mem_flatMap.1 member
  unfold escapedChar at here
  split at here
  · rcases List.mem_cons.1 here with rfl | last
    · decide
    · rw [List.mem_singleton.1 last]
      exact allowed d inside
  · rw [List.mem_singleton.1 here]
    exact allowed d inside

theorem spells_text {s : String} (allowed : ∀ c ∈ s.toList, isForbidden c = false) :
    Spells ('"' :: (escaped s.toList ++ ['"'])) (.str s) := by
  have none : ¬ s.toList.any isForbidden = true := by
    rw [List.any_eq_true]
    rintro ⟨c, member, forbidden⟩
    rw [allowed c member] at forbidden
    cases forbidden
  refine ⟨fun fuel rest => ?_, ?_, ?_⟩
  · have read := value_quoted fuel s.toList ('\n' :: rest)
      (fun same => absurd (Option.some.inj same) (by decide))
    rw [if_neg none, String.ofList_toList] at read
    rw [List.cons_append, List.append_assoc]
    exact read
  · intro c member
    rcases List.mem_cons.1 member with rfl | inside
    · decide
    · rcases List.mem_append.1 inside with inner | last
      · exact allowed_of_mem_escaped allowed inner
      · rw [List.mem_singleton.1 last]
        decide
  · exact notBlank_of_cons (by decide)

end FunctionSynthesis.Toml
