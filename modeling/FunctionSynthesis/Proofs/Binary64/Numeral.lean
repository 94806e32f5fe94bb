import FunctionSynthesis.Proofs.Binary64.Decimal

/-!
# Numerals

The text of a finite number is a numeral of three parts: digits, a fraction behind a
point and an exponent. Whatever the layout, the numeral reads back to the number
(`exists_numeral`).
-/

namespace FunctionSynthesis.Binary64

/-! ### Digits -/

theorem takeDigits_append {digits rest : List Char} (all : ∀ c ∈ digits, c.isDigit = true)
    (stops : ∀ c ∈ rest.head?, c.isDigit = false) :
    takeDigits (digits ++ rest) = (digits, rest) := by
  have none : rest.takeWhile Char.isDigit = [] ∧ rest.dropWhile Char.isDigit = rest := by
    cases rest with
    | nil => exact ⟨rfl, rfl⟩
    | cons c rest => simp [stops c rfl]
  unfold takeDigits
  rw [List.takeWhile_append_of_pos all, List.dropWhile_append_of_pos all, none.1, none.2,
    List.append_nil]

theorem digitsValue_eq (digits : List Char) :
    digitsValue digits = Nat.ofDigitChars 10 digits 0 := by
  rw [Nat.ofDigitChars_eq_foldl]
  unfold digitsValue
  congr 1
  funext value c
  rw [Nat.mul_comm]
  rfl

theorem digitsValue_toDigits (n : Nat) : digitsValue (Nat.toDigits 10 n) = n := by
  rw [digitsValue_eq, Nat.ofDigitChars_ten_toDigits]

theorem digitsValue_append (digits more : List Char) :
    digitsValue (digits ++ more) =
      10 ^ more.length * digitsValue digits + digitsValue more := by
  rw [digitsValue_eq, digitsValue_eq, digitsValue_eq, Nat.ofDigitChars_append,
    Nat.ofDigitChars_eq_ofDigitChars_zero]

theorem digitsValue_zeros (n : Nat) : digitsValue (List.replicate n '0') = 0 := by
  rw [digitsValue_eq, Nat.ofDigitChars_replicate_zero, Nat.mul_zero]

/-- Zeros in front of digits do not count. -/
theorem digitsValue_dropWhile (digits : List Char) :
    digitsValue (digits.dropWhile (· = '0')) = digitsValue digits := by
  induction digits with
  | nil => rfl
  | cons c digits ih =>
      by_cases zero : c = '0'
      · subst zero
        rw [List.dropWhile_cons_of_pos (by simp), ih]
        rfl
      · rw [List.dropWhile_cons_of_neg (by simpa using zero)]

theorem isDigit_of_mem_toDigits {n : Nat} {c : Char} (member : c ∈ Nat.toDigits 10 n) :
    c.isDigit = true :=
  Nat.isDigit_of_mem_toDigits (by decide) (by decide) member

/-! ### Parts of numerals -/

/-- A fraction behind its point, if there is one. -/
def pointed : List Char → List Char
  | [] => []
  | digits => '.' :: digits

theorem pointed_of_ne_nil {digits : List Char} (some : digits ≠ []) :
    pointed digits = '.' :: digits := by
  cases digits with
  | nil => exact absurd rfl some
  | cons digit digits => rfl

/-- An exponent, if there is one. -/
def powered : Option Int → List Char
  | none => []
  | some exponent => (exponentText exponent).toList

theorem toList_toString (n : Nat) : (toString n).toList = Nat.toDigits 10 n := by
  rw [Nat.toString_eq_ofList_toDigits, String.toList_ofList]

/-- The sign and the digits of an exponent. -/
theorem exists_powered (exponent : Int) :
    ∃ digits, powered (some exponent) =
        'e' :: (if exponent < 0 then '-' else '+') :: digits ∧ digits ≠ [] ∧
      (∀ c ∈ digits, c.isDigit = true) ∧ digitsValue digits = exponent.natAbs ∧
      digits.dropWhile (· = '0') = (Nat.toDigits 10 exponent.natAbs).dropWhile (· = '0') := by
  have sign : ("e" ++ if exponent < 0 then "-" else "+").toList =
      ['e', if exponent < 0 then '-' else '+'] := by
    split <;> rfl
  have split (padding : String) : ("e" ++ (if exponent < 0 then "-" else "+") ++
      (padding ++ toString exponent.natAbs)).toList =
      'e' :: (if exponent < 0 then '-' else '+') ::
        (padding.toList ++ Nat.toDigits 10 exponent.natAbs) := by
    rw [String.toList_append, sign, String.toList_append, toList_toString]
    rfl
  unfold powered exponentText
  dsimp only
  by_cases short : (toString exponent.natAbs).length < 2
  · rw [if_pos short]
    have padding : "0".toList = ['0'] := rfl
    refine ⟨_, split "0", by simp [padding], ?_, ?_, ?_⟩
    · intro c member
      rcases List.mem_append.1 member with zero | digit
      · obtain rfl := List.mem_singleton.1 zero
        rfl
      · exact isDigit_of_mem_toDigits digit
    · rw [digitsValue_append, digitsValue_toDigits]
      simp [digitsValue]
    · rw [padding]
      rfl
  · rw [if_neg short]
    have unpadded := split ""
    rw [String.empty_append] at unpadded
    exact ⟨_, unpadded, Nat.toDigits_ne_nil, fun c => isDigit_of_mem_toDigits,
      digitsValue_toDigits _, rfl⟩

theorem exponentPart?_powered {exponent : Option Int}
    (small : ∀ k ∈ exponent, k.natAbs < 10 ^ 12) :
    exponentPart? (powered exponent) = some (exponent.getD 0) := by
  cases exponent with
  | none => rfl
  | some k =>
      obtain ⟨digits, written, some, all, value, trimmed⟩ := exists_powered k
      have fits : ¬ 12 < (digits.dropWhile (· = '0')).length := by
        have shorter : ((Nat.toDigits 10 k.natAbs).dropWhile (· = '0')).length ≤
            (Nat.toDigits 10 k.natAbs).length := List.Sublist.length_le (List.dropWhile_sublist _)
        have bounded := (Nat.length_toDigits_le_iff (b := 10) (by decide) (by decide)).2
          (small k rfl)
        rw [trimmed]
        omega
      have isDigits : (digits.isEmpty || !digits.all Char.isDigit) = false := by
        simpa [some] using all
      rw [written]
      unfold exponentPart?
      by_cases negative : k < 0
      · simp only [negative, if_true, isDigits]
        simp only [if_neg fits, digitsValue_dropWhile, value]
        have same : -(k.natAbs : Int) = k := by omega
        rw [same]
        rfl
      · simp only [negative, if_false, isDigits]
        simp only [if_neg fits, digitsValue_dropWhile, value]
        have same : (k.natAbs : Int) = k := by omega
        rw [same]
        rfl

/-- A numeral without a sign in parts. -/
structure Numeral where
  whole : List Char
  fraction : List Char
  exponent : Option Int
  whole_ne_nil : whole ≠ []
  isDigit_of_mem_whole : ∀ c ∈ whole, c.isDigit = true
  isDigit_of_mem_fraction : ∀ c ∈ fraction, c.isDigit = true
  /-- An exponent has few enough digits to be read. -/
  natAbs_exponent_lt : ∀ k ∈ exponent, k.natAbs < 10 ^ 12

namespace Numeral

def chars (numeral : Numeral) : List Char :=
  numeral.whole ++ pointed numeral.fraction ++ powered numeral.exponent

/-- The decimal that a numeral is read as. -/
def decimal (numeral : Numeral) : Decimal where
  digits := digitsValue (numeral.whole ++ numeral.fraction)
  exponent := numeral.exponent.getD 0 - numeral.fraction.length

/-- Whether a numeral has a fraction or an exponent. -/
def IsReal (numeral : Numeral) : Prop :=
  numeral.fraction ≠ [] ∨ numeral.exponent.isSome = true

variable (numeral : Numeral)

theorem exponent_stops : ∀ c ∈ (powered numeral.exponent).head?, c.isDigit = false ∧ c ≠ '.' := by
  intro c head
  cases known : numeral.exponent with
  | none =>
      rw [known] at head
      cases head
  | some k =>
      obtain ⟨digits, written, _⟩ := exists_powered k
      rw [known, written] at head
      cases head
      decide

theorem fraction_stops : ∀ c ∈ (pointed numeral.fraction ++ powered numeral.exponent).head?,
    c.isDigit = false := by
  intro c head
  cases known : numeral.fraction with
  | nil =>
      rw [known] at head
      exact (numeral.exponent_stops c head).1
  | cons digit digits =>
      rw [known] at head
      cases head
      decide

/-- The parts of a numeral determine its value. -/
theorem ofUnsigned?_chars (negative : Bool) :
    ofUnsigned? negative numeral.chars = some (ofDecimal negative numeral.decimal) := by
  have exponents := exponentPart?_powered numeral.natAbs_exponent_lt
  have whole := takeDigits_append numeral.isDigit_of_mem_whole numeral.fraction_stops
  have some := numeral.whole_ne_nil
  unfold ofUnsigned? chars decimal
  rw [List.append_assoc, whole]
  dsimp only
  cases known : numeral.fraction with
  | nil =>
      have unpointed : pointed [] ++ powered numeral.exponent = powered numeral.exponent := rfl
      rw [unpointed]
      split
      next more isPoint =>
        have head := numeral.exponent_stops '.' (by rw [isPoint]; rfl)
        exact absurd rfl head.2
      next =>
        rw [if_neg (by simp [some]), exponents]
        rfl
  | cons digit digits =>
      have pointedParts : pointed (digit :: digits) ++ powered numeral.exponent =
          '.' :: ((digit :: digits) ++ powered numeral.exponent) := rfl
      have fraction := takeDigits_append (known ▸ numeral.isDigit_of_mem_fraction)
        fun c head => (numeral.exponent_stops c head).1
      rw [pointedParts]
      simp only []
      rw [fraction]
      dsimp only
      rw [if_neg (by simp), exponents]
      rfl

end Numeral

/-! ### The text of a number -/

/-- Whether a text is a numeral for what a decimal is read as. -/
def IsWritten (text : String) (decimal : Decimal) : Prop :=
  ∃ numeral : Numeral, text.toList = numeral.chars ∧ numeral.IsReal ∧
    ∀ negative, ofDecimal negative numeral.decimal = ofDecimal negative decimal

theorem isDigit_of_mem_zeros {n : Nat} {c : Char} (member : c ∈ List.replicate n '0') :
    c.isDigit = true := by
  rw [List.eq_of_mem_replicate member]
  rfl

theorem toList_zeros (n : Nat) : (zeros n).toList = List.replicate n '0' := by
  rw [zeros, String.toList_ofList]

variable (digits : Nat) {exponent : Int}

/-- A decimal below one is written with zeros behind the point. -/
theorem isWritten_below (small : ((Nat.toDigits 10 digits).length : Int) + exponent ≤ 0) :
    IsWritten ("0." ++ zeros (-(((Nat.toDigits 10 digits).length : Int) + exponent)).toNat ++
      toString digits) ⟨digits, exponent⟩ := by
  obtain ⟨k, count⟩ : ∃ k, (-(((Nat.toDigits 10 digits).length : Int) + exponent)).toNat = k :=
    ⟨_, rfl⟩
  have someDigits : Nat.toDigits 10 digits ≠ [] := Nat.toDigits_ne_nil
  rw [count]
  refine ⟨⟨['0'], List.replicate k '0' ++ Nat.toDigits 10 digits, none, by simp, by simp, ?_,
    by simp⟩, ?_, Or.inl (by simp [someDigits]), fun negative => ?_⟩
  · intro c member
    exact (List.mem_append.1 member).elim isDigit_of_mem_zeros isDigit_of_mem_toDigits
  · rw [String.toList_append, String.toList_append, toList_zeros, toList_toString]
    unfold Numeral.chars
    dsimp only
    rw [pointed_of_ne_nil (by simp [someDigits]), powered, List.append_nil, List.append_assoc]
    rfl
  · have value : digitsValue (['0'] ++ (List.replicate k '0' ++ Nat.toDigits 10 digits)) =
        digits := by
      rw [digitsValue_append, digitsValue_append, digitsValue_zeros, digitsValue_toDigits]
      simp [digitsValue]
    unfold Numeral.decimal
    dsimp only
    rw [value]
    congr 2
    simp
    omega

/-- A whole number has its zeros before the point. -/
theorem isWritten_whole (positive : 0 ≤ exponent) :
    IsWritten (toString digits ++ zeros exponent.toNat ++ ".0") ⟨digits, exponent⟩ := by
  obtain ⟨k, rfl⟩ := Int.eq_ofNat_of_zero_le positive
  have someDigits : Nat.toDigits 10 digits ≠ [] := Nat.toDigits_ne_nil
  refine ⟨⟨Nat.toDigits 10 digits ++ List.replicate k '0', ['0'], none, by simp [someDigits], ?_,
    by simp, by simp⟩, ?_, Or.inl (by simp), fun negative => ?_⟩
  · intro c member
    exact (List.mem_append.1 member).elim isDigit_of_mem_toDigits isDigit_of_mem_zeros
  · rw [String.toList_append, String.toList_append, toList_zeros, toList_toString]
    simp [Numeral.chars, pointed, powered]
  · have value : digitsValue (Nat.toDigits 10 digits ++ List.replicate k '0' ++ ['0']) =
        digits * 10 ^ (k + 1) := by
      rw [digitsValue_append, digitsValue_append, digitsValue_zeros, digitsValue_toDigits]
      simp [digitsValue, Nat.pow_succ, Nat.mul_left_comm, Nat.mul_comm]
    unfold Numeral.decimal
    dsimp only
    rw [value, ofDecimal_shift_many]
    congr 2
    simp

/-- Other decimals have their point between two of their digits. -/
theorem isWritten_between {whole : Nat} (some : 0 < whole)
    (few : whole < (Nat.toDigits 10 digits).length)
    (point : ((Nat.toDigits 10 digits).length : Int) + exponent = whole) :
    IsWritten (String.ofList ((toString digits).toList.take whole) ++ "." ++
      String.ofList ((toString digits).toList.drop whole)) ⟨digits, exponent⟩ := by
  have behind : (Nat.toDigits 10 digits).drop whole ≠ [] := by
    rw [ne_eq, List.drop_eq_nil_iff]
    omega
  have before : (Nat.toDigits 10 digits).take whole ≠ [] := by
    rw [ne_eq, List.take_eq_nil_iff]
    rintro (none | none)
    · omega
    · exact Nat.toDigits_ne_nil none
  refine ⟨⟨_, _, none, before,
    fun c member => isDigit_of_mem_toDigits (List.mem_of_mem_take member),
    fun c member => isDigit_of_mem_toDigits (List.mem_of_mem_drop member), by simp⟩,
    ?_, Or.inl behind, fun negative => ?_⟩
  · rw [toList_toString]
    unfold Numeral.chars
    dsimp only
    rw [pointed_of_ne_nil behind, powered]
    simp
  · unfold Numeral.decimal
    dsimp only
    rw [List.take_append_drop, digitsValue_toDigits]
    congr 2
    simp
    omega

theorem isWritten_positional (digits : Nat) (exponent : Int) :
    IsWritten (positional (toString digits) ((Nat.toDigits 10 digits).length + exponent))
      ⟨digits, exponent⟩ := by
  have length : (toString digits).length = (Nat.toDigits 10 digits).length := by
    rw [← String.length_toList, toList_toString]
  unfold positional
  split
  next small => exact isWritten_below digits small
  next large =>
    dsimp only
    rw [length]
    split
    next few =>
      have count : ((Nat.toDigits 10 digits).length + exponent).toNat -
          (Nat.toDigits 10 digits).length = exponent.toNat := by omega
      rw [count]
      exact isWritten_whole digits (by omega)
    next many => exact isWritten_between digits (by omega) (by omega) (by omega)

theorem isWritten_scientific {digits : Nat} {exponent : Int}
    (small : (((Nat.toDigits 10 digits).length : Int) + exponent - 1).natAbs < 10 ^ 12) :
    IsWritten (scientific (toString digits) ((Nat.toDigits 10 digits).length + exponent - 1))
      ⟨digits, exponent⟩ := by
  have isDigit (c : Char) (member : c ∈ Nat.toDigits 10 digits) := isDigit_of_mem_toDigits member
  have value := digitsValue_toDigits digits
  unfold scientific
  rw [toList_toString]
  cases known : Nat.toDigits 10 digits with
  | nil => exact absurd known Nat.toDigits_ne_nil
  | cons d rest =>
      rw [known] at isDigit value small
      obtain ⟨digit, digits⟩ := List.forall_mem_cons.1 isDigit
      obtain ⟨power, same⟩ : ∃ power, ((d :: rest).length : Int) + exponent - 1 = power :=
        ⟨_, rfl⟩
      rw [same] at small ⊢
      refine ⟨⟨[d], rest, some power, by simp, by simpa using digit, digits,
        fun k known => ?_⟩, ?_, Or.inr rfl, fun negative => ?_⟩
      · obtain rfl := Option.some.inj known
        exact small
      · cases rest with
        | nil => simp [Numeral.chars, pointed, powered]
        | cons next rest => simp [Numeral.chars, pointed, powered]
      · unfold Numeral.decimal
        dsimp only
        rw [List.singleton_append, value]
        congr 2
        simp at same ⊢
        omega

theorem ofDecimal_zero (negative : Bool) (exponent : Int) :
    ofDecimal negative ⟨0, exponent⟩ = zero negative := by
  unfold ofDecimal
  dsimp only
  rw [if_pos rfl]

theorem isWritten_zero (exponent : Int) : IsWritten "0.0" ⟨0, exponent⟩ := by
  refine ⟨⟨['0'], ['0'], none, by simp, by simp, by simp, by simp⟩, ?_, Or.inl (by simp),
    fun negative => ?_⟩
  · simp [Numeral.chars, pointed, powered]
  · have value : digitsValue (['0'] ++ ['0']) = 0 := by decide
    unfold Numeral.decimal
    dsimp only
    rw [value, ofDecimal_zero, ofDecimal_zero]

/-! ### Reading back -/

def absolute (x : Binary64) : Binary64 :=
  if x.isNegative then x.negate else x

variable {x : Binary64}

/-- The shortest decimal of a number other than zero is within the range of numbers. -/
theorem point_bounds (finite : x.isFinite = true) (some : x.shortest.digits ≠ 0) :
    let point := ((Nat.toDigits 10 x.shortest.digits).length : Int) + x.shortest.exponent
    (-400) ≤ point ∧ point ≤ 400 := by
  intro point
  have readsBack := ofDecimal_shortest finite
  unfold ofDecimal at readsBack
  dsimp only at readsBack
  rw [if_neg some] at readsBack
  by_cases large : 400 < point
  · rw [if_pos large] at readsBack
    rw [← readsBack] at finite
    exact absurd finite Bool.false_ne_true
  · rw [if_neg large] at readsBack
    by_cases small : point < -400
    · rw [if_pos small] at readsBack
      have isZero : x.shortest.digits = 0 := by
        rw [← readsBack]
        cases x.isNegative <;> rfl
      exact absurd isZero some
    · exact ⟨not_lt.1 small, not_lt.1 large⟩

/-- The text of a finite number without its sign. -/
def unsignedText (x : Binary64) : String :=
  let digits := toString x.shortest.digits
  let point : Int := digits.length + x.shortest.exponent
  if x.shortest.digits = 0 then "0.0"
  else if -4 < point ∧ point ≤ 16 then positional digits point
  else scientific digits (point - 1)

theorem toList_text (finite : x.isFinite = true) :
    x.text.toList = (if x.isNegative then ['-'] else []) ++ x.unsignedText.toList := by
  have text : x.text = if x.isNegative then "-" ++ x.unsignedText else x.unsignedText := by
    cases x with
    | finite negative significand exponent stored => rfl
    | infinite negative => exact absurd finite Bool.false_ne_true
    | nan => exact absurd finite Bool.false_ne_true
  rw [text]
  split
  · rw [String.toList_append]
    rfl
  · rfl

theorem isWritten_unsignedText (finite : x.isFinite = true) :
    IsWritten x.unsignedText x.shortest := by
  by_cases zero : x.shortest.digits = 0
  · have noDigits := isWritten_zero x.shortest.exponent
    rw [← zero] at noDigits
    simpa only [unsignedText, if_pos zero] using noDigits
  · obtain ⟨lower, upper⟩ := point_bounds finite zero
    have length : (toString x.shortest.digits).length =
        (Nat.toDigits 10 x.shortest.digits).length := by
      rw [← toList_toString, String.length_toList]
    simp only [unsignedText, if_neg zero, length]
    split
    · exact isWritten_positional x.shortest.digits x.shortest.exponent
    · exact isWritten_scientific (by omega)

/-- The text of a finite number is a numeral behind its sign, and the numeral reads back
to the number without its sign. -/
theorem exists_numeral (finite : x.isFinite = true) :
    ∃ numeral : Numeral, numeral.IsReal ∧
      x.text.toList = (if x.isNegative then ['-'] else []) ++ numeral.chars ∧
      ofUnsigned? false numeral.chars = some x.absolute := by
  obtain ⟨numeral, spelled, isReal, readsAs⟩ := isWritten_unsignedText finite
  refine ⟨numeral, isReal, ?_, ?_⟩
  · rw [toList_text finite, ← spelled]
  · have readsBack : ofDecimal x.isNegative numeral.decimal = x := by
      rw [readsAs]
      exact ofDecimal_shortest finite
    rw [numeral.ofUnsigned?_chars, Option.some.injEq]
    unfold absolute
    cases negative : x.isNegative with
    | false =>
        rw [negative] at readsBack
        exact readsBack
    | true =>
        rw [negative] at readsBack
        rw [if_pos rfl, ← readsBack, negate_ofDecimal]
        rfl

end FunctionSynthesis.Binary64
