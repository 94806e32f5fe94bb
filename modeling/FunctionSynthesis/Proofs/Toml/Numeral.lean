import FunctionSynthesis.Proofs.Expression.Spelling
import FunctionSynthesis.Proofs.Toml.Document

/-!
# Numerals in TOML

A numeral without a zero that could be left out is read up to the end of its line
(`measurement_chars`). It is neither a day nor a time, nor a number to another base, since only a
point, an exponent or the end of the line stands behind its digits.
-/

namespace FunctionSynthesis.Toml

/-! ### Digits -/

/-- What may follow a numeral. -/
def Stops (rest : List Char) : Prop :=
  ∀ c ∈ rest.head?, c.isDigit = false ∧ c ≠ '_'

theorem digits_append {found rest : List Char} (all : ∀ c ∈ found, c.isDigit = true)
    (stops : Stops rest) : digits Char.isDigit (found ++ rest) = (found, rest) :=
  Binary64.takeDigits_append all fun c head => (stops c head).1

theorem digitGroups?_append {found rest : List Char} (some : found ≠ [])
    (all : ∀ c ∈ found, c.isDigit = true) (stops : Stops rest) (fuel : Nat) :
    digitGroups? Char.isDigit (fuel + 1) (found ++ rest) = .some (found, rest) := by
  rw [digitGroups?, digits_append all stops]
  cases found with
  | nil => exact absurd rfl some
  | cons c found =>
      cases rest with
      | nil => rfl
      | cons d rest =>
          split
          next same => cases same
          next same =>
            obtain ⟨_, same⟩ := Prod.mk.inj same
            obtain ⟨rfl, _⟩ := List.cons.inj same
            exact absurd rfl (stops _ rfl).2
          next same => rw [← same]

/-! ### Numerals -/

open Binary64 (Numeral pointed powered)

/-- Whether digits have no zero in front that could be left out. -/
def IsCanonical (found : List Char) : Prop :=
  found.head? = some '0' → found = ['0']

theorem wholePart?_append {found rest : List Char} (some : found ≠ [])
    (all : ∀ c ∈ found, c.isDigit = true) (canonical : IsCanonical found) (stops : Stops rest) :
    wholePart? (found ++ rest) = .some (found, rest) := by
  unfold wholePart?
  split
  next others same =>
    cases found with
    | nil => exact absurd rfl some
    | cons c found =>
        obtain ⟨rfl, tail⟩ := List.cons.inj same
        obtain ⟨_, rfl⟩ := List.cons.inj (canonical rfl)
        rw [← tail]
        rfl
  next => exact digitGroups?_append some all stops _

theorem fractionPart_pointed {found rest : List Char} (all : ∀ c ∈ found, c.isDigit = true)
    (stops : Stops rest) (noPoint : rest.head? ≠ some '.') :
    fractionPart (pointed found ++ rest) = (pointed found, rest) := by
  cases found with
  | nil =>
      change fractionPart rest = ([], rest)
      unfold fractionPart
      split
      next others => exact absurd rfl noPoint
      next => rfl
  | cons c found =>
      change fractionPart ('.' :: ((c :: found) ++ rest)) = _
      rw [fractionPart, digitGroups?_append (List.cons_ne_nil c found) all stops]
      rfl

theorem exponentPart_powered (exponent : Option Int) {rest : List Char} (stops : Stops rest)
    (noExponent : ∀ c ∈ rest.head?, c ≠ 'e' ∧ c ≠ 'E') :
    exponentPart (powered exponent ++ rest) = (powered exponent, rest) := by
  cases exponent with
  | none =>
      change exponentPart rest = ([], rest)
      unfold exponentPart
      split
      next e others =>
        obtain ⟨small, capital⟩ := noExponent e rfl
        rw [if_neg (by simp [small, capital])]
      next => rfl
  | some k =>
      obtain ⟨found, spelled, some, all, _⟩ := Binary64.exists_powered k
      rw [spelled]
      have groups := digitGroups?_append some all stops (found ++ rest).length
      have read (c : Char) (isSign : c = '-' ∨ c = '+') :
          exponentPart ('e' :: c :: (found ++ rest)) = ('e' :: c :: found, rest) := by
        unfold exponentPart
        rcases isSign with rfl | rfl
        · simp only [groups]
          rfl
        · simp only [groups]
          rfl
      refine read _ ?_
      split
      · exact Or.inl rfl
      · exact Or.inr rfl

/-- A sign in front of a numeral. -/
def signed (negative : Bool) (chars : List Char) : List Char :=
  if negative then '-' :: chars else chars

theorem sign_signed_cons {negative : Bool} {c : Char} (digit : c.isDigit = true)
    (rest : List Char) :
    sign (signed negative (c :: rest)) = (negative, c :: rest) := by
  cases negative with
  | true => rfl
  | false =>
      unfold sign signed
      rw [if_neg (by decide)]
      split
      next same =>
        obtain ⟨rfl, _⟩ := List.cons.inj same
        exact absurd digit (by decide)
      next same =>
        obtain ⟨rfl, _⟩ := List.cons.inj same
        exact absurd digit (by decide)
      next => rfl

variable (negative : Bool) (numeral : Numeral)

theorem exists_digit : ∃ c others, numeral.chars = c :: others ∧ c.isDigit = true := by
  obtain ⟨c, others, whole⟩ := List.exists_cons_of_ne_nil numeral.whole_ne_nil
  refine ⟨c, others ++ pointed numeral.fraction ++ powered numeral.exponent, ?_, ?_⟩
  · simp [Numeral.chars, whole]
  · exact numeral.isDigit_of_mem_whole c (by rw [whole]; exact List.mem_cons_self)

theorem sign_signed (rest : List Char) :
    sign (signed negative (numeral.chars ++ rest)) = (negative, numeral.chars ++ rest) := by
  obtain ⟨c, others, spelled, digit⟩ := exists_digit numeral
  rw [spelled, List.cons_append]
  exact sign_signed_cons digit _

theorem stops_lineEnd (rest : List Char) : Stops ('\n' :: rest) := by
  intro c head
  cases head
  decide

theorem powered_follows (rest : List Char) :
    ∃ c ∈ (powered numeral.exponent ++ '\n' :: rest).head?, c = 'e' ∨ c = '\n' := by
  cases known : numeral.exponent with
  | none => exact ⟨'\n', rfl, Or.inr rfl⟩
  | some k =>
      obtain ⟨found, spelled, _⟩ := Binary64.exists_powered k
      rw [spelled]
      exact ⟨'e', rfl, Or.inl rfl⟩

theorem pointed_follows (rest : List Char) :
    ∃ c ∈ (pointed numeral.fraction ++ (powered numeral.exponent ++ '\n' :: rest)).head?,
      c = '.' ∨ c = 'e' ∨ c = '\n' := by
  cases known : numeral.fraction with
  | nil => exact (powered_follows numeral rest).imp fun _ => And.imp_right Or.inr
  | cons c found => exact ⟨'.', rfl, Or.inl rfl⟩

/-- Neither a digit nor an underscore stands behind the digits of a numeral. -/
theorem stops_of_follows {c : Char} {rest : List Char} (head : c ∈ rest.head?)
    (follows : c = '.' ∨ c = 'e' ∨ c = '\n') : Stops rest := by
  intro d head'
  obtain rfl := Option.mem_unique head head'
  rcases follows with rfl | rfl | rfl <;> decide

theorem chars_lineEnd (rest : List Char) :
    numeral.chars ++ '\n' :: rest = numeral.whole ++ (pointed numeral.fraction ++
      (powered numeral.exponent ++ '\n' :: rest)) := by
  simp [Numeral.chars]

theorem wholePart?_chars (canonical : IsCanonical numeral.whole) (rest : List Char) :
    wholePart? (numeral.chars ++ '\n' :: rest) = some (numeral.whole,
      pointed numeral.fraction ++ (powered numeral.exponent ++ '\n' :: rest)) := by
  obtain ⟨c, head, follows⟩ := pointed_follows numeral rest
  rw [chars_lineEnd]
  exact wholePart?_append numeral.whole_ne_nil numeral.isDigit_of_mem_whole canonical
    (stops_of_follows head follows)

/-- A numeral at the end of a line is read up to there. -/
theorem decimal_chars (canonical : IsCanonical numeral.whole) (rest : List Char) :
    decimal (signed negative (numeral.chars ++ '\n' :: rest)) =
      decimalOf negative numeral.whole (pointed numeral.fraction) (powered numeral.exponent) >>=
        fun v => pure (v, '\n' :: rest) := by
  obtain ⟨c, head, follows⟩ := powered_follows numeral rest
  have noPoint : (powered numeral.exponent ++ '\n' :: rest).head? ≠ some '.' := by
    intro point
    obtain rfl := Option.some.inj (point.symm.trans head)
    exact absurd follows (by decide)
  have fraction := fractionPart_pointed numeral.isDigit_of_mem_fraction
    (stops_of_follows head (Or.inr follows)) noPoint
  have exponent := exponentPart_powered numeral.exponent (stops_lineEnd rest) (by
    intro c head
    cases head
    decide)
  unfold decimal
  rw [sign_signed]
  dsimp only
  rw [wholePart?_chars numeral canonical]
  change (decimalOf _ _ _ _ >>= _) = _
  dsimp only
  rw [fraction]
  dsimp only
  rw [exponent]

/-! ### Numbers among scalars -/

/-- A mark of another base is no part of a numeral. -/
theorem number_chars (canonical : IsCanonical numeral.whole) (rest : List Char) :
    number (signed negative (numeral.chars ++ '\n' :: rest)) =
      decimal (signed negative (numeral.chars ++ '\n' :: rest)) := by
  have noMark {d : Char} {others : List Char} (other : d = 'x' ∨ d = 'o' ∨ d = 'b') :
      signed negative (numeral.chars ++ '\n' :: rest) ≠ '0' :: d :: others := by
    obtain ⟨e, head, follows⟩ := pointed_follows numeral rest
    cases negative with
    | true => exact fun same => absurd (List.cons.inj same).1 (by decide)
    | false =>
        -- After a zero in front the digits are over, and no mark can follow them.
        intro same
        change numeral.chars ++ '\n' :: rest = _ at same
        obtain ⟨c, found, whole⟩ := List.exists_cons_of_ne_nil numeral.whole_ne_nil
        rw [chars_lineEnd, whole, List.cons_append] at same
        obtain ⟨rfl, behind⟩ := List.cons.inj same
        have single := canonical (by rw [whole]; rfl)
        obtain ⟨_, rfl⟩ := List.cons.inj (whole.symm.trans single)
        rw [List.nil_append] at behind
        rw [behind] at head
        obtain rfl := Option.some.inj head
        rcases other with rfl | rfl | rfl <;> exact absurd follows (by decide)
  unfold number
  dsimp only
  rw [sign_signed, wholePart?_chars numeral canonical]
  split
  next _ based =>
    split at based
    next same => exact absurd same (noMark (Or.inl rfl))
    next same => exact absurd same (noMark (Or.inr (Or.inl rfl)))
    next same => exact absurd same (noMark (Or.inr (Or.inr rfl)))
    next => cases based
  next => rfl
  next none => cases none

theorem fixedNumber?_eq_some {width n : Nat} {chars after : List Char}
    (read : fixedNumber? width chars = some (n, after)) :
    (∀ c ∈ chars.take width, c.isDigit = true) ∧ (chars.take width).length = width ∧
      after = chars.drop width := by
  obtain ⟨_, isNumber, read⟩ := Option.bind_eq_some_iff.1 read
  obtain ⟨length, all⟩ := (Option.guard_eq_some' _).1 isNumber
  obtain ⟨-, rfl⟩ := Prod.mk.inj (Option.some.inj read)
  exact ⟨List.all_eq_true.1 all, length, rfl⟩

/-- A mark does not stand within or right behind the digits of a numeral. -/
theorem mark?_of_fixedNumber? {mark c : Char} {whole tail after : List Char} {width n : Nat}
    (all : ∀ d ∈ whole, d.isDigit = true) (head : c ∈ tail.head?) (notDigit : c.isDigit = false)
    (other : c ≠ mark) (noDigit : mark.isDigit = false)
    (read : fixedNumber? width (whole ++ tail) = some (n, after)) : mark? mark after = none := by
  obtain ⟨digits, length, rfl⟩ := fixedNumber?_eq_some read
  obtain ⟨others, rfl⟩ : ∃ others, tail = c :: others := by
    cases tail with
    | nil => cases head
    | cons d others => exact ⟨others, by rw [Option.some.inj head]⟩
  -- If the digits reached beyond the numeral, what follows it would be one of them.
  have within : width ≤ whole.length := by
    by_contra beyond
    have inside : c ∈ (whole ++ c :: others).take width := by
      rw [List.take_append]
      refine List.mem_append_right _ ?_
      obtain ⟨k, more⟩ : ∃ k, width - whole.length = k + 1 := ⟨width - whole.length - 1, by omega⟩
      rw [more]
      exact List.mem_cons_self
    exact absurd (digits c inside) (by rw [notDigit]; decide)
  rw [List.drop_append_of_le_length within]
  cases left : whole.drop width with
  | nil => exact if_neg (Ne.symm other)
  | cons d more =>
      refine if_neg ?_
      rintro rfl
      have digit := all mark (List.mem_of_mem_drop (by rw [left]; exact List.mem_cons_self))
      exact absurd digit (by rw [noDigit]; decide)

/-- A mark does not stand within or right behind the first digits of a numeral. -/
theorem mark?_of_signed {mark : Char} {rest after : List Char} {width n : Nat}
    (some : 0 < width) (noDigit : mark.isDigit = false)
    (other : mark ≠ '.' ∧ mark ≠ 'e' ∧ mark ≠ '\n')
    (read : fixedNumber? width (signed negative (numeral.chars ++ '\n' :: rest)) =
      .some (n, after)) : mark? mark after = none := by
  cases negative with
  | true =>
      obtain ⟨digits, _⟩ := fixedNumber?_eq_some read
      obtain ⟨k, rfl⟩ := Nat.exists_eq_succ_of_ne_zero some.ne'
      exact absurd (digits '-' List.mem_cons_self) (by decide)
  | false =>
      obtain ⟨c, head, follows⟩ := pointed_follows numeral rest
      change fixedNumber? width (numeral.chars ++ '\n' :: rest) = _ at read
      rw [chars_lineEnd] at read
      obtain ⟨notDigit, notMark⟩ : c.isDigit = false ∧ c ≠ mark := by
        obtain ⟨point, exponent, lineEnd⟩ := other
        rcases follows with rfl | rfl | rfl
        · exact ⟨by decide, point.symm⟩
        · exact ⟨by decide, exponent.symm⟩
        · exact ⟨by decide, lineEnd.symm⟩
      exact mark?_of_fixedNumber? numeral.isDigit_of_mem_whole head notDigit notMark noDigit read

/-- What is a numeral is no day. -/
theorem moment?_chars (rest : List Char) :
    moment? (signed negative (numeral.chars ++ '\n' :: rest)) = none := by
  have noDay : day? (signed negative (numeral.chars ++ '\n' :: rest)) = none := by
    unfold day?
    cases read : fixedNumber? 4 (signed negative (numeral.chars ++ '\n' :: rest)) with
    | none => rfl
    | some found =>
        have noMark : mark? '-' found.2 = none :=
          mark?_of_signed negative numeral (by decide) (by decide) (by decide) read
        change (mark? '-' found.2 >>= _) = none
        rw [noMark]
        rfl
  unfold moment?
  rw [noDay]
  rfl

/-- What is a numeral is no time. -/
theorem time?_chars (rest : List Char) :
    time? (signed negative (numeral.chars ++ '\n' :: rest)) = none := by
  unfold time?
  cases read : fixedNumber? 2 (signed negative (numeral.chars ++ '\n' :: rest)) with
  | none => rfl
  | some found =>
      have noMark : mark? ':' found.2 = none :=
        mark?_of_signed negative numeral (by decide) (by decide) (by decide) read
      change (mark? ':' found.2 >>= _) = none
      rw [noMark]
      rfl

theorem measurement_chars (canonical : IsCanonical numeral.whole) (rest : List Char) :
    measurement (signed negative (numeral.chars ++ '\n' :: rest)) =
      decimal (signed negative (numeral.chars ++ '\n' :: rest)) := by
  unfold measurement
  rw [moment?_chars, time?_chars]
  exact number_chars negative numeral canonical rest

end FunctionSynthesis.Toml
