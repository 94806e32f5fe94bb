import FunctionSynthesis.Proofs.Expression.Token
import FunctionSynthesis.Value.Text

/-!
# Spelling

A text spells tokens if they are what it is split into in front of any text that does
not go on with its last word or numeral. Every literal, word and sign spells a token of
its own, and texts can be put together where a sign or a blank is between them.
-/

namespace FunctionSynthesis.Token

/-- Whether a text does not go on with a word, or with a numeral, before it. -/
def Breaks (numeral : Bool) (rest : List Char) : Prop :=
  ∀ c ∈ rest.head?, Text.isInWord c = false ∧ (numeral = true → c ≠ '.')

/-- Whether a text is split into tokens when what follows does not go on with it. -/
def Spells (numeral : Bool) (text : List Char) (tokens : List Token) : Prop :=
  ∀ rest, Breaks numeral rest → scan (text ++ rest) = (scan rest).map (tokens ++ ·)

/-- Whether a text is split into tokens whatever follows. -/
def Separates (text : List Char) (tokens : List Token) : Prop :=
  ∀ rest, scan (text ++ rest) = (scan rest).map (tokens ++ ·)

variable {numeral : Bool} {a b : List Char} {s t : List Token}

/-! ### Texts in a row -/

theorem Separates.spells (separates : Separates a s) : Spells numeral a s :=
  fun rest _ => separates rest

theorem Spells.weaken (spells : Spells false a s) : Spells numeral a s :=
  fun rest breaks => spells rest fun c head => ⟨(breaks c head).1, Bool.noConfusion⟩

theorem Separates.append (first : Separates a s) (second : Separates b t) :
    Separates (a ++ b) (s ++ t) := by
  intro rest
  rw [List.append_assoc, first, second, Option.map_map]
  congr 1
  funext tokens
  exact (List.append_assoc s t tokens).symm

theorem Separates.append_spells (first : Separates a s) (second : Spells numeral b t) :
    Spells numeral (a ++ b) (s ++ t) := by
  intro rest breaks
  rw [List.append_assoc, first, second rest breaks, Option.map_map]
  congr 1
  funext tokens
  exact (List.append_assoc s t tokens).symm

/-- A text may follow a word or a numeral that it does not go on with. -/
theorem Spells.append_separates (first : Spells numeral a s) (second : Separates b t)
    (some : b ≠ []) (breaks : Breaks numeral b) : Separates (a ++ b) (s ++ t) := by
  intro rest
  have still : Breaks numeral (b ++ rest) := by
    cases b with
    | nil => exact absurd rfl some
    | cons c others => exact breaks
  rw [List.append_assoc, first _ still, second, Option.map_map]
  congr 1
  funext tokens
  exact (List.append_assoc s t tokens).symm

theorem scan_of_spells (spells : Spells numeral a s) : scan a = .some s := by
  have alone := spells [] fun c head => by cases head
  rw [List.append_nil, scan] at alone
  simpa using alone

theorem scan_of_first? {c : Char} {rest after : List Char} {token : Token}
    (notBlank : c ≠ ' ') (found : first? (c :: rest) = .some (token, after)) :
    scan (c :: rest) = (scan after).map ([token] ++ ·) := by
  rw [scan, if_neg notBlank]
  split
  next none => exact absurd (none.symm.trans found) (by simp)
  next known =>
    cases known.symm.trans found
    rfl

theorem separates_nil : Separates [] [] := by
  intro rest
  simp

theorem separates_blank : Separates [' '] [] := by
  intro rest
  rw [List.singleton_append, scan, if_pos rfl]
  simp

/-! ### Signs -/

theorem separates_of_first? {c : Char} {token : Token} (notBlank : c ≠ ' ')
    (found : ∀ rest, first? (c :: rest) = some (token, rest)) : Separates [c] [token] :=
  fun rest => scan_of_first? notBlank (found rest)

theorem separates_dot : Separates ['.'] [.dot] :=
  separates_of_first? (by decide) fun _ => rfl

theorem separates_colon : Separates [':'] [.colon] :=
  separates_of_first? (by decide) fun _ => rfl

theorem separates_comma : Separates [',', ' '] [.comma] :=
  (separates_of_first? (by decide) fun _ => rfl).append separates_blank

theorem separates_minus : Separates ['-'] [.operator .subtract] :=
  separates_of_first? (by decide) fun _ => rfl

theorem separates_opening (bracket : Bracket) :
    Separates [bracket.opens] [.opening bracket] := by
  cases bracket <;> exact separates_of_first? (by decide) fun _ => rfl

theorem separates_closing (bracket : Bracket) :
    Separates [bracket.closes] [.closing bracket] := by
  cases bracket <;> exact separates_of_first? (by decide) fun _ => rfl

/-- An operator between its operands. -/
theorem separates_operator (operator : Operator) :
    Separates (' ' :: operator.sign ++ [' ']) [.operator operator] := by
  intro rest
  have sign : scan (operator.sign ++ ' ' :: rest) =
      (scan (' ' :: rest)).map ([.operator operator] ++ ·) := by
    cases operator <;> exact scan_of_first? (by decide) rfl
  have blank : scan (' ' :: rest) = scan rest := by rw [scan, if_pos rfl]
  rw [List.cons_append, List.cons_append, scan, if_pos rfl, List.append_assoc]
  rw [blank] at sign
  exact sign

/-! ### Words -/

theorem toNat_of_isDigit {c : Char} (digit : c.isDigit = true) :
    48 ≤ c.toNat ∧ c.toNat ≤ 57 := by
  simpa [Char.isDigit, UInt32.le_iff_toNat_le] using digit

theorem toNat_of_isAlpha {c : Char} (letter : c.isAlpha = true) : 65 ≤ c.toNat := by
  rcases Bool.or_eq_true_iff.1 letter with upper | lower
  · have bounds : 'A'.val ≤ c.val ∧ c.val ≤ 'Z'.val := of_decide_eq_true upper
    exact UInt32.le_iff_toNat_le.1 bounds.1
  · have bound : 'a'.val ≤ c.val := of_decide_eq_true (Bool.and_eq_true_iff.1 lower).1
    exact (by decide : 65 ≤ 97).trans (UInt32.le_iff_toNat_le.1 bound)

theorem startsWord_of_isDigit {c : Char} (digit : c.isDigit = true) :
    Text.startsWord c = false := by
  have bounds := toNat_of_isDigit digit
  have ascii : c.toNat < 0x80 := by omega
  have notLetter : c.isAlpha = false := by
    rw [Bool.eq_false_iff]
    intro letter
    have bounds' := toNat_of_isAlpha letter
    omega
  have notLow : c ≠ '_' := by
    rintro rfl
    exact absurd digit (by decide)
  rw [Text.startsWord, if_pos ascii, notLetter]
  simpa using notLow

theorem isInWord_of_isDigit {c : Char} (digit : c.isDigit = true) :
    Text.isInWord c = true := by
  have ascii : c.toNat < 0x80 := (toNat_of_isDigit digit).2.trans_lt (by decide)
  rw [Text.isInWord, if_pos ascii, Char.isAlphanum, digit]
  simp

theorem notBlank_of_startsWord {c : Char} (starts : Text.startsWord c = true) : c ≠ ' ' := by
  rintro rfl
  exact absurd starts (by decide)

theorem spells_word {text : String} (isWord : Text.isWord text.toList = true) :
    Spells false text.toList [.word text] := by
  intro rest breaks
  cases known : text.toList with
  | nil =>
      rw [known] at isWord
      exact absurd isWord Bool.false_ne_true
  | cons c cs =>
      rw [known] at isWord
      obtain ⟨starts, others⟩ := Bool.and_eq_true_iff.1 isWord
      have ends : rest.takeWhile Text.isInWord = [] ∧ rest.dropWhile Text.isInWord = rest := by
        cases rest with
        | nil => exact ⟨rfl, rfl⟩
        | cons d rest => simp [(breaks d rfl).1]
      have all := List.all_eq_true.1 others
      have found : first? (c :: (cs ++ rest)) = some (.word text, rest) := by
        rw [first?, if_pos starts, List.takeWhile_append_of_pos all,
          List.dropWhile_append_of_pos all, ends.1, ends.2, List.append_nil, ← known,
          String.ofList_toList]
      exact scan_of_first? (notBlank_of_startsWord starts) found

/-! ### Numerals -/

theorem takeFraction_of_breaks {rest : List Char} (breaks : Breaks true rest) :
    takeFraction rest = ([], rest) := by
  unfold takeFraction
  split
  · exact absurd rfl ((breaks '.' rfl).2 rfl)
  · rfl

theorem takeExponent_of_breaks {rest : List Char} (breaks : Breaks numeral rest) :
    takeExponent rest = ([], rest) := by
  cases rest with
  | nil => rfl
  | cons c rest =>
      have inWord := (breaks c rfl).1
      have notLetter : ¬ ((c = 'e' ∨ c = 'E') ∧
          (Binary64.takeDigits (takeSign rest).2).1 ≠ []) := by
        rintro ⟨rfl | rfl, _⟩ <;> exact absurd inWord (by decide)
      rw [takeExponent]
      dsimp only
      rw [if_neg notLetter]

theorem isDigit_of_breaks {rest : List Char} (breaks : Breaks numeral rest) :
    ∀ c ∈ rest.head?, c.isDigit = false := by
  intro c head
  rw [Bool.eq_false_iff]
  intro digit
  exact absurd ((isInWord_of_isDigit digit).symm.trans (breaks c head).1) Bool.noConfusion

/-- Only the zero starts with a zero. -/
theorem eq_zero_of_head?_toDigits {n : Nat} (zero : (Nat.toDigits 10 n).head? = some '0') :
    n = 0 := by
  induction n using Nat.strongRecOn with
  | ind n ih =>
      by_cases small : n < 10
      · rw [Nat.toDigits_of_lt_base small] at zero
        have digit : n.digitChar = '0' := Option.some.inj zero
        revert digit small
        exact (by decide : ∀ n < 10, n.digitChar = '0' → n = 0) n
      · rw [Nat.toDigits_of_base_le (by decide) (not_lt.1 small),
          List.head?_append_of_ne_nil _ Nat.toDigits_ne_nil] at zero
        have leading := ih (n / 10) (by omega) zero
        omega

/-- What starts with a digit is a numeral. -/
theorem first?_of_isDigit {c : Char} (digit : c.isDigit = true) (rest : List Char) :
    first? (c :: rest) = numeral? (c :: rest) := by
  rw [first?, startsWord_of_isDigit digit, digit]
  rfl

theorem spells_of_numeral? {token : Token} (some : a ≠ [])
    (digit : ∀ c ∈ a.head?, c.isDigit = true)
    (found : ∀ rest, Breaks true rest → numeral? (a ++ rest) = .some (token, rest)) :
    Spells true a [token] := by
  intro rest breaks
  have read := found rest breaks
  cases a with
  | nil => exact absurd rfl some
  | cons c others =>
      have starts := digit c rfl
      have notBlank : c ≠ ' ' := by
        rintro rfl
        exact absurd starts (by decide)
      rw [List.cons_append] at read ⊢
      rw [← first?_of_isDigit starts] at read
      exact scan_of_first? notBlank read

theorem spells_integer (n : Nat) : Spells true (toString n).toList [.integer n] := by
  rw [Binary64.toList_toString]
  have digits (c : Char) (member : c ∈ Nat.toDigits 10 n) := Binary64.isDigit_of_mem_toDigits member
  refine spells_of_numeral? Nat.toDigits_ne_nil
    (fun c head => digits c (List.mem_of_mem_head? head)) fun rest breaks => ?_
  have canonical : ¬ ((Nat.toDigits 10 n).head? = some '0' ∧
      ¬ (Nat.toDigits 10 n).all (· = '0')) := by
    rintro ⟨zero, other⟩
    rw [eq_zero_of_head?_toDigits zero] at other
    exact other (by decide)
  unfold numeral?
  rw [Binary64.takeDigits_append digits (isDigit_of_breaks breaks)]
  dsimp only
  rw [takeFraction_of_breaks breaks]
  dsimp only
  rw [takeExponent_of_breaks breaks, if_pos ⟨rfl, rfl⟩, if_neg canonical,
    Binary64.digitsValue_toDigits]

theorem takeExponent_powered {exponent : Option Int} {rest : List Char}
    (breaks : Breaks true rest) :
    takeExponent (Binary64.powered exponent ++ rest) = (Binary64.powered exponent, rest) := by
  cases exponent with
  | none => exact takeExponent_of_breaks breaks
  | some k =>
      obtain ⟨digits, spelled, some, all, _⟩ := Binary64.exists_powered k
      have taken := Binary64.takeDigits_append all (isDigit_of_breaks breaks)
      have signed : takeSign ((if k < 0 then '-' else '+') :: (digits ++ rest)) =
          ([if k < 0 then '-' else '+'], digits ++ rest) := by
        split <;> rfl
      rw [spelled, List.cons_append, List.cons_append, takeExponent, signed]
      dsimp only
      rw [taken, if_pos ⟨Or.inl rfl, some⟩]
      rfl

section Parts

variable (written : Binary64.Numeral) {rest : List Char} (breaks : Breaks true rest)

include breaks

theorem powered_stops : ∀ c ∈ (Binary64.powered written.exponent ++ rest).head?,
    c.isDigit = false ∧ c ≠ '.' := by
  intro c head
  cases known : Binary64.powered written.exponent with
  | nil =>
      rw [known] at head
      exact ⟨isDigit_of_breaks breaks c head, (breaks c head).2 rfl⟩
  | cons d others =>
      rw [known] at head
      exact written.exponent_stops c (by rw [known]; exact head)

theorem pointed_stops : ∀ c ∈ (Binary64.pointed written.fraction ++
    (Binary64.powered written.exponent ++ rest)).head?, c.isDigit = false := by
  intro c head
  cases known : written.fraction with
  | nil =>
      rw [known] at head
      exact (powered_stops written breaks c head).1
  | cons digit digits =>
      rw [known] at head
      cases head
      decide

theorem takeFraction_pointed : takeFraction (Binary64.pointed written.fraction ++
      (Binary64.powered written.exponent ++ rest)) =
    (Binary64.pointed written.fraction, Binary64.powered written.exponent ++ rest) := by
  have stops := powered_stops written breaks
  cases known : written.fraction with
  | nil =>
      change takeFraction (Binary64.powered written.exponent ++ rest) = _
      unfold takeFraction
      split
      next others isPoint =>
        rw [isPoint] at stops
        exact absurd rfl (stops '.' rfl).2
      next => rfl
  | cons digit digits =>
      have taken := Binary64.takeDigits_append (known ▸ written.isDigit_of_mem_fraction)
        fun c head => (stops c head).1
      change takeFraction ('.' :: ((digit :: digits) ++
        (Binary64.powered written.exponent ++ rest))) = _
      rw [takeFraction, taken]
      rfl

end Parts

/-- A numeral with a fraction or an exponent spells the number that it is read as. -/
theorem spells_float {written : Binary64.Numeral} {x : Binary64} (isReal : written.IsReal)
    (read : Binary64.ofUnsigned? false written.chars = some x) :
    Spells true written.chars [.float x] := by
  have someWhole := written.whole_ne_nil
  have notInteger : ¬ (Binary64.pointed written.fraction = [] ∧
      Binary64.powered written.exponent = []) := by
    rintro ⟨noFraction, noExponent⟩
    rcases isReal with someFraction | someExponent
    · rw [Binary64.pointed_of_ne_nil someFraction] at noFraction
      cases noFraction
    · obtain ⟨k, known⟩ := Option.isSome_iff_exists.1 someExponent
      obtain ⟨digits, spelled, _⟩ := Binary64.exists_powered k
      rw [known, spelled] at noExponent
      cases noExponent
  refine spells_of_numeral? (by simp [Binary64.Numeral.chars, someWhole]) ?_
    fun rest breaks => ?_
  · intro c head
    rw [Binary64.Numeral.chars, List.append_assoc,
      List.head?_append_of_ne_nil _ someWhole] at head
    exact written.isDigit_of_mem_whole c (List.mem_of_mem_head? head)
  · have whole := Binary64.takeDigits_append written.isDigit_of_mem_whole
      (pointed_stops written breaks)
    have split : written.chars ++ rest = written.whole ++ (Binary64.pointed written.fraction ++
        (Binary64.powered written.exponent ++ rest)) := by
      simp [Binary64.Numeral.chars]
    unfold numeral?
    rw [split, whole]
    dsimp only
    rw [takeFraction_pointed written breaks]
    dsimp only
    rw [takeExponent_powered breaks]
    dsimp only
    rw [if_neg notInteger, ← Binary64.Numeral.chars, read]
    rfl

/-! ### Quotations -/

theorem foldlM_hexDigits (width n : Nat) (fits : n < 16 ^ width) :
    hexNumber? (Text.hexDigits width n) = some n := by
  unfold hexNumber?
  induction width generalizing n with
  | zero =>
      obtain rfl : n = 0 := by simpa using fits
      rfl
  | succ width ih =>
      have digit : hexValue? (Text.hexDigit (n % 16)) = some (n % 16) :=
        (by decide : ∀ d < 16, hexValue? (Text.hexDigit d) = some d) _
          (Nat.mod_lt n (by decide))
      have leading := ih (n / 16) (by rw [Nat.pow_succ] at fits; omega)
      rw [Text.hexDigits, List.foldlM_append, leading]
      simp [digit]
      omega

theorem length_hexDigits (width n : Nat) : (Text.hexDigits width n).length = width := by
  induction width generalizing n with
  | zero => rfl
  | succ width ih => simp [Text.hexDigits, ih]

/-- A character that is written by its code point is read again. -/
theorem escaped?_hexDigits {letter : Char} {width : Nat} (simple : simpleEscape? letter = none)
    (wide : escapeWidth? letter = some width) (c : Char) (fits : c.toNat < 16 ^ width)
    (rest : List Char) :
    escaped? (letter :: (Text.hexDigits width c.toNat ++ rest)) = some (c, rest) := by
  have taken : (Text.hexDigits width c.toNat ++ rest).take width =
      Text.hexDigits width c.toNat := by
    rw [List.take_append_of_le_length (length_hexDigits _ _).ge,
      List.take_of_length_le (length_hexDigits _ _).le]
  have dropped : (Text.hexDigits width c.toNat ++ rest).drop width = rest := by
    simp [length_hexDigits]
  rw [escaped?, simple, wide]
  dsimp only
  rw [taken, foldlM_hexDigits width _ fits, dropped]
  have valid : width ≤ (Text.hexDigits width c.toNat ++ rest).length ∧ c.toNat.isValidChar :=
    ⟨by simp [length_hexDigits], c.valid⟩
  simp only [Option.bind_eq_bind, Option.bind_some, if_pos valid, Char.ofNat_toNat]

/-- Inside a quotation a character is read as it was written, and no quote ends it. -/
theorem quotedChar?_escapeChar {quote : Char} (isQuote : quote = '\'' ∨ quote = '"') (c : Char)
    (rest : List Char) :
    quotedChar? (Text.escapeChar quote c ++ rest) = some (c, rest) ∧
      (Text.escapeChar quote c ++ rest).head? ≠ some quote := by
  have notSlash : quote ≠ '\\' := by rcases isQuote with rfl | rfl <;> decide
  have escape {chars : List Char} (read : escaped? (chars ++ rest) = some (c, rest)) :
      quotedChar? ('\\' :: chars ++ rest) = some (c, rest) ∧
        ('\\' :: chars ++ rest).head? ≠ some quote := by
    refine ⟨?_, fun same => notSlash (Option.some.inj same).symm⟩
    rw [List.cons_append, quotedChar?, if_pos rfl]
    exact read
  unfold Text.escapeChar
  split
  next special =>
    refine escape ?_
    rcases special with rfl | rfl
    · rcases isQuote with rfl | rfl <;> rfl
    · rfl
  next plain =>
    split
    next feed => exact escape (by rw [feed]; rfl)
    next notFeed =>
      split
      next carriage => exact escape (by rw [carriage]; rfl)
      next notCarriage =>
        split
        next tab => exact escape (by rw [tab]; rfl)
        next =>
          split
          next =>
            obtain ⟨notQuote, notEscape⟩ := not_or.1 plain
            refine ⟨?_, fun same => notQuote (Option.some.inj same)⟩
            rw [List.singleton_append, quotedChar?, if_neg notEscape,
              if_neg (not_or.2 ⟨notFeed, notCarriage⟩)]
          next =>
            unfold Text.numericEscape
            split
            next small => exact escape (escaped?_hexDigits rfl rfl c small rest)
            next =>
              split
              next medium => exact escape (escaped?_hexDigits rfl rfl c medium rest)
              next =>
                have fits : c.toNat < 16 ^ 8 := by
                  rcases c.valid with low | ⟨_, high⟩
                  · exact low.trans (by decide)
                  · exact high.trans (by decide)
                exact escape (escaped?_hexDigits rfl rfl c fits rest)

theorem quotation?_escaped {quote : Char} (isQuote : quote = '\'' ∨ quote = '"')
    (chars rest : List Char) :
    quotation? quote (chars.flatMap (Text.escapeChar quote) ++ quote :: rest) =
      some (chars, rest) := by
  induction chars with
  | nil =>
      rw [quotation?]
      exact if_pos rfl
  | cons c chars ih =>
      obtain ⟨read, goesOn⟩ := quotedChar?_escapeChar isQuote c
        (chars.flatMap (Text.escapeChar quote) ++ quote :: rest)
      rw [List.flatMap_cons, List.append_assoc, quotation?_of_goesOn goesOn, read,
        Option.bind_some]
      dsimp only
      rw [ih]
      rfl

/-- A quoted text is read as that text. -/
theorem separates_quoted (text : String) :
    Separates (Text.quoted text).toList [.string text] := by
  intro rest
  have isQuote : Text.quoteFor text.toList = '\'' ∨ Text.quoteFor text.toList = '"' := by
    unfold Text.quoteFor
    split
    · exact Or.inr rfl
    · exact Or.inl rfl
  have notBlank : Text.quoteFor text.toList ≠ ' ' := by
    rcases isQuote with same | same <;> rw [same] <;> decide
  have notWord : Text.startsWord (Text.quoteFor text.toList) = false ∧
      (Text.quoteFor text.toList).isDigit = false := by
    rcases isQuote with same | same <;> rw [same] <;> decide
  have read := quotation?_escaped isQuote text.toList rest
  have found : first? (Text.quoteFor text.toList ::
      (text.toList.flatMap (Text.escapeChar (Text.quoteFor text.toList)) ++
        Text.quoteFor text.toList :: rest)) = some (.string text, rest) := by
    rw [first?, if_neg (by simp [notWord.1]), if_neg (by simp [notWord.2]), if_pos isQuote, read]
    simp
  have split : (Text.quoted text).toList ++ rest = Text.quoteFor text.toList ::
      (text.toList.flatMap (Text.escapeChar (Text.quoteFor text.toList)) ++
        Text.quoteFor text.toList :: rest) := by
    simp [Text.quoted]
  rw [split]
  exact scan_of_first? notBlank found

end FunctionSynthesis.Token
