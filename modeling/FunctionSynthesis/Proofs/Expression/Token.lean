import FunctionSynthesis.Proofs.Binary64.Numeral
import FunctionSynthesis.Term.Names
import FunctionSynthesis.Value.Operator

/-!
# Tokens

The text of an expression is a sequence of words, numerals, quotations and signs, with
blanks between them where they would run together otherwise. `Token.scan` splits a text
into them, each as long as it can be. A text that spells tokens does so in front of any
text that does not go on with its last word or numeral (`Token.Spells`).
-/

namespace FunctionSynthesis

inductive Bracket where
  | round
  | square
  | curly
  deriving DecidableEq

namespace Bracket

def opens : Bracket → Char
  | .round => '('
  | .square => '['
  | .curly => '\x7b'

def closes : Bracket → Char
  | .round => ')'
  | .square => ']'
  | .curly => '\x7d'

end Bracket

namespace Operator

def sign : Operator → List Char
  | .add => ['+']
  | .subtract => ['-']
  | .multiply => ['*']
  | .divide => ['/']
  | .floorDivide => ['/', '/']
  | .remainder => ['%']

end Operator

/-- What the text of an expression consists of. -/
inductive Token where
  | word (text : String)
  | integer (n : Nat)
  | float (x : Binary64)
  | string (text : String)
  | operator (operator : Operator)
  | dot
  | comma
  | colon
  | opening (bracket : Bracket)
  | closing (bracket : Bracket)
  deriving DecidableEq

namespace Token

/-! ### Quotations -/

def hexValue? (c : Char) : Option Nat :=
  if c.isDigit then some (c.toNat - 48)
  else if 'a' ≤ c ∧ c ≤ 'f' then some (c.toNat - 87)
  else if 'A' ≤ c ∧ c ≤ 'F' then some (c.toNat - 55)
  else none

/-- The number that hexadecimal digits write. -/
def hexNumber? (digits : List Char) : Option Nat :=
  digits.foldlM (fun n c => (hexValue? c).map (16 * n + ·)) 0

/-- What an escape of one character stands for. -/
def simpleEscape? : Char → Option Char
  | '\\' => some '\\'
  | '\'' => some '\''
  | '"' => some '"'
  | 'a' => some '\x07'
  | 'b' => some '\x08'
  | 't' => some '\t'
  | 'n' => some '\n'
  | 'v' => some '\x0b'
  | 'f' => some '\x0c'
  | 'r' => some '\r'
  | _ => none

/-- How many hexadecimal digits an escape has. -/
def escapeWidth? : Char → Option Nat
  | 'x' => some 2
  | 'u' => some 4
  | 'U' => some 8
  | _ => none

/-- The character that an escape stands for, with the text after it. -/
def escaped? : List Char → Option (Char × List Char)
  | [] => none
  | c :: rest =>
      match simpleEscape? c, escapeWidth? c with
      | some d, _ => some (d, rest)
      | none, some width => do
          let n ← hexNumber? (rest.take width)
          if width ≤ rest.length ∧ n.isValidChar then some (Char.ofNat n, rest.drop width)
          else none
      | none, none => none

theorem length_le_of_escaped? {chars rest : List Char} {c : Char}
    (found : escaped? chars = some (c, rest)) : rest.length ≤ chars.length := by
  cases chars with
  | nil => cases found
  | cons first others =>
      rw [escaped?] at found
      split at found
      · cases found
        exact Nat.le_succ _
      · obtain ⟨n, _, known⟩ := Option.bind_eq_some_iff.1 found
        split at known
        · cases known
          rw [List.length_drop, List.length_cons]
          omega
        · cases known
      · cases found

/-- The character at the start of the inside of a quotation, with the text after it. -/
def quotedChar? : List Char → Option (Char × List Char)
  | [] => none
  | c :: rest =>
      if c = '\\' then escaped? rest
      else if c = '\n' ∨ c = '\r' then none
      else some (c, rest)

theorem length_lt_of_quotedChar? {chars rest : List Char} {c : Char}
    (found : quotedChar? chars = some (c, rest)) : rest.length < chars.length := by
  cases chars with
  | nil => cases found
  | cons first others =>
      rw [quotedChar?] at found
      split at found
      · have shorter := length_le_of_escaped? found
        exact Nat.lt_succ_of_le shorter
      · split at found
        · cases found
        · cases found
          exact Nat.lt_succ_self _

/-- The text up to a quote, with the text after that. -/
def quotation? (quote : Char) (chars : List Char) : Option (List Char × List Char) :=
  if chars.head? = some quote then some ([], chars.tail)
  else
    match _h : quotedChar? chars with
    | none => none
    | some (c, after) =>
        (quotation? quote after).map fun (text, rest) => (c :: text, rest)
termination_by chars.length
decreasing_by exact length_lt_of_quotedChar? _h

theorem quotation?_of_goesOn {quote : Char} {chars : List Char}
    (goesOn : chars.head? ≠ some quote) :
    quotation? quote chars = (quotedChar? chars).bind fun (c, after) =>
      (quotation? quote after).map fun (text, rest) => (c :: text, rest) := by
  rw [quotation?, if_neg goesOn]
  split
  next ends => rw [ends]; rfl
  next inside => rw [inside]; rfl

/-! ### Numerals -/

/-- Digits behind a point, with the point, and the text after them. -/
def takeFraction : List Char → List Char × List Char
  | '.' :: rest =>
      let (digits, rest) := Binary64.takeDigits rest
      ('.' :: digits, rest)
  | rest => ([], rest)

def takeSign : List Char → List Char × List Char
  | '+' :: rest => (['+'], rest)
  | '-' :: rest => (['-'], rest)
  | rest => ([], rest)

/-- An exponent with its letter and sign, and the text after it. -/
def takeExponent (chars : List Char) : List Char × List Char :=
  match chars with
  | [] => ([], [])
  | e :: rest =>
      let (sign, rest) := takeSign rest
      let (digits, rest) := Binary64.takeDigits rest
      if (e = 'e' ∨ e = 'E') ∧ digits ≠ [] then (e :: sign ++ digits, rest) else ([], chars)

/-- The number that a text starts with. An integer has no zeros in front of it. -/
def numeral? (chars : List Char) : Option (Token × List Char) :=
  let (whole, rest) := Binary64.takeDigits chars
  let (fraction, rest) := takeFraction rest
  let (exponent, rest) := takeExponent rest
  if fraction = [] ∧ exponent = [] then
    if whole.head? = some '0' ∧ ¬ whole.all (· = '0') then none
    else some (.integer (Binary64.digitsValue whole), rest)
  else
    (Binary64.ofUnsigned? false (whole ++ fraction ++ exponent)).map fun x => (.float x, rest)

theorem length_takeDigits_le (chars : List Char) :
    (Binary64.takeDigits chars).2.length ≤ chars.length :=
  List.Sublist.length_le (List.dropWhile_sublist _)

theorem length_takeFraction_le (chars : List Char) :
    (takeFraction chars).2.length ≤ chars.length := by
  unfold takeFraction
  split
  · exact (length_takeDigits_le _).trans (Nat.le_succ _)
  · exact le_rfl

theorem length_takeSign_le (chars : List Char) : (takeSign chars).2.length ≤ chars.length := by
  unfold takeSign
  split
  · exact Nat.le_succ _
  · exact Nat.le_succ _
  · exact le_rfl

theorem length_takeExponent_le (chars : List Char) :
    (takeExponent chars).2.length ≤ chars.length := by
  unfold takeExponent
  split
  · exact le_rfl
  · dsimp only
    split
    · exact (length_takeDigits_le _).trans ((length_takeSign_le _).trans (Nat.le_succ _))
    · exact le_rfl

/-! ### Splitting a text -/

/-- The sign that a text starts with. -/
def sign? : List Char → Option (Token × List Char)
  | '/' :: '/' :: rest => some (.operator .floorDivide, rest)
  | '+' :: rest => some (.operator .add, rest)
  | '-' :: rest => some (.operator .subtract, rest)
  | '*' :: rest => some (.operator .multiply, rest)
  | '/' :: rest => some (.operator .divide, rest)
  | '%' :: rest => some (.operator .remainder, rest)
  | '.' :: rest => some (.dot, rest)
  | ',' :: rest => some (.comma, rest)
  | ':' :: rest => some (.colon, rest)
  | '(' :: rest => some (.opening .round, rest)
  | ')' :: rest => some (.closing .round, rest)
  | '[' :: rest => some (.opening .square, rest)
  | ']' :: rest => some (.closing .square, rest)
  | '\x7b' :: rest => some (.opening .curly, rest)
  | '\x7d' :: rest => some (.closing .curly, rest)
  | _ => none

/-- The token that a text starts with, and the text after it. -/
def first? : List Char → Option (Token × List Char)
  | [] => none
  | c :: rest =>
      if Text.startsWord c then
        some (.word (String.ofList (c :: rest.takeWhile Text.isInWord)),
          rest.dropWhile Text.isInWord)
      else if c.isDigit then numeral? (c :: rest)
      else if c = '\'' ∨ c = '"' then
        (quotation? c rest).map fun (text, rest) => (.string (String.ofList text), rest)
      else sign? (c :: rest)

theorem length_le_of_quotation? {quote : Char} {chars text rest : List Char}
    (found : quotation? quote chars = some (text, rest)) : rest.length ≤ chars.length := by
  induction chars using quotation?.induct quote generalizing text with
  | case1 chars closes =>
      rw [quotation?, if_pos closes] at found
      cases found
      simp
  | case2 chars goesOn ends =>
      rw [quotation?_of_goesOn goesOn, ends] at found
      cases found
  | case3 chars goesOn c after inside ih =>
      rw [quotation?_of_goesOn goesOn, inside] at found
      obtain ⟨⟨more, others⟩, quoted, same⟩ := Option.map_eq_some_iff.1 found
      cases same
      exact (ih quoted).trans (length_lt_of_quotedChar? inside).le

theorem length_lt_of_numeral? {chars rest : List Char} {token : Token}
    (digit : ∃ c ∈ chars.head?, c.isDigit = true)
    (found : numeral? chars = some (token, rest)) : rest.length < chars.length := by
  have whole : (Binary64.takeDigits chars).2.length < chars.length := by
    obtain ⟨c, head, isDigit⟩ := digit
    cases chars with
    | nil => cases head
    | cons first others =>
        cases head
        unfold Binary64.takeDigits
        rw [List.dropWhile_cons_of_pos isDigit]
        exact Nat.lt_succ_of_le (List.Sublist.length_le (List.dropWhile_sublist _))
  have remains : rest = (takeExponent (takeFraction (Binary64.takeDigits chars).2).2).2 := by
    unfold numeral? at found
    dsimp only at found
    split at found
    · split at found
      · cases found
      · cases found
        rfl
    · obtain ⟨x, _, same⟩ := Option.map_eq_some_iff.1 found
      cases same
      rfl
  rw [remains]
  exact (length_takeExponent_le _).trans_lt ((length_takeFraction_le _).trans_lt whole)

theorem length_lt_of_sign? {chars rest : List Char} {token : Token}
    (found : sign? chars = some (token, rest)) : rest.length < chars.length := by
  unfold sign? at found
  split at found <;> cases found
  all_goals
    simp only [List.length_cons]
    omega

theorem length_lt_of_first? {chars rest : List Char} {token : Token}
    (found : first? chars = some (token, rest)) : rest.length < chars.length := by
  cases chars with
  | nil => cases found
  | cons c others =>
      rw [first?] at found
      split at found
      · cases found
        exact Nat.lt_succ_of_le (List.Sublist.length_le (List.dropWhile_sublist _))
      · split at found
        next digit => exact length_lt_of_numeral? ⟨c, rfl, digit⟩ found
        next =>
          split at found
          · obtain ⟨⟨text, after⟩, quoted, same⟩ := Option.map_eq_some_iff.1 found
            cases same
            exact Nat.lt_succ_of_le (length_le_of_quotation? quoted)
          · exact length_lt_of_sign? found

/-- The tokens of a text. -/
def scan (chars : List Char) : Option (List Token) :=
  match chars with
  | [] => some []
  | c :: rest =>
      if c = ' ' then scan rest
      else
        match _h : first? (c :: rest) with
        | none => none
        | some (token, after) => (scan after).map (token :: ·)
termination_by chars.length
decreasing_by
  · exact Nat.lt_succ_self _
  · exact length_lt_of_first? _h

end Token

end FunctionSynthesis
