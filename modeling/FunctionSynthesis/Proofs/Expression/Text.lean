import FunctionSynthesis.Proofs.Expression.Grammar
import FunctionSynthesis.Proofs.Expression.Spelling

/-!
# Texts of expressions

A text is read as the expression that its tokens are written for. For every rule of the
grammar, texts of the parts make a text of the whole. Only the text of a primary can be
followed by a point: behind the digits of a numeral a point would be read as its own.
-/

namespace FunctionSynthesis.Expression

open Token (Spells Separates Breaks)

/-- Whether a text is read as an expression. -/
def IsReadAs (text : String) (e : Expression) : Prop :=
  ∃ tokens, Token.scan text.toList = some tokens ∧ Written tokens (.expression .sum e)

/-- Whether a numeral may stand at the end of a text. -/
def Phrase.canEndInNumeral : Phrase → Bool
  | .expression .primary _ => false
  | _ => true

/-- Whether a text is read as something in front of any text that does not go on with
it. -/
def Denotes (text : List Char) (phrase : Phrase) : Prop :=
  ∃ tokens, Spells phrase.canEndInNumeral text tokens ∧ Written tokens phrase

variable {a b c d : List Char} {e f : Expression}

theorem isReadAs_iff {text : String} (denotes : Denotes text.toList (.expression .sum e)) :
    IsReadAs text f ↔ f = e := by
  obtain ⟨tokens, spells, written⟩ := denotes
  have scanned := Token.scan_of_spells spells
  constructor
  · rintro ⟨tokens', scanned', written'⟩
    cases scanned.symm.trans scanned'
    exact written'.unique written
  · rintro rfl
    exact ⟨tokens, scanned, written⟩

/-! ### Places -/

theorem Denotes.ofPrimary (denotes : Denotes a (.expression .primary e)) :
    Denotes a (.expression .factor e) := by
  obtain ⟨tokens, spells, written⟩ := denotes
  exact ⟨tokens, Spells.weaken spells, .ofPrimary written⟩

theorem Denotes.ofFactor (denotes : Denotes a (.expression .factor e)) :
    Denotes a (.expression .product e) := by
  obtain ⟨tokens, spells, written⟩ := denotes
  exact ⟨tokens, spells, .ofFactor written⟩

theorem Denotes.ofProduct (denotes : Denotes a (.expression .product e)) :
    Denotes a (.expression .sum e) := by
  obtain ⟨tokens, spells, written⟩ := denotes
  exact ⟨tokens, spells, .ofProduct written⟩

/-! ### Brackets and signs -/

theorem breaks_cons {numeral : Bool} {sign : Char} {rest : List Char}
    (notInWord : Text.isInWord sign = false) (notPoint : sign ≠ '.') :
    Breaks numeral (sign :: rest) := by
  intro c head
  cases head
  exact ⟨notInWord, fun _ => notPoint⟩

section Spelling

variable {numeral numeral' : Bool} {s t : List Token}

theorem separates_enclosed (bracket : Bracket) (inner : Spells numeral a s) :
    Separates (bracket.opens :: a ++ [bracket.closes])
      (.opening bracket :: s ++ [.closing bracket]) := by
  have breaks : Breaks numeral [bracket.closes] := by
    cases bracket <;> exact breaks_cons (by decide) (by decide)
  exact (Token.separates_opening bracket).append
    (inner.append_separates (Token.separates_closing bracket) (by simp) breaks)

/-- Brackets can stand behind anything. -/
theorem separates_followed (bracket : Bracket) (first : Spells numeral a s)
    (inner : Spells numeral' b t) :
    Separates (a ++ bracket.opens :: b ++ [bracket.closes])
      (s ++ .opening bracket :: t ++ [.closing bracket]) := by
  have breaks : Breaks numeral (bracket.opens :: b ++ [bracket.closes]) := by
    cases bracket <;> exact breaks_cons (by decide) (by decide)
  have whole := first.append_separates (separates_enclosed bracket inner) (by simp) breaks
  rwa [← List.append_assoc, ← List.append_assoc] at whole

theorem spells_operation (o : Operator) (left : Spells numeral a s)
    (right : Spells numeral' b t) :
    Spells numeral' (a ++ (' ' :: o.sign ++ [' ']) ++ b) (s ++ .operator o :: t) := by
  have whole := (left.append_separates (Token.separates_operator o) (by simp)
    (breaks_cons (by decide) (by decide))).append_spells right
  rwa [List.append_assoc s] at whole

theorem spells_colon (left : Spells numeral a s) (right : Spells numeral' b t) :
    Spells numeral' (a ++ ':' :: b) (s ++ .colon :: t) := by
  have whole := (left.append_separates Token.separates_colon (by simp)
    (breaks_cons (by decide) (by decide))).append_spells right
  rwa [List.append_assoc, List.append_assoc] at whole

theorem spells_comma (left : Spells numeral a s) (right : Spells numeral' b t) :
    Spells numeral' (a ++ [',', ' '] ++ b) (s ++ .comma :: t) := by
  have whole := (left.append_separates Token.separates_comma (by simp)
    (breaks_cons (by decide) (by decide))).append_spells right
  rwa [List.append_assoc s] at whole

end Spelling

/-! ### Operations -/

theorem Denotes.sum {o : Operator} (additive : o.isAdditive = true)
    (left : Denotes a (.expression .sum e)) (right : Denotes b (.expression .product f)) :
    Denotes (a ++ (' ' :: o.sign ++ [' ']) ++ b) (.expression .sum (.operation e o f)) := by
  obtain ⟨s, spells, written⟩ := left
  obtain ⟨t, spells', written'⟩ := right
  exact ⟨_, spells_operation o spells spells', .sum additive written written'⟩

theorem Denotes.product {o : Operator} (multiplicative : o.isAdditive = false)
    (left : Denotes a (.expression .product e)) (right : Denotes b (.expression .factor f)) :
    Denotes (a ++ (' ' :: o.sign ++ [' ']) ++ b)
      (.expression .product (.operation e o f)) := by
  obtain ⟨s, spells, written⟩ := left
  obtain ⟨t, spells', written'⟩ := right
  exact ⟨_, spells_operation o spells spells', .product multiplicative written written'⟩

theorem Denotes.negative (operand : Denotes a (.expression .factor e)) :
    Denotes ('-' :: a) (.expression .factor (.negative e)) := by
  obtain ⟨s, spells, written⟩ := operand
  exact ⟨_, Token.separates_minus.append_spells spells, .negative written⟩

/-! ### Series -/

/-- Whether every text denotes the expression in its place. -/
def DenoteAll (texts : List String) (es : List Expression) : Prop :=
  List.Forall₂ (fun text e => Denotes text.toList (.expression .sum e)) texts es

theorem toList_commaSeparated {text next : String} {texts : List String} :
    (Value.commaSeparated (text :: next :: texts)).toList =
      text.toList ++ [',', ' '] ++ (Value.commaSeparated (next :: texts)).toList := by
  simp [Value.commaSeparated, String.intercalate_cons_cons]

theorem denotes_series {text : String} {texts : List String} {es : List Expression}
    (all : DenoteAll (text :: texts) es) :
    Denotes (Value.commaSeparated (text :: texts)).toList (.series es) := by
  induction texts generalizing text es with
  | nil =>
      obtain ⟨e, rest, ⟨s, spells, written⟩, none, rfl⟩ := List.forall₂_cons_left_iff.1 all
      cases none
      exact ⟨s, spells, .last written⟩
  | cons next texts ih =>
      obtain ⟨e, rest, ⟨s, spells, written⟩, others, rfl⟩ := List.forall₂_cons_left_iff.1 all
      obtain ⟨t, spells', written'⟩ := ih others
      rw [toList_commaSeparated]
      exact ⟨_, spells_comma spells spells', .more written written'⟩

theorem denotes_listing {texts : List String} {es : List Expression}
    (all : DenoteAll texts es) :
    Denotes (Value.commaSeparated texts).toList (.listing es) := by
  cases texts with
  | nil =>
      cases all
      exact ⟨[], Token.separates_nil.spells, .noItems⟩
  | cons text texts =>
      obtain ⟨tokens, spells, written⟩ := denotes_series all
      exact ⟨tokens, spells, .items written⟩

/-- Whether a text is read as a key and its value. -/
def DenotesEntry (text : String) (entry : Expression × Expression) : Prop :=
  ∃ s t, Spells true text.toList (s ++ .colon :: t) ∧
    Written s (.expression .sum entry.1) ∧ Written t (.expression .sum entry.2)

theorem denotesEntry {key value : String} {entry : Expression × Expression}
    (first : Denotes key.toList (.expression .sum entry.1))
    (second : Denotes value.toList (.expression .sum entry.2)) :
    DenotesEntry s!"{key}: {value}" entry := by
  obtain ⟨s, spells, written⟩ := first
  obtain ⟨t, spells', written'⟩ := second
  have whole : Spells true (key.toList ++ ':' :: ' ' :: value.toList) (s ++ .colon :: t) :=
    spells_colon spells (Token.separates_blank.append_spells spells')
  refine ⟨s, t, ?_, written, written'⟩
  simpa [toString] using whole

theorem denotes_entries {text : String} {texts : List String}
    {es : List (Expression × Expression)}
    (all : List.Forall₂ DenotesEntry (text :: texts) es) :
    Denotes (Value.commaSeparated (text :: texts)).toList (.entries es) := by
  induction texts generalizing text es with
  | nil =>
      obtain ⟨entry, rest, ⟨s, t, spells, key, value⟩, none, rfl⟩ :=
        List.forall₂_cons_left_iff.1 all
      cases none
      exact ⟨_, spells, .lastEntry key value⟩
  | cons next texts ih =>
      obtain ⟨entry, rest, ⟨s, t, spells, key, value⟩, others, rfl⟩ :=
        List.forall₂_cons_left_iff.1 all
      obtain ⟨u, spells', written⟩ := ih others
      rw [toList_commaSeparated]
      exact ⟨_, spells_comma spells spells', .moreEntries key value written⟩

/-! ### Primaries -/

theorem isWord_of_canBeMethod {name : String} (isName : Names.canBeMethod name = true) :
    Text.isWord name.toList = true :=
  (Bool.and_eq_true_iff.1 (Bool.and_eq_true_iff.1 isName).1).1

theorem denotes_name {name : String} (isName : Names.canBeMethod name = true) :
    Denotes name.toList (.expression .primary (.name name)) :=
  ⟨_, Token.spells_word (isWord_of_canBeMethod isName), .name isName⟩

theorem denotes_constant {word : String} {v : Value}
    (isWord : Text.isWord word.toList = true)
    (known : Names.constants.lookup word = some v) :
    Denotes word.toList (.expression .primary (.constant v)) :=
  ⟨_, Token.spells_word isWord, .constant known⟩

theorem denotes_integer (n : Nat) :
    Denotes (toString n).toList (.expression .factor (.integer n)) :=
  ⟨_, Token.spells_integer n, .ofPrimary (.integer n)⟩

theorem denotes_float {numeral : Binary64.Numeral} {x : Binary64} (isReal : numeral.IsReal)
    (read : Binary64.ofUnsigned? false numeral.chars = some x) :
    Denotes numeral.chars (.expression .factor (.float x)) :=
  ⟨_, Token.spells_float isReal read, .ofPrimary (.float x)⟩

theorem denotes_string (text : String) :
    Denotes (Text.quoted text).toList (.expression .primary (.string text)) :=
  ⟨_, (Token.separates_quoted text).spells, .string text⟩

theorem Denotes.group (inner : Denotes a (.expression .sum e)) :
    Denotes ('(' :: a ++ [')']) (.expression .primary e) := by
  obtain ⟨s, spells, written⟩ := inner
  exact ⟨_, (separates_enclosed .round spells).spells, .group written⟩

theorem Denotes.list {es : List Expression} (items : Denotes a (.listing es)) :
    Denotes ('[' :: a ++ [']']) (.expression .primary (.list es)) := by
  obtain ⟨s, spells, written⟩ := items
  exact ⟨_, (separates_enclosed .square spells).spells, .list written⟩

theorem denotes_emptyDict : Denotes ['\x7b', '\x7d'] (.expression .primary (.dict [])) :=
  ⟨_, ((Token.separates_opening .curly).append (Token.separates_closing .curly)).spells,
    .emptyDict⟩

theorem Denotes.dict {es : List (Expression × Expression)} (entries : Denotes a (.entries es)) :
    Denotes ('\x7b' :: a ++ ['\x7d']) (.expression .primary (.dict es)) := by
  obtain ⟨s, spells, written⟩ := entries
  exact ⟨_, (separates_enclosed .curly spells).spells, .dict written⟩

theorem Denotes.member {name : String} (object : Denotes a (.expression .primary e))
    (isName : Names.canBeMethod name = true) :
    Denotes (a ++ '.' :: name.toList) (.expression .primary (.member e name)) := by
  obtain ⟨s, spells, written⟩ := object
  have breaks : Breaks false ['.'] := by
    intro c head
    cases head
    exact ⟨by decide, Bool.noConfusion⟩
  have whole := (spells.append_separates Token.separates_dot (by simp) breaks).append_spells
    (Token.spells_word (isWord_of_canBeMethod isName))
  rw [List.append_assoc, List.append_assoc] at whole
  exact ⟨_, whole, .member written isName⟩

theorem Denotes.call {es : List Expression} (function : Denotes a (.expression .primary e))
    (arguments : Denotes b (.listing es)) :
    Denotes (a ++ '(' :: b ++ [')']) (.expression .primary (.call e es)) := by
  obtain ⟨s, spells, written⟩ := function
  obtain ⟨t, spells', written'⟩ := arguments
  exact ⟨_, (separates_followed .round spells spells').spells, .call written written'⟩

theorem Denotes.subscript (object : Denotes a (.expression .primary e))
    (index : Denotes b (.expression .sum f)) :
    Denotes (a ++ '[' :: b ++ [']']) (.expression .primary (.subscript e f)) := by
  obtain ⟨s, spells, written⟩ := object
  obtain ⟨t, spells', written'⟩ := index
  exact ⟨_, (separates_followed .square spells spells').spells, .subscript written written'⟩

/-! ### Slices -/

theorem denotes_absent : Denotes [] (.bound none) :=
  ⟨[], Token.separates_nil.spells, .absent⟩

theorem Denotes.bound (denotes : Denotes a (.expression .sum e)) : Denotes a (.bound (some e)) := by
  obtain ⟨s, spells, written⟩ := denotes
  exact ⟨s, spells, .present written⟩

variable {x y z : Option Expression}

theorem Denotes.slice (object : Denotes a (.expression .primary e)) (start : Denotes b (.bound x))
    (stop : Denotes c (.bound y)) :
    Denotes (a ++ '[' :: (b ++ ':' :: c) ++ [']']) (.expression .primary (.slice e x y none)) := by
  obtain ⟨s, spells, written⟩ := object
  obtain ⟨t, spells', written'⟩ := start
  obtain ⟨u, spells'', written''⟩ := stop
  have whole := separates_followed .square spells (spells_colon spells' spells'')
  have rule := Written.slice written written' written''
  simp only [List.append_assoc, List.cons_append] at whole rule ⊢
  exact ⟨_, whole.spells, rule⟩

theorem Denotes.sliceStep (object : Denotes a (.expression .primary e))
    (start : Denotes b (.bound x)) (stop : Denotes c (.bound y)) (step : Denotes d (.bound z)) :
    Denotes (a ++ '[' :: (b ++ ':' :: (c ++ ':' :: d)) ++ [']'])
      (.expression .primary (.slice e x y z)) := by
  obtain ⟨s, spells, written⟩ := object
  obtain ⟨t, spells', written'⟩ := start
  obtain ⟨u, spells'', written''⟩ := stop
  obtain ⟨v, spells''', written'''⟩ := step
  have whole := separates_followed .square spells
    (spells_colon spells' (spells_colon spells'' spells'''))
  have rule := Written.sliceStep written written' written'' written'''
  simp only [List.append_assoc, List.cons_append] at whole rule ⊢
  exact ⟨_, whole.spells, rule⟩

end FunctionSynthesis.Expression
