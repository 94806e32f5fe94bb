import FunctionSynthesis.Proofs.Expression.Token

/-!
# The grammar of expressions

An expression is a sum of products of factors, and both group to the left. A factor is
a primary behind any number of minus signs, and a primary is an atom followed by
attributes, calls, subscripts and slices. `Expression.Written` lists the rules. A reader
that goes through tokens once finds what they were written for
(`readFrom_of_written`), so that no tokens are written for two expressions
(`Written.unique`).
-/

namespace FunctionSynthesis

/-- The tree of an expression. -/
inductive Expression where
  | constant (value : Value)
  | name (text : String)
  | integer (n : Nat)
  | float (x : Binary64)
  | string (text : String)
  | negative (operand : Expression)
  | operation (left : Expression) (operator : Operator) (right : Expression)
  | member (object : Expression) (name : String)
  | call (function : Expression) (arguments : List Expression)
  | subscript (object index : Expression)
  /-- A bound of a slice can be absent. -/
  | slice (object : Expression) (start stop step : Option Expression)
  | list (items : List Expression)
  | dict (entries : List (Expression × Expression))

namespace Operator

/-- Whether an operator binds like a sum, and not like a product. -/
def isAdditive : Operator → Bool
  | .add => true
  | .subtract => true
  | _ => false

end Operator

namespace Expression

/-! ### Rules -/

/-- The places in which expressions stand, from the widest to the narrowest. -/
inductive Level where
  | sum
  | product
  | factor
  | primary
  deriving DecidableEq

/-- What tokens are written for: an expression in a place, one expression or entry after
the other, the arguments or items that there may be, or a bound of a slice. -/
inductive Phrase where
  | expression (level : Level) (e : Expression)
  | series (es : List Expression)
  | listing (es : List Expression)
  | entries (es : List (Expression × Expression))
  | bound (e : Option Expression)

/-- The rules of the grammar. -/
inductive Written : List Token → Phrase → Prop
  | sum {ts us : List Token} {l r : Expression} {o : Operator} :
      o.isAdditive = true → Written ts (.expression .sum l) →
      Written us (.expression .product r) →
      Written (ts ++ .operator o :: us) (.expression .sum (.operation l o r))
  | ofProduct {ts : List Token} {e : Expression} :
      Written ts (.expression .product e) → Written ts (.expression .sum e)
  | product {ts us : List Token} {l r : Expression} {o : Operator} :
      o.isAdditive = false → Written ts (.expression .product l) →
      Written us (.expression .factor r) →
      Written (ts ++ .operator o :: us) (.expression .product (.operation l o r))
  | ofFactor {ts : List Token} {e : Expression} :
      Written ts (.expression .factor e) → Written ts (.expression .product e)
  | negative {ts : List Token} {e : Expression} :
      Written ts (.expression .factor e) →
      Written (.operator .subtract :: ts) (.expression .factor (.negative e))
  | ofPrimary {ts : List Token} {e : Expression} :
      Written ts (.expression .primary e) → Written ts (.expression .factor e)
  | member {ts : List Token} {e : Expression} {name : String} :
      Written ts (.expression .primary e) → Names.canBeMethod name = true →
      Written (ts ++ [.dot, .word name]) (.expression .primary (.member e name))
  | call {ts us : List Token} {e : Expression} {es : List Expression} :
      Written ts (.expression .primary e) → Written us (.listing es) →
      Written (ts ++ .opening .round :: us ++ [.closing .round])
        (.expression .primary (.call e es))
  | subscript {ts us : List Token} {e i : Expression} :
      Written ts (.expression .primary e) → Written us (.expression .sum i) →
      Written (ts ++ .opening .square :: us ++ [.closing .square])
        (.expression .primary (.subscript e i))
  | slice {ts us vs : List Token} {e : Expression} {a b : Option Expression} :
      Written ts (.expression .primary e) → Written us (.bound a) → Written vs (.bound b) →
      Written (ts ++ .opening .square :: us ++ .colon :: vs ++ [.closing .square])
        (.expression .primary (.slice e a b none))
  | sliceStep {ts us vs ws : List Token} {e : Expression} {a b c : Option Expression} :
      Written ts (.expression .primary e) → Written us (.bound a) → Written vs (.bound b) →
      Written ws (.bound c) →
      Written (ts ++ .opening .square :: us ++ .colon :: vs ++ .colon :: ws ++ [.closing .square])
        (.expression .primary (.slice e a b c))
  | name {text : String} : Names.canBeMethod text = true →
      Written [.word text] (.expression .primary (.name text))
  | constant {text : String} {v : Value} : Names.constants.lookup text = some v →
      Written [.word text] (.expression .primary (.constant v))
  | integer (n : Nat) : Written [.integer n] (.expression .primary (.integer n))
  | float (x : Binary64) : Written [.float x] (.expression .primary (.float x))
  | string (text : String) : Written [.string text] (.expression .primary (.string text))
  | group {ts : List Token} {e : Expression} :
      Written ts (.expression .sum e) →
      Written (.opening .round :: ts ++ [.closing .round]) (.expression .primary e)
  | list {ts : List Token} {es : List Expression} :
      Written ts (.listing es) →
      Written (.opening .square :: ts ++ [.closing .square]) (.expression .primary (.list es))
  | emptyDict : Written [.opening .curly, .closing .curly] (.expression .primary (.dict []))
  | dict {ts : List Token} {es : List (Expression × Expression)} :
      Written ts (.entries es) →
      Written (.opening .curly :: ts ++ [.closing .curly]) (.expression .primary (.dict es))
  | last {ts : List Token} {e : Expression} :
      Written ts (.expression .sum e) → Written ts (.series [e])
  | more {ts us : List Token} {e : Expression} {es : List Expression} :
      Written ts (.expression .sum e) → Written us (.series es) →
      Written (ts ++ .comma :: us) (.series (e :: es))
  | noItems : Written [] (.listing [])
  | items {ts : List Token} {es : List Expression} :
      Written ts (.series es) → Written ts (.listing es)
  | lastEntry {ts us : List Token} {k v : Expression} :
      Written ts (.expression .sum k) → Written us (.expression .sum v) →
      Written (ts ++ .colon :: us) (.entries [(k, v)])
  | moreEntries {ts us vs : List Token} {k v : Expression}
      {es : List (Expression × Expression)} :
      Written ts (.expression .sum k) → Written us (.expression .sum v) →
      Written vs (.entries es) →
      Written (ts ++ .colon :: us ++ .comma :: vs) (.entries ((k, v) :: es))
  | absent : Written [] (.bound none)
  | present {ts : List Token} {e : Expression} :
      Written ts (.expression .sum e) → Written ts (.bound (some e))

/-! ### The reader -/

/-- Goes on behind what was read from tokens. Reading never goes back. -/
def andThen {α β : Type} (ts : List Token) (read : Option (α × List Token))
    (next : α → (rest : List Token) → rest.length ≤ ts.length → Option β) : Option β :=
  match read with
  | none => none
  | some (a, rest) => if onward : rest.length ≤ ts.length then next a rest onward else none

theorem andThen_some {α β : Type} {ts rest : List Token} {a : α}
    {next : α → (rest : List Token) → rest.length ≤ ts.length → Option β}
    (onward : rest.length ≤ ts.length) :
    andThen ts (some (a, rest)) next = next a rest onward :=
  dif_pos onward

/-- A token that has to come first. -/
def expect (token : Token) : List Token → Option (Unit × List Token)
  | [] => none
  | t :: ts => if t = token then some ((), ts) else none

/-- What a word is read as. -/
def ofWord? (text : String) : Option Expression :=
  match Names.constants.lookup text with
  | some v => some (.constant v)
  | none => if Names.canBeMethod text then some (.name text) else none

/-- A name is not the word for a constant. -/
theorem ofWord?_of_canBeMethod {text : String} (isName : Names.canBeMethod text = true) :
    ofWord? text = some (.name text) := by
  have notConstant := Option.isNone_iff_eq_none.1 (Bool.and_eq_true_iff.1 isName).2
  rw [ofWord?, notConstant]
  exact if_pos isName

mutual

/-- Each function reads as much as it can from tokens and returns the rest of them. -/
def readSum (ts : List Token) : Option (Expression × List Token) :=
  andThen ts (readProduct ts) fun e rest _ => readSumAfter e rest
termination_by 9 * ts.length + 5

def readSumAfter (l : Expression) (ts : List Token) : Option (Expression × List Token) :=
  match ts with
  | .operator o :: us =>
      if o.isAdditive then
        andThen us (readProduct us) fun r rest _ => readSumAfter (.operation l o r) rest
      else some (l, .operator o :: us)
  | ts => some (l, ts)
termination_by 9 * ts.length

def readProduct (ts : List Token) : Option (Expression × List Token) :=
  andThen ts (readFactor ts) fun e rest _ => readProductAfter e rest
termination_by 9 * ts.length + 4

def readProductAfter (l : Expression) (ts : List Token) :
    Option (Expression × List Token) :=
  match ts with
  | .operator o :: us =>
      if o.isAdditive then some (l, .operator o :: us)
      else andThen us (readFactor us) fun r rest _ => readProductAfter (.operation l o r) rest
  | ts => some (l, ts)
termination_by 9 * ts.length

def readFactor (ts : List Token) : Option (Expression × List Token) :=
  match ts with
  | .operator .subtract :: us =>
      andThen us (readFactor us) fun e rest _ => some (.negative e, rest)
  | ts => readPrimary ts
termination_by 9 * ts.length + 3

def readPrimary (ts : List Token) : Option (Expression × List Token) :=
  andThen ts (readAtom ts) fun e rest _ => readPrimaryAfter e rest
termination_by 9 * ts.length + 2

def readPrimaryAfter (e : Expression) (ts : List Token) :
    Option (Expression × List Token) :=
  match ts with
  | .dot :: .word text :: us =>
      if Names.canBeMethod text then readPrimaryAfter (.member e text) us else none
  | .opening .round :: us =>
      andThen us (readListing .round us) fun es rest _ => readPrimaryAfter (.call e es) rest
  | .opening .square :: us =>
      andThen us (readIndex us) fun index rest _ => readPrimaryAfter (index e) rest
  | ts => some (e, ts)
termination_by 9 * ts.length

/-- What is between the brackets of a subscript or a slice, with the closing bracket. -/
def readIndex (ts : List Token) : Option ((Expression → Expression) × List Token) :=
  andThen ts (readBound ts) fun a rest _ =>
    match rest with
    | .colon :: us => readSlice a us
    | .closing .square :: us => a.map fun i => ((.subscript · i), us)
    | _ => none
termination_by 9 * ts.length + 7
decreasing_by
  · omega
  · simp only [List.length_cons] at *
    omega

/-- The bounds of a slice after the first one. -/
def readSlice (a : Option Expression) (ts : List Token) :
    Option ((Expression → Expression) × List Token) :=
  andThen ts (readBound ts) fun b rest _ =>
    match rest with
    | .colon :: us =>
        andThen us (readBound us) fun c rest _ =>
          andThen us (expect (.closing .square) rest) fun _ rest _ =>
            some ((.slice · a b c), rest)
    | .closing .square :: us => some ((.slice · a b none), us)
    | _ => none
termination_by 9 * ts.length + 7
decreasing_by
  · omega
  · simp only [List.length_cons] at *
    omega

def readAtom (ts : List Token) : Option (Expression × List Token) :=
  match ts with
  | .word text :: us => (ofWord? text).map (·, us)
  | .integer n :: us => some (.integer n, us)
  | .float x :: us => some (.float x, us)
  | .string text :: us => some (.string text, us)
  | .opening .round :: us =>
      andThen us (readSum us) fun e rest _ =>
        andThen us (expect (.closing .round) rest) fun _ rest _ => some (e, rest)
  | .opening .square :: us =>
      andThen us (readListing .square us) fun es rest _ => some (.list es, rest)
  | .opening .curly :: us =>
      if us.head? = some (.closing .curly) then some (.dict [], us.tail)
      else
        andThen us (readEntries us) fun es rest _ =>
          andThen us (expect (.closing .curly) rest) fun _ rest _ => some (.dict es, rest)
  | _ => none
termination_by 9 * ts.length + 1

def readSeries (ts : List Token) : Option (List Expression × List Token) :=
  andThen ts (readSum ts) fun e rest _ =>
    match rest with
    | .comma :: us => andThen us (readSeries us) fun es rest _ => some (e :: es, rest)
    | rest => some ([e], rest)
termination_by 9 * ts.length + 6
decreasing_by
  · omega
  · simp only [List.length_cons] at *
    omega

/-- The items that there may be in front of a closing bracket, with the bracket. -/
def readListing (bracket : Bracket) (ts : List Token) :
    Option (List Expression × List Token) :=
  if ts.head? = some (.closing bracket) then some ([], ts.tail)
  else
    andThen ts (readSeries ts) fun es rest _ =>
      andThen ts (expect (.closing bracket) rest) fun _ rest _ => some (es, rest)
termination_by 9 * ts.length + 7

def readEntries (ts : List Token) :
    Option (List (Expression × Expression) × List Token) :=
  andThen ts (readSum ts) fun k rest _ =>
    andThen ts (expect .colon rest) fun _ rest _ =>
      andThen ts (readSum rest) fun v rest _ =>
        match rest with
        | .comma :: us => andThen us (readEntries us) fun es rest _ => some ((k, v) :: es, rest)
        | rest => some ([(k, v)], rest)
termination_by 9 * ts.length + 6
decreasing_by
  · omega
  · omega
  · simp only [List.length_cons] at *
    omega

def readBound (ts : List Token) : Option (Option Expression × List Token) :=
  if ts.head? = some .colon ∨ ts.head? = some (.closing .square) then some (none, ts)
  else andThen ts (readSum ts) fun e rest _ => some (some e, rest)
termination_by 9 * ts.length + 6

end

/-! ### First tokens -/

/-- Whether a token can be the first one of an expression. -/
def begins : Token → Bool
  | .word _ => true
  | .integer _ => true
  | .float _ => true
  | .string _ => true
  | .opening _ => true
  | .operator .subtract => true
  | _ => false

/-- Whether tokens start like an expression, and like a primary if they are one. -/
def Begins (primary : Bool) (ts : List Token) : Prop :=
  ∃ t us, ts = t :: us ∧ begins t = true ∧ (primary = true → t ≠ .operator .subtract)

theorem Begins.append {primary : Bool} {ts : List Token} (begun : Begins primary ts)
    (us : List Token) : Begins primary (ts ++ us) := by
  obtain ⟨t, others, rfl, can, notMinus⟩ := begun
  exact ⟨t, others ++ us, rfl, can, notMinus⟩

theorem Begins.weaken {ts : List Token} (begun : Begins true ts) : Begins false ts := by
  obtain ⟨t, others, rfl, can, _⟩ := begun
  exact ⟨t, others, rfl, can, Bool.noConfusion⟩

theorem begins_cons {primary : Bool} {t : Token} {us : List Token} (can : begins t = true)
    (notMinus : t ≠ .operator .subtract) : Begins primary (t :: us) :=
  ⟨t, us, rfl, can, fun _ => notMinus⟩

/-- How what tokens are written for makes them start. -/
def Phrase.BeginsIn (ts : List Token) : Phrase → Prop
  | .expression level _ => Begins (level = .primary) ts
  | .series _ => Begins false ts
  | .entries _ => Begins false ts
  | _ => True

theorem Written.beginsIn {ts : List Token} {phrase : Phrase} (written : Written ts phrase) :
    phrase.BeginsIn ts := by
  induction written with
  | sum _ _ _ left _ => exact left.append _
  | ofProduct _ ih => exact ih
  | product _ _ _ left _ => exact left.append _
  | ofFactor _ ih => exact ih
  | negative _ _ => exact ⟨_, _, rfl, rfl, Bool.noConfusion⟩
  | ofPrimary _ ih => exact Begins.weaken ih
  | member _ _ ih => exact ih.append _
  | call _ _ ih _ => exact (ih.append _).append _
  | subscript _ _ ih _ => exact (ih.append _).append _
  | slice _ _ _ ih _ _ => exact ((ih.append _).append _).append _
  | sliceStep _ _ _ _ ih _ _ _ => exact (((ih.append _).append _).append _).append _
  | last _ ih => exact ih
  | more _ _ ih _ => exact ih.append _
  | noItems => trivial
  | items _ _ => trivial
  | lastEntry _ _ ih _ => exact ih.append _
  | moreEntries _ _ _ ih _ _ => exact (ih.append _).append _
  | absent => trivial
  | present _ _ => trivial
  | _ => exact begins_cons rfl (by simp)

/-! ### Where reading stops -/

/-- Whether a token goes on with a primary. -/
def goesOnPrimary : Token → Bool
  | .dot => true
  | .opening .round => true
  | .opening .square => true
  | _ => false

/-- Whether a token goes on with a product. -/
def goesOnProduct : Token → Bool
  | .operator o => !o.isAdditive
  | t => goesOnPrimary t

/-- Whether a token goes on with a sum. -/
def goesOnSum : Token → Bool
  | .operator _ => true
  | t => goesOnPrimary t

/-- Whether no token goes on with what was read. -/
def Stops (goesOn : Token → Bool) (rest : List Token) : Prop :=
  ∀ t ∈ rest.head?, goesOn t = false

variable {rest : List Token}

theorem Stops.product (stops : Stops goesOnSum rest) : Stops goesOnProduct rest := by
  intro t head
  have stop := stops t head
  cases t with
  | operator o => cases stop
  | _ => exact stop

theorem Stops.primary (stops : Stops goesOnProduct rest) : Stops goesOnPrimary rest := by
  intro t head
  have stop := stops t head
  cases t with
  | operator o => rfl
  | _ => exact stop

theorem readPrimaryAfter_of_stops {e : Expression} (stops : Stops goesOnPrimary rest) :
    readPrimaryAfter e rest = some (e, rest) := by
  rw [readPrimaryAfter.eq_def]
  split
  · exact absurd (stops _ rfl) (by decide)
  · exact absurd (stops _ rfl) (by decide)
  · exact absurd (stops _ rfl) (by decide)
  · rfl

theorem readProductAfter_of_stops {e : Expression} (stops : Stops goesOnProduct rest) :
    readProductAfter e rest = some (e, rest) := by
  rw [readProductAfter.eq_def]
  split
  next o us =>
    have additive : o.isAdditive = true := by simpa [goesOnProduct] using stops _ rfl
    rw [if_pos additive]
  · rfl

theorem readSumAfter_of_stops {e : Expression} (stops : Stops goesOnSum rest) :
    readSumAfter e rest = some (e, rest) := by
  rw [readSumAfter.eq_def]
  split
  · exact absurd (stops _ rfl) (by simp [goesOnSum])
  · rfl

/-! ### Reading back -/

/-- How the reader reads tokens that are written for something, in front of others. As
sums and products group to the left, what is read of them is what a longer one goes on
from. -/
def Phrase.ReadFrom (ts : List Token) : Phrase → Prop
  | .expression .sum e => ∀ rest, Stops goesOnProduct rest →
      readSum (ts ++ rest) = readSumAfter e rest
  | .expression .product e => ∀ rest, Stops goesOnPrimary rest →
      readProduct (ts ++ rest) = readProductAfter e rest
  | .expression .factor e => ∀ rest, Stops goesOnPrimary rest →
      readFactor (ts ++ rest) = some (e, rest)
  | .expression .primary e => ∀ rest, readPrimary (ts ++ rest) = readPrimaryAfter e rest
  | .series es => ∀ bracket rest,
      readSeries (ts ++ .closing bracket :: rest) = some (es, .closing bracket :: rest)
  | .listing es => ∀ bracket rest,
      readListing bracket (ts ++ .closing bracket :: rest) = some (es, rest)
  | .entries es => ∀ bracket rest,
      readEntries (ts ++ .closing bracket :: rest) = some (es, .closing bracket :: rest)
  | .bound b => ∀ t rest, t = .colon ∨ t = .closing .square →
      readBound (ts ++ t :: rest) = some (b, t :: rest)

variable {ts us : List Token} {e : Expression}

/-- A whole sum is read in front of a token that does not go on with it. -/
theorem readSum_of_readFrom (read : (Phrase.expression .sum e).ReadFrom ts)
    (stops : Stops goesOnSum rest) : readSum (ts ++ rest) = some (e, rest) := by
  rw [read rest stops.product, readSumAfter_of_stops stops]

theorem stops_cons {goesOn : Token → Bool} {t : Token} {rest : List Token}
    (stop : goesOn t = false) : Stops goesOn (t :: rest) := by
  intro u head
  cases head
  exact stop

theorem readPrimary_of_readAtom (onward : rest.length ≤ ts.length)
    (read : readAtom ts = some (e, rest)) :
    readPrimary ts = readPrimaryAfter e rest := by
  rw [readPrimary.eq_def, read, andThen_some onward]

theorem expect_cons (t : Token) (ts : List Token) : expect t (t :: ts) = some ((), ts) :=
  if_pos rfl

/-- A token that is expected is passed. -/
theorem andThen_expect {α : Type} {t : Token}
    {next : Unit → (rest : List Token) → rest.length ≤ ts.length → Option α}
    (onward : rest.length ≤ ts.length) :
    andThen ts (expect t (t :: rest)) next = next () rest onward := by
  rw [expect_cons, andThen_some onward]

/-- A bound of a slice is absent or read as a sum. -/
theorem readBound_of_begins {b : Option Expression} {t : Token}
    (ends : t = .colon ∨ t = .closing .square) (rest : List Token)
    (written : ts = [] ∧ b = none ∨ ∃ e, b = some e ∧ Begins false ts ∧
      (Phrase.expression .sum e).ReadFrom ts) :
    readBound (ts ++ t :: rest) = some (b, t :: rest) := by
  rw [readBound.eq_def]
  rcases written with ⟨rfl, rfl⟩ | ⟨e, rfl, ⟨u, us, rfl, can, _⟩, read⟩
  · rw [if_pos (by rcases ends with rfl | rfl <;> simp)]
    rfl
  · have stops : Stops goesOnSum (t :: rest) := by
      rcases ends with rfl | rfl <;> exact stops_cons rfl
    have notEnd : ¬ ((u :: us ++ t :: rest).head? = some .colon ∨
        (u :: us ++ t :: rest).head? = some (.closing .square)) := by
      rintro (same | same) <;> cases same <;> exact absurd can (by decide)
    rw [if_neg notEnd, readSum_of_readFrom read stops, andThen_some (by grind)]

section Brackets

variable {a b c : Option Expression} {index : Expression → Expression}

theorem readIndex_of_closing {i : Expression}
    (onward : (Token.closing .square :: rest).length ≤ ts.length)
    (read : readBound ts = some (some i, .closing .square :: rest)) :
    readIndex ts = some ((.subscript · i), rest) := by
  rw [readIndex.eq_def, read, andThen_some onward]
  rfl

theorem readIndex_of_colon (onward : (Token.colon :: us).length ≤ ts.length)
    (read : readBound ts = some (a, .colon :: us))
    (slice : readSlice a us = some (index, rest)) : readIndex ts = some (index, rest) := by
  rw [readIndex.eq_def, read, andThen_some onward]
  exact slice

theorem readSlice_of_closing (onward : (Token.closing .square :: rest).length ≤ ts.length)
    (read : readBound ts = some (b, .closing .square :: rest)) :
    readSlice a ts = some ((.slice · a b none), rest) := by
  rw [readSlice.eq_def, read, andThen_some onward]

theorem readSlice_of_colon (onward : (Token.colon :: us).length ≤ ts.length)
    (onward' : (Token.closing .square :: rest).length ≤ us.length)
    (read : readBound ts = some (b, .colon :: us))
    (step : readBound us = some (c, .closing .square :: rest)) :
    readSlice a ts = some ((.slice · a b c), rest) := by
  rw [readSlice.eq_def, read, andThen_some onward]
  dsimp only
  rw [step, andThen_some onward', andThen_expect ((Nat.le_succ _).trans onward')]

end Brackets

/-- No expression starts where a bracket closes. -/
theorem head?_ne_closing {t : Token} (can : begins t = true) {bracket : Bracket} :
    (t :: us ++ rest).head? ≠ some (.closing bracket) := by
  intro same
  cases same
  exact absurd can Bool.false_ne_true

/-- What tokens are written for is what the reader finds in them. -/
theorem readFrom_of_written {phrase : Phrase} (written : Written ts phrase) :
    phrase.ReadFrom ts := by
  induction written with
  | @sum ts us l r o additive _ _ left right =>
      intro rest stops
      have read := right rest stops.primary
      rw [readProductAfter_of_stops stops] at read
      rw [List.append_assoc, List.cons_append,
        left _ (stops_cons (by simp [goesOnProduct, additive])), readSumAfter.eq_def]
      dsimp only
      rw [if_pos additive, read, andThen_some (by simp)]
  | ofProduct _ ih =>
      intro rest stops
      rw [readSum.eq_def, ih rest stops.primary, readProductAfter_of_stops stops,
        andThen_some (by simp)]
  | @product ts us l r o multiplicative _ _ left right =>
      intro rest stops
      rw [List.append_assoc, List.cons_append, left _ (stops_cons rfl), readProductAfter.eq_def]
      dsimp only
      rw [if_neg (by simp [multiplicative]), right rest stops, andThen_some (by simp)]
  | ofFactor _ ih =>
      intro rest stops
      rw [readProduct.eq_def, ih rest stops, andThen_some (by simp)]
  | negative _ ih =>
      intro rest stops
      rw [List.cons_append, readFactor.eq_def]
      dsimp only
      rw [ih rest stops, andThen_some (by simp)]
  | ofPrimary written ih =>
      intro rest stops
      -- A primary does not start with a sign, so that it is not read as a negative.
      obtain ⟨t, us, rfl, _, notMinus⟩ := written.beginsIn
      have read := ih rest
      rw [List.cons_append] at read ⊢
      rw [readFactor.eq_def]
      split
      next same => exact absurd (List.cons.inj same).1 (notMinus rfl)
      next => rw [read, readPrimaryAfter_of_stops stops]
  | member _ isName ih =>
      intro rest
      rw [List.append_assoc, ih, List.cons_append, List.cons_append, readPrimaryAfter.eq_def]
      dsimp only
      rw [if_pos isName]
      rfl
  | call _ _ ih args =>
      intro rest
      rw [List.append_assoc, List.append_assoc, ih, List.cons_append, readPrimaryAfter.eq_def]
      dsimp only
      rw [List.singleton_append, args, andThen_some (by grind)]
  | subscript _ index ih read =>
      intro rest
      have bound := readBound_of_begins (Or.inr rfl) rest
        (Or.inr ⟨_, rfl, index.beginsIn, read⟩)
      have inside := readIndex_of_closing (by grind) bound
      rw [List.append_assoc, List.append_assoc, ih, List.cons_append, readPrimaryAfter.eq_def]
      dsimp only
      rw [List.singleton_append, inside, andThen_some (by grind)]
  | slice _ _ _ ih start stop =>
      intro rest
      have inside := readIndex_of_colon (by grind) (start .colon _ (Or.inl rfl))
        (readSlice_of_closing (by grind) (stop (.closing .square) rest (Or.inr rfl)))
      simp only [List.append_assoc, List.cons_append, List.nil_append]
      rw [ih, readPrimaryAfter.eq_def]
      dsimp only
      rw [inside, andThen_some (by grind)]
  | sliceStep _ _ _ _ ih start stop step =>
      intro rest
      have inside := readIndex_of_colon (by grind) (start .colon _ (Or.inl rfl))
        (readSlice_of_colon (by grind) (by grind) (stop .colon _ (Or.inl rfl))
          (step (.closing .square) rest (Or.inr rfl)))
      simp only [List.append_assoc, List.cons_append, List.nil_append]
      rw [ih, readPrimaryAfter.eq_def]
      dsimp only
      rw [inside, andThen_some (by grind)]
  | name isName =>
      intro rest
      refine readPrimary_of_readAtom (by grind) ?_
      rw [List.singleton_append, readAtom.eq_def]
      dsimp only
      rw [ofWord?_of_canBeMethod isName]
      rfl
  | constant known =>
      intro rest
      refine readPrimary_of_readAtom (by grind) ?_
      rw [List.singleton_append, readAtom.eq_def]
      dsimp only
      rw [ofWord?, known]
      rfl
  | integer n =>
      intro rest
      exact readPrimary_of_readAtom (by simp) (by rw [readAtom.eq_def]; rfl)
  | float x =>
      intro rest
      exact readPrimary_of_readAtom (by simp) (by rw [readAtom.eq_def]; rfl)
  | string text =>
      intro rest
      exact readPrimary_of_readAtom (by simp) (by rw [readAtom.eq_def]; rfl)
  | group _ ih =>
      intro rest
      refine readPrimary_of_readAtom (by grind) ?_
      rw [List.append_assoc, List.cons_append, readAtom.eq_def]
      dsimp only
      rw [List.singleton_append, readSum_of_readFrom ih (stops_cons rfl), andThen_some (by simp),
        andThen_expect (by grind)]
  | list _ ih =>
      intro rest
      refine readPrimary_of_readAtom (by grind) ?_
      rw [List.append_assoc, List.cons_append, readAtom.eq_def]
      dsimp only
      rw [List.singleton_append, ih, andThen_some (by grind)]
  | emptyDict =>
      intro rest
      exact readPrimary_of_readAtom (by grind) (by rw [readAtom.eq_def]; rfl)
  | dict written ih =>
      intro rest
      refine readPrimary_of_readAtom (by grind) ?_
      obtain ⟨t, us, rfl, can, _⟩ := written.beginsIn
      have read := ih .curly rest
      rw [List.append_assoc, List.cons_append, List.singleton_append, readAtom.eq_def]
      dsimp only
      rw [if_neg (head?_ne_closing can), read, andThen_some (by grind), andThen_expect (by grind)]
  | last _ ih =>
      intro bracket rest
      rw [readSeries.eq_def, readSum_of_readFrom ih (stops_cons rfl), andThen_some (by simp)]
  | more _ _ ih others =>
      intro bracket rest
      rw [readSeries.eq_def, List.append_assoc, List.cons_append,
        readSum_of_readFrom ih (stops_cons rfl), andThen_some (by simp)]
      dsimp only
      rw [others, andThen_some (by simp)]
  | noItems =>
      intro bracket rest
      rw [readListing.eq_def]
      exact if_pos rfl
  | items written ih =>
      intro bracket rest
      obtain ⟨t, us, rfl, can, _⟩ := written.beginsIn
      rw [readListing.eq_def, if_neg (head?_ne_closing can), ih, andThen_some (by grind),
        andThen_expect (by grind)]
  | lastEntry _ _ key value =>
      intro bracket rest
      rw [readEntries.eq_def, List.append_assoc, List.cons_append,
        readSum_of_readFrom key (stops_cons rfl), andThen_some (by simp),
        andThen_expect (by grind), readSum_of_readFrom value (stops_cons rfl),
        andThen_some (by grind)]
  | moreEntries _ _ _ key value others =>
      intro bracket rest
      simp only [List.append_assoc, List.cons_append]
      rw [readEntries.eq_def, readSum_of_readFrom key (stops_cons rfl), andThen_some (by simp),
        andThen_expect (by grind), readSum_of_readFrom value (stops_cons rfl),
        andThen_some (by grind)]
      dsimp only
      rw [others, andThen_some (by simp)]
  | absent => exact fun t rest ends => readBound_of_begins ends rest (Or.inl ⟨rfl, rfl⟩)
  | present written ih =>
      exact fun t rest ends =>
        readBound_of_begins ends rest (Or.inr ⟨_, rfl, written.beginsIn, ih⟩)

/-- Tokens are written for at most one expression. -/
theorem Written.unique {e' : Expression} (written : Written ts (.expression .sum e))
    (written' : Written ts (.expression .sum e')) : e = e' := by
  have ends : Stops goesOnSum [] := fun t head => by cases head
  have read := readSum_of_readFrom (readFrom_of_written written) ends
  have read' := readSum_of_readFrom (readFrom_of_written written') ends
  cases read.symm.trans read'
  rfl

end Expression

end FunctionSynthesis
