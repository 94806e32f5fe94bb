import FunctionSynthesis.Proofs.Attempt
import FunctionSynthesis.Proofs.Expression.Text
import FunctionSynthesis.Proofs.Term.Structure
import FunctionSynthesis.Proofs.Value.Numeral
import FunctionSynthesis.Proofs.Value.Scalar
import FunctionSynthesis.Term.Source

/-!
# What source texts are read as

A term is the tree of an expression (`Term.tree`). If its names are words and its literals
can be written, then its source text is read as that tree and as nothing else
(`isReadAs_sourceText`): an operand is bracketed unless it binds as tightly as its place
asks for (`denotes_bracketedBelow`), and a number is bracketed where it is a receiver
(`denotes_receiverText`).
-/

namespace FunctionSynthesis

/-! ### Trees -/

/-- The expression that a literal is: a number below zero is the negative of another. -/
def Value.tree : Value → Expression
  | .int n => if n < 0 then .negative (.integer n.natAbs) else .integer n.natAbs
  | .float x => if x.isNegative then .negative (.float x.negate) else .float x
  | .str s => .string s
  | v => .constant v

namespace Term

/-- Whether a term is the literal for an absent value. -/
def isAbsent : Term → Bool
  | .literal .none => true
  | _ => false

mutual

/-- The expression that a term is. Calling the method of an operator is the operation. -/
def tree : Term → Expression
  | .literal v => v.tree
  | .var name => .name name
  | .call r m [a] =>
      match Operator.ofMethod? m with
      | some o => .operation (tree r) o (tree a)
      | none => .call (.member (tree r) m) [tree a]
  | .call r m as => .call (.member (tree r) m) (trees as)
  | .field r name [] => .member (tree r) name
  | .field r name [a] =>
      if name = "__getitem__" then .subscript (tree r) (tree a)
      else .call (.member (tree r) name) [tree a]
  | .field r name as => .call (.member (tree r) name) (trees as)
  | .array ts => .list (trees ts)
  | .record es => .dict (entryTrees es)
  | .slice r a b s =>
      .slice (tree r) (if a.isAbsent then none else some (tree a))
        (if b.isAbsent then none else some (tree b)) (stepTree s)
  -- The rest of the terms are no expressions.
  | .hole _ _ => .name holeMark
  | .filled _ _ => .name holeMark
  | .foreign => .name holeMark
termination_by structural t => t

def trees : List Term → List Expression
  | [] => []
  | t :: ts => tree t :: trees ts
termination_by structural ts => ts

def entryTrees : List (Term × Term) → List (Expression × Expression)
  | [] => []
  | (k, v) :: es => (tree k, tree v) :: entryTrees es
termination_by structural es => es

def stepTree : Option Term → Option Expression
  | none => none
  | some s => if s.isAbsent then none else some (tree s)
termination_by structural s => s

end

end Term

/-- Whether a value is a literal of the grammar. -/
def Value.IsExpressible : Value → Prop
  | .float x => x.isFinite = true
  | v => v.isAtom = true

/-- Whether a node is one of an expression: its name is a word that is not reserved, its
literal is one of the grammar, and it takes one item where it takes items. -/
def Term.IsExpressible : Term → Prop
  | .literal v => v.IsExpressible
  | .var name => Names.canBeMethod name = true
  | .call _ m _ => Names.canBeMethod m = true
  | .field _ name as =>
      Names.canBeMethod name = true ∧ (name = "__getitem__" → as.length = 1)
  | .array _ => True
  | .record _ => True
  | .slice _ _ _ _ => True
  | .hole _ _ => False
  | .filled _ _ => False
  | .foreign => False

/-- Whether a node is no literal with an integer that is too long to be written. -/
def Term.IsWritable : Term → Prop
  | .literal v => v.isWritable = true
  | _ => True

/-! ### Levels -/

namespace Expression

/-- The narrowest place for what binds as tightly as a number tells. -/
def Level.ofBinding : Nat → Level
  | 0 => .sum
  | 1 => .sum
  | 2 => .product
  | n + 3 => if n + 3 < Term.atomLevel then .factor else .primary

theorem Level.ofBinding_add_three (n : Nat) :
    Level.ofBinding (n + 3) = if n + 3 < Term.atomLevel then .factor else .primary :=
  rfl

variable {text : List Char} {e : Expression}

theorem Denotes.ofBinding_of_succ {level : Nat}
    (denotes : Denotes text (.expression (.ofBinding (level + 1)) e)) :
    Denotes text (.expression (.ofBinding level) e) := by
  match level with
  | 0 => exact denotes
  | 1 => exact denotes.ofProduct
  | 2 => exact denotes.ofFactor
  | n + 3 =>
      rw [Nat.add_right_comm, Level.ofBinding_add_three] at denotes
      rw [Level.ofBinding_add_three]
      by_cases below : n + 1 + 3 < Term.atomLevel
      · rw [if_pos below] at denotes
        rw [if_pos (by omega)]
        exact denotes
      · rw [if_neg below] at denotes
        split
        · exact denotes.ofPrimary
        · exact denotes

/-- What binds tightly can stand in every wider place. -/
theorem Denotes.ofBinding_of_le {level level' : Nat} (le : level ≤ level')
    (denotes : Denotes text (.expression (.ofBinding level') e)) :
    Denotes text (.expression (.ofBinding level) e) := by
  induction le with
  | refl => exact denotes
  | step _ ih => exact ih denotes.ofBinding_of_succ

end Expression

namespace Term

/-! ### Brackets -/

/-- How tightly the source of a term binds. A number binds like a factor, whatever its
source says: a point behind it would be one of its own. -/
def binding (t : Term) (source : Source) : Nat :=
  if t.isNumeral then 3 else source.level

/-- Whether a source of a term is the text of an expression. -/
def IsSourceOf (t : Term) (source : Source) (e : Expression) : Prop :=
  Expression.Denotes source.text.toList (.expression (.ofBinding (t.binding source)) e)

variable {t : Term} {source left right : Source} {e f : Expression}

theorem toList_bracketed (text : String) : s!"({text})".toList = '(' :: text.toList ++ [')'] := by
  simp [toString]

/-- Every source can stand between brackets, commas and signs of slices. -/
theorem IsSourceOf.sum (isSource : t.IsSourceOf source e) :
    Expression.Denotes source.text.toList (.expression .sum e) :=
  isSource.ofBinding_of_le (Nat.zero_le _)

theorem denotes_bracketed (isSource : t.IsSourceOf source e) :
    Expression.Denotes s!"({source.text})".toList (.expression .primary e) := by
  rw [toList_bracketed]
  exact isSource.sum.group

/-- A source is bracketed unless it binds as tightly as its place asks for. -/
theorem denotes_bracketedBelow {level : Nat} (fits : level ≤ atomLevel)
    (tight : level ≤ source.level → level ≤ t.binding source)
    (isSource : t.IsSourceOf source e) :
    Expression.Denotes (source.bracketedBelow level).toList (.expression (.ofBinding level) e) := by
  unfold Source.bracketedBelow
  by_cases below : source.level < level
  · have primary : Expression.Denotes _ (.expression (.ofBinding atomLevel) e) :=
      denotes_bracketed isSource
    rw [if_pos below]
    exact primary.ofBinding_of_le fits
  · rw [if_neg below]
    exact isSource.ofBinding_of_le (tight (not_lt.1 below))

/-- Operators ask for no more than a factor, which a number is too. -/
theorem denotes_operand {level : Nat} (isOperand : level ≤ 3)
    (isSource : t.IsSourceOf source e) :
    Expression.Denotes (source.bracketedBelow level).toList (.expression (.ofBinding level) e) := by
  refine denotes_bracketedBelow (isOperand.trans (by decide)) (fun enough => ?_) isSource
  unfold binding
  split
  · exact isOperand
  · exact enough

/-- A receiver has to be a primary, which a number only is in brackets. -/
theorem denotes_receiverText (isSource : t.IsSourceOf source e) :
    Expression.Denotes (t.receiverText source).toList (.expression .primary e) := by
  unfold receiverText
  by_cases numeral : t.isNumeral = true
  · rw [if_pos numeral]
    exact denotes_bracketed isSource
  · rw [if_neg numeral]
    have tight (enough : atomLevel ≤ source.level) : atomLevel ≤ t.binding source := by
      rw [binding, if_neg numeral]
      exact enough
    exact denotes_bracketedBelow le_rfl tight isSource

/-! ### Literals -/

theorem toList_toString_int (n : Int) : (toString n).toList =
    (if n < 0 then ['-'] else []) ++ (toString n.natAbs).toList := by
  cases n with
  | ofNat n => rfl
  | negSucc n =>
      rw [if_pos (Int.negSucc_lt_zero n)]
      exact String.toList_append

theorem isSourceOf_literal {v : Value} (expressible : v.IsExpressible) :
    (literal v).IsSourceOf (.atom v.literalText) v.tree := by
  cases v with
  | none => exact Expression.denotes_constant (by decide) rfl
  | bool b =>
      have primary : Expression.Denotes (Value.bool b).literalText.toList
          (.expression .primary (.constant (.bool b))) := by
        cases b <;> exact Expression.denotes_constant (by decide) rfl
      exact primary.ofPrimary
  | int n =>
      change Expression.Denotes (toString n).toList (.expression .factor (Value.int n).tree)
      rw [toList_toString_int, Value.tree]
      split
      · exact (Expression.denotes_integer _).negative
      · exact Expression.denotes_integer _
  | float x =>
      obtain ⟨numeral, isReal, text, read⟩ := Binary64.exists_numeral expressible
      have unsigned := Expression.denotes_float isReal read
      change Expression.Denotes x.text.toList (.expression .factor (Value.float x).tree)
      rw [text, Value.tree]
      unfold Binary64.absolute at unsigned
      by_cases negative : x.isNegative = true
      · rw [if_pos negative] at unsigned ⊢
        rw [if_pos negative]
        exact unsigned.negative
      · rw [if_neg negative] at unsigned ⊢
        rw [if_neg negative]
        exact unsigned
  | str s => exact Expression.denotes_string s
  | _ => exact absurd expressible (by simp [Value.IsExpressible, Value.isAtom, Value.isScalar])

/-! ### Operations -/

/-- How tightly an operator binds. -/
def operatorLevel (o : Operator) : Nat :=
  if o.isAdditive then 1 else 2

theorem binaryOperator?_eq (m : String) : binaryOperator? m =
    (Operator.ofMethod? m).map fun o => (String.ofList o.sign, operatorLevel o) := by
  unfold binaryOperator? Operator.ofMethod?
  split
  case h_7 => simp [*]
  all_goals rfl

theorem toList_operation (sign : List Char) (level : Nat) :
    (left.operation (String.ofList sign) level right).text.toList =
      (left.bracketedBelow level).toList ++ (' ' :: sign ++ [' ']) ++
        (right.bracketedBelow (level + 1)).toList := by
  simp [Source.operation, toString]

/-- Operations of one level group to the left. -/
theorem isSourceOf_operation (o : Operator) {r a : Term} (m : String)
    (ofLeft : r.IsSourceOf left e) (ofRight : a.IsSourceOf right f) :
    (call r m [a]).IsSourceOf (left.operation (String.ofList o.sign) (operatorLevel o) right)
      (.operation e o f) := by
  change Expression.Denotes _ (.expression (.ofBinding (operatorLevel o)) _)
  rw [toList_operation, operatorLevel]
  by_cases additive : o.isAdditive = true
  · rw [if_pos additive]
    exact (denotes_operand (by decide) ofLeft).sum additive
      (denotes_operand (by decide) ofRight)
  · rw [if_neg additive]
    exact (denotes_operand (by decide) ofLeft).product (Bool.eq_false_iff.2 additive)
      (denotes_operand (by decide) ofRight)

/-! ### Primaries -/

theorem isSourceOf_atom {text : String} (notNumeral : t.isNumeral = false)
    (denotes : Expression.Denotes text.toList (.expression .primary e)) :
    t.IsSourceOf (.atom text) e := by
  unfold IsSourceOf binding
  rw [notNumeral]
  exact denotes

section Postfixes

variable {receiver : String}
  (object : Expression.Denotes receiver.toList (.expression .primary e))

include object

theorem denotes_methodCall {method : String} (isName : Names.canBeMethod method = true)
    {args : List String} {es : List Expression} (all : Expression.DenoteAll args es) :
    Expression.Denotes (methodCall receiver method args).toList
      (.expression .primary (.call (.member e method) es)) := by
  have call := (object.member isName).call (Expression.denotes_listing all)
  simpa [methodCall, toString] using call

theorem denotes_member {name : String} (isName : Names.canBeMethod name = true) :
    Expression.Denotes s!"{receiver}.{name}".toList (.expression .primary (.member e name)) := by
  simpa [toString] using object.member isName

theorem denotes_subscript {index : String}
    (inside : Expression.Denotes index.toList (.expression .sum f)) :
    Expression.Denotes (subscript receiver index).toList
      (.expression .primary (.subscript e f)) := by
  simpa [subscript] using object.subscript inside

variable {start stop : String} {x y : Option Expression}
  (first : Expression.Denotes start.toList (.bound x))
  (second : Expression.Denotes stop.toList (.bound y))

include first second

theorem denotes_slice :
    Expression.Denotes (subscript receiver (":".intercalate [start, stop])).toList
      (.expression .primary (.slice e x y none)) := by
  simpa [subscript] using object.slice first second

theorem denotes_sliceStep {step : String} {z : Option Expression}
    (third : Expression.Denotes step.toList (.bound z)) :
    Expression.Denotes (subscript receiver (":".intercalate [start, stop, step])).toList
      (.expression .primary (.slice e x y z)) := by
  simpa [subscript] using object.sliceStep first second third

end Postfixes

/-! ### Bounds of slices -/

/-- A literal other than a floating number is only equal to itself. -/
theorem equal_literal_iff {v : Value} (scalar : v.isScalar = true) (exact : ∀ x, v ≠ .float x) :
    (t == literal v) = true ↔ t = literal v := by
  change equalWith _ t (literal v) = true ↔ _
  cases t with
  | literal w =>
      rw [equalWith, Value.sameLiteral_iff scalar, literal.injEq, or_iff_left]
      rintro ⟨x, y, _, isFloat, _⟩
      exact exact y isFloat
  | _ => simp [equalWith]

theorem isAbsent_iff : t.isAbsent = true ↔ t = nothing := by
  unfold isAbsent nothing
  split <;> simp_all

theorem equal_nothing_iff : (t == nothing) = true ↔ t = nothing :=
  equal_literal_iff rfl (by simp)

theorem denotes_boundText (isSource : t.IsSourceOf source e) :
    Expression.Denotes (boundText t source).toList
      (.bound (if t.isAbsent then none else some e)) := by
  unfold boundText
  by_cases absent : t = nothing
  · rw [if_pos (equal_nothing_iff.2 absent), if_pos (isAbsent_iff.2 absent)]
    exact Expression.denotes_absent
  · rw [if_neg (mt equal_nothing_iff.1 absent), if_neg (mt isAbsent_iff.1 absent)]
    exact isSource.sum.bound

theorem isReversal_iff {r a b : Term} {s : Option Term} :
    (slice r a b s).isReversal = true ↔ a = nothing ∧ b = nothing ∧ s = some (int (-1)) := by
  cases s with
  | none => simp [isReversal]
  | some step =>
      have isStep : (step == int (-1)) = true ↔ step = int (-1) :=
        equal_literal_iff rfl (by simp)
      simp only [isReversal, Bool.and_eq_true, equal_nothing_iff, isStep, Option.some.injEq,
        and_assoc]

attribute [local simp] source sources entrySources stepSource tree trees entryTrees stepTree

theorem source_literal {v : Value} (writable : v.isWritable = true) :
    (literal v).source = .ok (.atom v.literalText) := by
  rw [source, Value.written_of_isWritable _ writable]
  rfl

theorem source_int {n : Int} (short : n.natAbs < 2 ^ 64) :
    (int n).source = .ok (.atom (toString n)) :=
  source_literal ((Value.isWritable_int_iff n).2 (Value.lt_numeralBound short))

theorem source_nothing : nothing.source = .ok (.atom "None") :=
  source_literal rfl

/-- The shortcut for a reversal is what the slice would be written as anyway. -/
theorem source_slice (r a b : Term) (s : Option Term) : (slice r a b s).source = (do
    let receiver := receiverText r (← r.source)
    let start := boundText a (← a.source)
    let stop := boundText b (← b.source)
    let bounds := [start, stop] ++ (← stepSource s)
    return .atom (subscript receiver (":".intercalate bounds))) := by
  rw [source]
  by_cases reversal : (slice r a b s).isReversal = true
  · obtain ⟨rfl, rfl, rfl⟩ := isReversal_iff.1 reversal
    simp only [if_pos reversal, source_nothing, stepSource, source_int (n := -1) (by decide)]
    rfl
  · simp only [if_neg reversal]

/-! ### Nodes -/

/-- Whether a term has a source, which is that of its tree. -/
def HasSource (t : Term) : Prop :=
  ∃ source, t.source = .ok source ∧ t.IsSourceOf source t.tree

theorem exists_sources {ts : List Term} (each : ∀ t ∈ ts, t.HasSource) :
    ∃ texts, sources ts = .ok texts ∧ Expression.DenoteAll texts (trees ts) := by
  induction ts with
  | nil => exact ⟨[], rfl, .nil⟩
  | cons t ts ih =>
      obtain ⟨⟨source, written, isSource⟩, others⟩ := List.forall_mem_cons.1 each
      obtain ⟨texts, writtenOthers, all⟩ := ih others
      refine ⟨source.text :: texts, ?_, .cons isSource.sum all⟩
      rw [sources, written, writtenOthers]
      rfl

theorem exists_entrySources {es : List (Term × Term)}
    (each : ∀ entry ∈ es, entry.1.HasSource ∧ entry.2.HasSource) :
    ∃ texts, entrySources es = .ok texts ∧
      List.Forall₂ Expression.DenotesEntry texts (entryTrees es) := by
  induction es with
  | nil => exact ⟨[], rfl, .nil⟩
  | cons entry es ih =>
      obtain ⟨⟨⟨key, writtenKey, isKey⟩, value, writtenValue, isValue⟩, others⟩ :=
        List.forall_mem_cons.1 each
      obtain ⟨texts, writtenOthers, all⟩ := ih others
      refine ⟨_, ?_, .cons (Expression.denotesEntry isKey.sum isValue.sum) all⟩
      rw [entrySources, writtenKey, writtenValue, writtenOthers]
      rfl

section Nodes

variable {r a b : Term} {name : String} {as : List Term}

theorem source_call_of_none (none : ∀ a, as = [a] → Operator.ofMethod? name = none) :
    (call r name as).source = (do
      let receiver ← r.source
      let args ← sources as
      return .atom (methodCall (receiverText r receiver) name args)) := by
  match as with
  | [] => rfl
  | [a] =>
      rw [source, binaryOperator?_eq, none a rfl]
      cases r.source with
      | error fault => rfl
      | ok left => cases known : a.source <;> simp [known]
  | a :: a' :: as => rfl

theorem tree_call_of_none (none : ∀ a, as = [a] → Operator.ofMethod? name = none) :
    (call r name as).tree = .call (.member r.tree name) (trees as) := by
  match as with
  | [] => rfl
  | [a] =>
      rw [tree, none a rfl]
      rfl
  | a :: a' :: as => rfl

theorem hasSource_call (isName : Names.canBeMethod name = true) (receiver : r.HasSource)
    (args : ∀ t ∈ as, t.HasSource) : (call r name as).HasSource := by
  obtain ⟨left, written, isLeft⟩ := receiver
  by_cases operation : ∃ a o, as = [a] ∧ Operator.ofMethod? name = some o
  · obtain ⟨a, o, rfl, known⟩ := operation
    obtain ⟨right, written', isRight⟩ := args a (List.mem_singleton_self a)
    refine ⟨left.operation (String.ofList o.sign) (operatorLevel o) right, ?_, ?_⟩
    · rw [source, written, written', binaryOperator?_eq, known]
      rfl
    · rw [tree, known]
      exact isSourceOf_operation o name isLeft isRight
  · have none (a : Term) (single : as = [a]) : Operator.ofMethod? name = none :=
      Option.eq_none_iff_forall_not_mem.2 fun o known => operation ⟨a, o, single, known⟩
    obtain ⟨texts, writtenArgs, all⟩ := exists_sources args
    refine ⟨.atom (methodCall (receiverText r left) name texts), ?_, ?_⟩
    · rw [source_call_of_none none, written, writtenArgs]
      rfl
    · rw [tree_call_of_none none]
      exact isSourceOf_atom rfl (denotes_methodCall (denotes_receiverText isLeft) isName all)

theorem hasSource_item (receiver : r.HasSource) (index : a.HasSource) :
    (field r "__getitem__" [a]).HasSource := by
  obtain ⟨object, written, isObject⟩ := receiver
  obtain ⟨inside, writtenInside, isInside⟩ := index
  refine ⟨.atom (subscript (receiverText r object) inside.text), ?_, isSourceOf_atom rfl ?_⟩
  · rw [source, written, sources, writtenInside]
    rfl
  · rw [tree, if_pos rfl]
    exact denotes_subscript (denotes_receiverText isObject) isInside.sum

theorem hasSource_member (isName : Names.canBeMethod name = true) (notItem : name ≠ "__getitem__")
    (receiver : r.HasSource) : (field r name []).HasSource := by
  obtain ⟨object, written, isObject⟩ := receiver
  refine ⟨.atom s!"{receiverText r object}.{name}", ?_, isSourceOf_atom rfl ?_⟩
  · rw [source, written]
    exact if_neg notItem
  · exact denotes_member (denotes_receiverText isObject) isName

theorem tree_field_of_ne (notItem : name ≠ "__getitem__") (some : as ≠ []) :
    (field r name as).tree = .call (.member r.tree name) (trees as) := by
  match as with
  | [] => exact absurd rfl some
  | [a] =>
      rw [tree, if_neg notItem]
      rfl
  | a :: a' :: as => rfl

theorem hasSource_memberCall (isName : Names.canBeMethod name = true)
    (notItem : name ≠ "__getitem__") (some : as ≠ []) (receiver : r.HasSource)
    (args : ∀ t ∈ as, t.HasSource) : (field r name as).HasSource := by
  obtain ⟨object, written, isObject⟩ := receiver
  obtain ⟨texts, writtenArgs, all⟩ := exists_sources args
  have someTexts : texts.isEmpty = false := by
    cases as with
    | nil => exact absurd rfl some
    | cons a as =>
        rw [trees] at all
        cases all
        rfl
  refine ⟨.atom (methodCall (receiverText r object) name texts), ?_, isSourceOf_atom rfl ?_⟩
  · rw [source, written, writtenArgs]
    change (if _ then _ else if _ then _ else _) = _
    rw [if_neg notItem, someTexts]
    rfl
  · rw [tree_field_of_ne notItem some]
    exact denotes_methodCall (denotes_receiverText isObject) isName all

theorem hasSource_field (isName : Names.canBeMethod name = true)
    (oneItem : name = "__getitem__" → as.length = 1) (receiver : r.HasSource)
    (args : ∀ t ∈ as, t.HasSource) : (field r name as).HasSource := by
  by_cases item : name = "__getitem__"
  · obtain ⟨index, rfl⟩ := List.length_eq_one_iff.1 (oneItem item)
    rw [item]
    exact hasSource_item receiver (args index (List.mem_singleton_self index))
  · by_cases none : as = []
    · rw [none]
      exact hasSource_member isName item receiver
    · exact hasSource_memberCall isName item none receiver args

theorem hasSource_slice {s : Option Term} (receiver : r.HasSource) (start : a.HasSource)
    (stop : b.HasSource) (step : ∀ t ∈ s, t.HasSource) : (slice r a b s).HasSource := by
  obtain ⟨object, written, isObject⟩ := receiver
  obtain ⟨first, writtenFirst, isFirst⟩ := start
  obtain ⟨second, writtenSecond, isSecond⟩ := stop
  have primary := denotes_receiverText isObject
  rw [HasSource, source_slice, written, writtenFirst, writtenSecond]
  cases s with
  | none =>
      refine ⟨_, rfl, isSourceOf_atom rfl ?_⟩
      exact denotes_slice primary (denotes_boundText isFirst) (denotes_boundText isSecond)
  | some t =>
      obtain ⟨third, writtenThird, isThird⟩ := step t rfl
      refine ⟨_, by rw [stepSource, writtenThird]; rfl, isSourceOf_atom rfl ?_⟩
      exact denotes_sliceStep primary (denotes_boundText isFirst) (denotes_boundText isSecond)
        (denotes_boundText isThird)

theorem hasSource_array (items : ∀ t ∈ as, t.HasSource) : (array as).HasSource := by
  obtain ⟨texts, written, all⟩ := exists_sources items
  refine ⟨.atom ("[" ++ Value.commaSeparated texts ++ "]"), ?_, isSourceOf_atom rfl ?_⟩
  · rw [source, written]
    rfl
  · simpa using (Expression.denotes_listing all).list

theorem hasSource_record {es : List (Term × Term)}
    (entries : ∀ entry ∈ es, entry.1.HasSource ∧ entry.2.HasSource) : (record es).HasSource := by
  obtain ⟨texts, written, all⟩ := exists_entrySources entries
  refine ⟨.atom ("\x7b" ++ Value.commaSeparated texts ++ "\x7d"), ?_, isSourceOf_atom rfl ?_⟩
  · rw [source, written]
    rfl
  · rw [tree]
    generalize entryTrees es = trees at all
    cases all with
    | nil => exact Expression.denotes_emptyDict
    | cons first others => simpa using (Expression.denotes_entries (.cons first others)).dict

end Nodes

/-- Whether a node is one of an expression and can be written. -/
def IsWrittenOut (t : Term) : Prop :=
  t.IsExpressible ∧ t.IsWritable

theorem hasSource {t : Term} (fit : t.Everywhere IsWrittenOut) : t.HasSource := by
  induction t with
  | literal v =>
      obtain ⟨expressible, writable⟩ := (everywhere_literal v).1 fit
      exact ⟨_, source_literal writable, isSourceOf_literal expressible⟩
  | var name =>
      exact ⟨_, rfl, isSourceOf_atom rfl
        (Expression.denotes_name ((everywhere_var name).1 fit).1)⟩
  | call r m as receiver args =>
      obtain ⟨⟨isName, _⟩, inReceiver, inArgs⟩ := (everywhere_call r m as).1 fit
      exact hasSource_call isName (receiver inReceiver)
        fun t member => args t member (inArgs t member)
  | field r name as receiver args =>
      obtain ⟨⟨⟨isName, oneItem⟩, _⟩, inReceiver, inArgs⟩ := (everywhere_field r name as).1 fit
      exact hasSource_field isName oneItem (receiver inReceiver)
        fun t member => args t member (inArgs t member)
  | array ts items =>
      obtain ⟨_, inItems⟩ := (everywhere_array ts).1 fit
      exact hasSource_array fun t member => items t member (inItems t member)
  | record es entries =>
      obtain ⟨_, inEntries⟩ := (everywhere_record es).1 fit
      exact hasSource_record fun entry member =>
        ⟨(entries entry member).1 (inEntries entry member).1,
          (entries entry member).2 (inEntries entry member).2⟩
  | slice r a b s receiver start stop step =>
      obtain ⟨_, inReceiver, inStart, inStop, inStep⟩ := (everywhere_slice r a b s).1 fit
      exact hasSource_slice (receiver inReceiver) (start inStart) (stop inStop)
        fun t member => step t member (inStep t member)
  | hole goal dependent => exact ((everywhere_hole goal dependent).1 fit).1.elim
  | filled goal candidates => exact (fit _ (List.mem_cons_self ..)).1.elim
  | foreign => exact (fit _ (List.mem_cons_self ..)).1.elim

/-! ### Terms without a source -/

theorem failsOnly_sources {ts : List Term}
    (each : ∀ t ∈ ts, Attempt.FailsOnly Fault.IsOfValue t.source) :
    Attempt.FailsOnly Fault.IsOfValue (sources ts) := by
  induction ts with
  | nil => exact Attempt.failsOnly_pure []
  | cons t ts ih =>
      obtain ⟨here, rest⟩ := List.forall_mem_cons.1 each
      exact here.bind fun _ => (ih rest).bind fun _ => Attempt.failsOnly_pure _

theorem failsOnly_entrySources {es : List (Term × Term)}
    (each : ∀ entry ∈ es, Attempt.FailsOnly Fault.IsOfValue entry.1.source ∧
      Attempt.FailsOnly Fault.IsOfValue entry.2.source) :
    Attempt.FailsOnly Fault.IsOfValue (entrySources es) := by
  induction es with
  | nil => exact Attempt.failsOnly_pure []
  | cons entry es ih =>
      obtain ⟨⟨key, value⟩, rest⟩ := List.forall_mem_cons.1 each
      exact key.bind fun _ => value.bind fun _ => (ih rest).bind fun _ => Attempt.failsOnly_pure _

/-- A term without a source is the fault of a value. -/
theorem failsOnly_source (t : Term) : Attempt.FailsOnly Fault.IsOfValue t.source := by
  induction t with
  | literal v =>
      exact (Value.failsOnly_written _ fun _ => Fault.isOfValue_tooManyDigits).bind fun _ =>
        Attempt.failsOnly_pure _
  | var name => exact Attempt.failsOnly_pure _
  | hole goal dependent => exact Attempt.failsOnly_pure _
  | filled goal candidates => exact Attempt.failsOnly_pure _
  | call r m as receiver args =>
      match as with
      | [] => exact receiver.bind fun _ => Attempt.failsOnly_pure _
      | [a] =>
          refine receiver.bind fun _ => (args a List.mem_cons_self).bind fun _ => ?_
          split <;> exact Attempt.failsOnly_pure _
      | a :: a' :: as =>
          exact receiver.bind fun _ => (failsOnly_sources args).bind fun _ =>
            Attempt.failsOnly_pure _
  | field r name as receiver args =>
      refine receiver.bind fun _ => (failsOnly_sources args).bind fun _ => ?_
      split
      · exact Attempt.failsOnly_pure _
      · split <;> exact Attempt.failsOnly_pure _
  | array ts items => exact (failsOnly_sources items).bind fun _ => Attempt.failsOnly_pure _
  | record es entries =>
      exact (failsOnly_entrySources entries).bind fun _ => Attempt.failsOnly_pure _
  | slice r a b s receiver start stop step =>
      have last : Attempt.FailsOnly Fault.IsOfValue (stepSource s) := by
        cases s with
        | none => exact Attempt.failsOnly_pure _
        | some t => exact (step t rfl).bind fun _ => Attempt.failsOnly_pure _
      rw [source_slice]
      exact receiver.bind fun _ => start.bind fun _ => stop.bind fun _ => last.bind fun _ =>
        Attempt.failsOnly_pure _
  | foreign =>
      intro fault failed
      obtain rfl := Except.error.inj failed
      rfl

theorem failsOnly_functionSource (name : String) (arity : Nat) (t : Term) :
    Attempt.FailsOnly Fault.IsOfValue (t.functionSource name arity) :=
  ((failsOnly_source t).bind fun _ => Attempt.failsOnly_pure _).bind fun _ =>
    Attempt.failsOnly_pure _

/-- Whether a function can be written down does not depend on its name. -/
theorem succeeds_functionSource {name : String} {arity : Nat} {t : Term}
    (written : Attempt.Succeeds (t.functionSource name arity)) (name' : String) :
    Attempt.Succeeds (t.functionSource name' arity) := by
  obtain ⟨text, written⟩ := written
  obtain ⟨body, hasBody, _⟩ := Attempt.bind_eq_ok_iff.1 written
  exact ⟨_, Attempt.bind_eq_ok_iff.2 ⟨body, hasBody, rfl⟩⟩

/-- The source text of a term is read as the tree of the term and as nothing else. -/
theorem isReadAs_sourceText (t : Term) (expressible : t.Everywhere IsExpressible)
    (writable : t.Everywhere IsWritable) :
    ∃ text, t.sourceText = .ok text ∧ ∀ e, Expression.IsReadAs text e ↔ e = t.tree := by
  obtain ⟨source, found, isSource⟩ :=
    hasSource fun node inside => ⟨expressible node inside, writable node inside⟩
  refine ⟨source.text, ?_, fun e => Expression.isReadAs_iff isSource.sum⟩
  rw [sourceText, found]
  rfl

theorem isReadAs_sourceText_nested :
    let difference := call (var "x") "__sub__"
      [call (var "y") "__sub__" [literal (.float (Binary64.zero true))]]
    let t := reversed (call (int (-2)) "scale" [difference])
    let text := "(-2).scale(x - (y - -0.0))[::-1]"
    t.Everywhere IsExpressible ∧ t.Everywhere IsWritable ∧ t.sourceText = .ok text ∧
      ∀ e, Expression.IsReadAs text e ↔
        e = .slice (.call (.member (.negative (.integer 2)) "scale")
          [.operation (.name "x") .subtract
            (.operation (.name "y") .subtract (.negative (.float (Binary64.zero false))))])
          none none (some (.negative (.integer 1))) := by
  intro difference t text
  have expressible : t.Everywhere IsExpressible := by
    have names : Names.canBeMethod "scale" = true ∧ Names.canBeMethod "__sub__" = true ∧
        Names.canBeMethod "x" = true ∧ Names.canBeMethod "y" = true := by decide
    simp [t, difference, reversed, int, nothing, IsExpressible, Value.IsExpressible, Value.isAtom,
      Value.isScalar, names, Binary64.zero, Binary64.isFinite]
  have short (n : Int) (few : n.natAbs < 2 ^ 64) : (Value.int n).isWritable = true :=
    (Value.isWritable_int_iff n).2 (Value.lt_numeralBound few)
  have writable : t.Everywhere IsWritable := by
    have plain : Value.none.isWritable = true ∧
        (Value.float (Binary64.zero true)).isWritable = true := ⟨rfl, rfl⟩
    simp [t, difference, reversed, int, nothing, IsWritable, short, plain]
  have number : (int (-2)).source = .ok (.atom "-2") := source_int (by decide)
  have operand : difference.source = .ok ⟨"x - (y - -0.0)", 1⟩ := rfl
  have object : (call (int (-2)) "scale" [difference]).source =
      .ok (.atom "(-2).scale(x - (y - -0.0))") := by
    rw [source, number, operand]
    rfl
  have known : t.sourceText = .ok text := by
    unfold t
    rw [sourceText, reversed, source, object]
    rfl
  obtain ⟨_, found, reads⟩ := isReadAs_sourceText t expressible writable
  cases found.symm.trans known
  exact ⟨expressible, writable, known, reads⟩

/-- An integer with a digit too many is a literal of the grammar that has no source text. -/
theorem not_isReadAs_sourceText_of_long_integer :
    let t : Term := .int Value.numeralBound
    t.Everywhere IsExpressible ∧
      ¬ ∃ text, t.sourceText = .ok text ∧ ∀ e, Expression.IsReadAs text e ↔ e = t.tree := by
  intro t
  refine ⟨(everywhere_literal _).2 rfl, fun ⟨text, written, _⟩ => ?_⟩
  have failed : t.sourceText = .error (Fault.tooManyDigits none) := by
    unfold t
    have unwritable := Value.not_isWritable_numeralBound
    rw [sourceText, int, source, Value.written_of_not_isWritable _ unwritable]
    rfl
  cases failed.symm.trans written

end Term

end FunctionSynthesis
