import FunctionSynthesis.Proofs.Example.Sameness
import FunctionSynthesis.Proofs.Trial.Acceptance
import FunctionSynthesis.Proofs.Trial.Writability

/-!
# Candidates that return an argument

The name of a parameter is a name that an expression can use (`isReadable_parameter`), and a
function with it as its body returns the argument at its position, as far as JSON can tell
this (`callWith_parameter`). So a candidate of this kind passes the trials of all examples in
which the argument is the output (`acceptsBy_parameter`).
-/

namespace FunctionSynthesis

/-! ### Names of parameters -/

theorem Term.toList_parameterName (position : Nat) :
    (Term.parameterName position).toList = 'a' :: 'r' :: 'g' :: Nat.toDigits 10 position := by
  have parts : Term.parameterName position = "arg" ++ toString position := rfl
  have letters : "arg".toList = ['a', 'r', 'g'] := rfl
  rw [parts, String.toList_append, Binary64.toList_toString, letters]
  rfl

theorem Text.isInWord_of_isDigit {c : Char} (digit : c.isDigit = true) : isInWord c = true := by
  have ascii : c.toNat < 0x80 := by
    have bounds : c.val ≥ 48 ∧ c.val ≤ 57 := by simpa [Char.isDigit] using digit
    have upper : c.toNat ≤ 57 := by simpa using UInt32.le_iff_toNat_le.1 bounds.2
    omega
  simp [isInWord, ascii, Char.isAlphanum, digit]

theorem Text.isWord_parameterName (position : Nat) :
    isWord (Term.parameterName position).toList = true := by
  rw [Term.toList_parameterName]
  have starts : startsWord 'a' = true := by decide
  refine Bool.and_eq_true_iff.2 ⟨starts, List.all_eq_true.2 fun c member => ?_⟩
  simp only [List.mem_cons] at member
  rcases member with rfl | rfl | digit
  · decide
  · decide
  · exact isInWord_of_isDigit (Binary64.isDigit_of_mem_toDigits digit)

/-- No word of the grammar has a digit in it. -/
theorem Names.canStand_parameterName (position : Nat) :
    canStand (Term.parameterName position) = true := by
  have plain : reserved.all (fun word => word.toList.all fun c => !c.isDigit) = true := by decide
  refine Bool.and_eq_true_iff.2 ⟨Text.isWord_parameterName position, ?_⟩
  rw [Bool.not_eq_true', Bool.eq_false_iff]
  intro member
  obtain ⟨digit, inside⟩ := List.exists_mem_of_ne_nil (Nat.toDigits 10 position)
    Nat.toDigits_ne_nil
  have noDigits := List.all_eq_true.1 plain _ (List.contains_iff_mem.1 member)
  have noDigit := List.all_eq_true.1 noDigits digit (by simp [Term.toList_parameterName, inside])
  rw [Binary64.isDigit_of_mem_toDigits inside] at noDigit
  cases noDigit

/-! ### Brackets -/

/-- Brackets and quotation marks. -/
def Text.isMark (c : Char) : Bool :=
  c = '\'' || c = '"' || "([\x7b".toList.contains c || ")]\x7d".toList.contains c

theorem Text.nestingFrom_of_unmarked {chars : List Char} (unmarked : ∀ c ∈ chars, isMark c = false)
    (depth : Nat) : nestingFrom depth none chars = depth := by
  induction chars with
  | nil => rfl
  | cons c chars ih =>
      obtain ⟨here, rest⟩ := List.forall_mem_cons.1 unmarked
      simp only [isMark, Bool.or_eq_false_iff] at here
      obtain ⟨⟨quotes, opening⟩, closing⟩ := here
      have noQuote : ¬ (c = '\'' || c = '"') = true := by simp [quotes]
      rw [nestingFrom]
      simp only [noQuote, opening, closing, if_false, Bool.false_eq_true]
      exact ih rest

namespace Term

theorem isReadable_parameter (position : Nat) :
    (var (parameterName position)).isReadable = true := by
  have unmarked : ∀ c ∈ (parameterName position).toList, Text.isMark c = false := by
    rw [toList_parameterName]
    intro c member
    simp only [List.mem_cons] at member
    rcases member with rfl | rfl | rfl | digit
    · decide
    · decide
    · decide
    · have isDigit := Binary64.isDigit_of_mem_toDigits digit
      rw [Bool.eq_false_iff]
      intro mark
      simp [Text.isMark] at mark
      rcases mark with ((rfl | rfl) | rfl | rfl | rfl) | rfl | rfl | rfl <;> cases isDigit
  have readable : (walk (var (parameterName position))).all isReadableNode = true := by
    simp [walk, isReadableNode, Names.canStand_parameterName]
  unfold isReadable
  rw [readable]
  have text : (var (parameterName position)).sourceText = .ok (parameterName position) := rfl
  rw [text]
  simp [Text.nesting, Text.nestingFrom_of_unmarked unmarked]

/-! ### Values of parameters -/

theorem lookup_zip {names : List String} {values : List Value} (distinct : names.Nodup)
    {i : Nat} {name : String} {value : Value} (isName : names[i]? = some name)
    (isValue : values[i]? = some value) : (names.zip values).lookup name = some value := by
  induction names generalizing i values with
  | nil => cases isName
  | cons first names ih =>
      obtain ⟨fresh, distinct⟩ := List.nodup_cons.1 distinct
      cases values with
      | nil => cases isValue
      | cons here values =>
          cases i with
          | zero =>
              obtain rfl := Option.some.inj isName
              obtain rfl := Option.some.inj isValue
              simp
          | succ i =>
              have later : name ∈ names := List.mem_of_getElem? isName
              have apart : (name == first) = false := by
                rw [beq_eq_false_iff_ne]
                rintro rfl
                exact fresh later
              rw [List.zip_cons_cons, List.lookup_cons, apart]
              exact ih distinct isName isValue

/-- A function with a parameter as its body returns the argument at its position. -/
theorem callWith_parameter {position arity : Nat} {inputs : List Value} {v : Value}
    (complete : inputs.length = arity) (given : inputs[position]? = some v) :
    (var (parameterName position)).callWith arity inputs = v.throughJson := by
  have below : position < arity := complete ▸ (List.getElem?_eq_some_iff.1 given).1
  have isName : (parameterNames arity)[position]? = some (parameterName position) := by
    simp [parameterNames, below]
  have bound : bind arity inputs = .ok ((parameterNames arity).zip inputs) := by
    unfold bind
    rw [if_pos complete]
    rfl
  have evaluated : evaluate ((parameterNames arity).zip inputs) (var (parameterName position)) =
      .ok v := by
    rw [evaluate, lookup_zip (nodup_parameterNames arity) isName given]
    rfl
  unfold callWith
  rw [isReadable_parameter, bound]
  change (evaluate ((parameterNames arity).zip inputs) _ >>= Value.throughJson) = _
  rw [evaluated]
  rfl

end Term

/-! ### Trials -/

namespace Trial

/-- The candidate that returns an argument passes all trials within the program if this
argument is the output in all examples and the outputs can be written. -/
theorem acceptsBy_parameter {examples : List Example} {position : Nat} (launcher : Launcher)
    (projections : Example.AreProjections examples position)
    (writable : ∀ x ∈ examples, x.output.isWritable = true) :
    acceptsBy (Executor.inProcess.run launcher) examples (Example.arityOf examples)
      (.var (Term.parameterName position)) = .ok true := by
  refine (acceptsBy_iff _ _ _ _).2 ⟨_, rfl, fun x inside => ?_⟩
  obtain ⟨v, given, same⟩ := projections.same x inside
  have data := projections.inputs x inside v (List.mem_of_getElem? given)
  have data' := projections.outputs x inside
  refine ⟨v, ?_, Value.reproduces_of_isSame data data' same⟩
  unfold Executor.run
  dsimp only
  rw [Term.callWith_parameter (projections.even x inside) given,
    Value.throughJson_eq_self data (Value.isWritable_of_isSame data data' same (writable x inside))]
  rfl

end Trial

end FunctionSynthesis
