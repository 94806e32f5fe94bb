import FunctionSynthesis.Example.Inference
import FunctionSynthesis.Proofs.Grammar.Bounds
import FunctionSynthesis.Proofs.Occurrence

/-!
# Literal pools

The pools of examples hold the first of the distinct literals that occur in the examples. A visit
of all values that gathers literals on its way has at every point the first occurrences among the
leaves it has met (`isGathered_visit`), so that it gathers what the pools are cut from
(`ofExamples_firstOccurrences`).
-/

namespace FunctionSynthesis.Pools

/-! ### Eligible literals -/

/-- Whether a text is short enough to be a literal and is not empty. -/
def isEligible (limit : Number) (s : String) : Bool :=
  s != "" && (Number.int s.length).isLess limit

/-- The texts among some leaves that can be literals. -/
def eligibleTexts (limit : Number) (leaves : List Value) : List String :=
  (leaves.filterMap Value.text?).filter (isEligible limit)

/-- The integers among some leaves. Truth values are none. -/
def integersAmong (leaves : List Value) : List Int :=
  leaves.filterMap integer?

/-! ### Visiting values -/

/-- The distinct literals that a visit has come across. -/
structure Gathered where
  strings : List String := []
  integers : List Int := []

namespace Gathered

/-- Take note of a leaf. -/
def meet (limit : Number) (gathered : Gathered) : Value → Gathered
  | .str s =>
      if isEligible limit s then
        { gathered with strings := keep (· == ·) gathered.strings s }
      else gathered
  | .int n => { gathered with integers := keep (· == ·) gathered.integers n }
  | _ => gathered

mutual

/-- Go through a value, each key of a dictionary before what belongs to it. -/
def visit (limit : Number) (gathered : Gathered) : Value → Gathered
  | .list xs => visitAll limit gathered xs
  | .tuple xs => visitAll limit gathered xs
  | .dict es => visitEntries limit gathered es
  | leaf => gathered.meet limit leaf
termination_by structural v => v

def visitAll (limit : Number) (gathered : Gathered) : List Value → Gathered
  | [] => gathered
  | x :: xs => visitAll limit (visit limit gathered x) xs
termination_by structural xs => xs

def visitEntries (limit : Number) (gathered : Gathered) : Entries → Gathered
  | [] => gathered
  | (k, v) :: es => visitEntries limit (visit limit (visit limit gathered k) v) es
termination_by structural es => es

end

/-- Go through an example, its arguments before its output. -/
def visitExample (limit : Number) (gathered : Gathered) (x : Example) : Gathered :=
  (gathered.visitAll limit x.inputs).visit limit x.output

/-- What a visit of examples gathers. -/
def ofExamples (limit : Number) (examples : List Example) : Gathered :=
  examples.foldl (visitExample limit) {}

end Gathered

/-! ### What a visit has gathered -/

/-- Whether what has been gathered are the first occurrences among the leaves that have been
met. -/
structure IsGathered (limit : Number) (met : List Value) (gathered : Gathered) : Prop where
  strings : gathered.strings = firstOccurrences (· == ·) (eligibleTexts limit met)
  integers : gathered.integers = firstOccurrences (· == ·) (integersAmong met)

variable {limit : Number} {met : List Value} {gathered : Gathered}

theorem isGathered_meet (before : IsGathered limit met gathered) (leaf : Value) :
    IsGathered limit (met ++ [leaf]) (gathered.meet limit leaf) := by
  obtain ⟨strings, integers⟩ := before
  have texts : eligibleTexts limit (met ++ [leaf]) =
      eligibleTexts limit met ++ eligibleTexts limit [leaf] := by
    simp [eligibleTexts]
  have numbers : integersAmong (met ++ [leaf]) = integersAmong met ++ integersAmong [leaf] := by
    simp [integersAmong]
  cases leaf with
  | str s =>
      have noNumber : integersAmong [.str s] = [] := rfl
      rw [noNumber, List.append_nil] at numbers
      by_cases eligible : isEligible limit s = true
      · have one : eligibleTexts limit [.str s] = [s] := List.filter_cons_of_pos eligible
        rw [Gathered.meet, if_pos eligible]
        constructor
        · rw [texts, one, strings]
          exact keep_firstOccurrences (isTransitiveOn_beq _) s
        · rw [numbers, integers]
      · have none : eligibleTexts limit [.str s] = [] := List.filter_cons_of_neg eligible
        rw [Gathered.meet, if_neg eligible]
        rw [none, List.append_nil] at texts
        exact ⟨texts ▸ strings, numbers ▸ integers⟩
  | int n =>
      have noText : eligibleTexts limit [.int n] = [] := rfl
      have one : integersAmong [.int n] = [n] := rfl
      constructor
      · rw [Gathered.meet, texts, noText, List.append_nil, strings]
      · rw [Gathered.meet, numbers, one, integers]
        exact keep_firstOccurrences (isTransitiveOn_beq _) n
  | _ =>
      -- Nothing else is a literal.
      constructor
      · exact strings.trans (congrArg _ (texts.trans (List.append_nil _)).symm)
      · exact integers.trans (congrArg _ (numbers.trans (List.append_nil _)).symm)

mutual

theorem isGathered_visit {met : List Value} {gathered : Gathered}
    (before : IsGathered limit met gathered) (v : Value) :
    IsGathered limit (met ++ v.leaves) (gathered.visit limit v) :=
  match v with
  | .list xs => isGathered_visitAll before xs
  | .tuple xs => isGathered_visitAll before xs
  | .dict es => isGathered_visitEntries before es
  | .none => isGathered_meet before .none
  | .bool b => isGathered_meet before (.bool b)
  | .int n => isGathered_meet before (.int n)
  | .float x => isGathered_meet before (.float x)
  | .str s => isGathered_meet before (.str s)
  | .set xs => isGathered_meet before (.set xs)
  | .special kind plain literal => isGathered_meet before (.special kind plain literal)
termination_by structural v

theorem isGathered_visitAll {met : List Value} {gathered : Gathered}
    (before : IsGathered limit met gathered) (xs : List Value) :
    IsGathered limit (met ++ Value.leavesOf xs) (gathered.visitAll limit xs) :=
  match xs with
  | [] => by rwa [Value.leavesOf, List.append_nil]
  | x :: xs => by
      rw [Value.leavesOf, ← List.append_assoc]
      exact isGathered_visitAll (isGathered_visit before x) xs
termination_by structural xs

theorem isGathered_visitEntries {met : List Value} {gathered : Gathered}
    (before : IsGathered limit met gathered) (es : Entries) :
    IsGathered limit (met ++ Value.leavesOfEntries es) (gathered.visitEntries limit es) :=
  match es with
  | [] => by rwa [Value.leavesOfEntries, List.append_nil]
  | (k, v) :: es => by
      rw [Value.leavesOfEntries, ← List.append_assoc, ← List.append_assoc]
      exact isGathered_visitEntries (isGathered_visit (isGathered_visit before k) v) es
termination_by structural es

end

theorem isGathered_visitExample (before : IsGathered limit met gathered) (x : Example) :
    IsGathered limit (met ++ leavesIn [x]) (gathered.visitExample limit x) := by
  have leaves : leavesIn [x] = Value.leavesOf x.inputs ++ x.output.leaves := by simp [leavesIn]
  rw [leaves, ← List.append_assoc]
  exact isGathered_visit (isGathered_visitAll before x.inputs) x.output

theorem isGathered_ofExamples (limit : Number) (examples : List Example) :
    IsGathered limit (leavesIn examples) (Gathered.ofExamples limit examples) := by
  induction examples using List.reverseRecOn with
  | nil => exact ⟨rfl, rfl⟩
  | append_singleton examples x ih =>
      have leaves : leavesIn (examples ++ [x]) = leavesIn examples ++ leavesIn [x] :=
        List.flatMap_append
      rw [leaves, Gathered.ofExamples, List.foldl_append]
      exact isGathered_visitExample ih x

/-! ### The pools -/

theorem usableText?_eq_ok {maxLength : Value} (measures : maxLength.number? = some limit)
    (leaf : Value) : usableText? maxLength leaf = .ok (leaf.text?.filter (isEligible limit)) := by
  cases leaf with
  | str s =>
      by_cases empty : s = ""
      · simp [usableText?, Value.text?, isEligible, empty, pure, Except.pure, Option.filter]
      · simp [usableText?, Value.text?, isEligible, empty, measures, pure, Except.pure,
          Option.filter]
  | _ => rfl

theorem mapM_usableText? {maxLength : Value} (measures : maxLength.number? = some limit)
    (leaves : List Value) :
    leaves.mapM (usableText? maxLength) =
      .ok (leaves.map fun leaf => leaf.text?.filter (isEligible limit)) := by
  apply Attempt.mapM_eq_ok_of_forall₂
  rw [List.forall₂_map_right_iff, List.forall₂_same]
  exact fun leaf _ => usableText?_eq_ok measures leaf

theorem leading_of_count {α : Type} {maxSize : Value} {size : Nat}
    (counts : maxSize.integer? = some (size : Int)) (items : List α) :
    Limits.leading maxSize items = .ok (items.take size) := by
  have isNumber : Limits.number maxSize = size := by simp [Limits.number, counts]
  have nonnegative : ¬ (size : Int) < 0 := by omega
  rw [Limits.leading_eq_ok (by simp [counts]), isNumber, if_neg nonnegative, Int.toNat_natCast]

/-- The pools of examples are cut from what a visit of the examples gathers, and these are the
first occurrences of the eligible texts and of the integers among the leaves. -/
theorem ofExamples_firstOccurrences (examples : List Example) (maxSize maxLength : Value)
    (size : Nat) (limit : Number) (counts : maxSize.integer? = some (size : Int))
    (measures : maxLength.number? = some limit) :
    let gathered := Gathered.ofExamples limit examples
    let leaves := leavesIn examples
    ofExamples examples maxSize maxLength =
        .ok ⟨(gathered.strings.take size).map .str, (gathered.integers.take size).map .int⟩ ∧
      gathered.strings = firstOccurrences (· == ·) (eligibleTexts limit leaves) ∧
      gathered.integers = firstOccurrences (· == ·) (integersAmong leaves) := by
  intro gathered leaves
  obtain ⟨strings, integers⟩ := isGathered_ofExamples limit examples
  have texts : (leaves.map fun leaf => leaf.text?.filter (isEligible limit)).filterMap id =
      eligibleTexts limit leaves := by
    rw [eligibleTexts, List.filter_filterMap, List.filterMap_map]
    rfl
  refine ⟨?_, strings, integers⟩
  rw [strings, integers, ← eraseDups_eq_firstOccurrences, ← eraseDups_eq_firstOccurrences, ← texts]
  unfold ofExamples
  simp only [mapM_usableText? measures, leading_of_count counts]
  rfl

/-- Texts that are empty or too long, truth values, and literals that occur again inside other
values. -/
theorem ofExamples_firstOccurrences_nested :
    let examples : List Example :=
      [⟨[.str "b", .list [.int 1, .bool true, .str ""]],
          .dict [(.str "a", .tuple [.int 2, .str "b"]), (.int 1, .str "c")]⟩,
        ⟨[.int 3], .str "abcde"⟩]
    ofExamples examples (.int 2) (.int 5) =
      .ok ⟨[.str "b", .str "a"], [.int 1, .int 2]⟩ := by
  intro examples
  obtain ⟨pools, strings, integers⟩ :=
    ofExamples_firstOccurrences examples (.int 2) (.int 5) 2 (.int 5) rfl rfl
  rw [pools]
  rfl

end FunctionSynthesis.Pools
