import Mathlib.Data.List.Dedup
import FunctionSynthesis.Proofs.Grammar.Depth
import FunctionSynthesis.Proofs.Settings.Reloading

/-!
# What the limits restrain

A rule goes through with integers as limits as long as those that count off are no smaller than
zero and no larger than what can be counted. What is proposed is within the limits as long as
those of which items are taken are not negative either, for then items are dropped from the end,
and lists of three truth values are allowed, which are proposed under all limits. These
conditions are also necessary (`canDrive_iff`), and the settings are not checked for them.
-/

namespace FunctionSynthesis

open Attempt (Succeeds)

/-! ### Bounds -/

namespace Limits

variable {α : Type} {bound : Value} {items : List α}

/-- The number that an integer bound is. -/
def number (bound : Value) : Int :=
  bound.integer?.getD 0

/-- Whether all limits are integers. -/
structure AreIntegers (limits : Limits) : Prop where
  maxArrayArity : limits.maxArrayArity.integer?.isSome = true
  arithmeticConstants : limits.arithmeticConstants.integer?.isSome = true
  constantPairs : limits.constantPairs.integer?.isSome = true
  variableTriples : limits.variableTriples.integer?.isSome = true
  concatConstants : limits.concatConstants.integer?.isSome = true

theorem integer?_eq_number (isInteger : bound.integer?.isSome = true) :
    bound.integer? = some (number bound) := by
  obtain ⟨n, same⟩ := Option.isSome_iff_exists.1 isInteger
  rw [number, same]
  rfl

/-- Items are taken from the front; a negative bound drops as many from the end. -/
theorem leading_eq_ok (isInteger : bound.integer?.isSome = true) (items : List α) :
    leading bound items = .ok (items.take
      (if number bound < 0 then number bound + items.length else number bound).toNat) := by
  have same := integer?_eq_number isInteger
  unfold leading
  split
  next => cases isInteger
  next =>
    rw [same]
    dsimp only
    split <;> rfl

/-- As many items as a bound says can be counted off if the bound is a count. -/
theorem first_eq_ok (isInteger : bound.integer?.isSome = true) (nonnegative : 0 ≤ number bound)
    (small : number bound ≤ largestCount) (items : List α) :
    first bound items = .ok (items.take (number bound).toNat) := by
  have same := integer?_eq_number isInteger
  have inRange : ¬ (number bound = -1 ∨ largestCount < number bound ∨
      number bound < -largestCount - 1) := by
    unfold largestCount at *
    omega
  have counted : countedOff bound = .ok (some (number bound).toNat) := by
    unfold countedOff
    split
    next => cases isInteger
    next =>
      simp only [same, if_neg inRange, if_neg (not_lt.2 nonnegative)]
      rfl
  rw [first, counted]
  rfl

/-- Nothing can be counted off by an integer that is not a count. -/
theorem count_of_first (isInteger : bound.integer?.isSome = true)
    (succeeds : Succeeds (first bound items)) :
    0 ≤ number bound ∧ number bound ≤ largestCount := by
  have same := integer?_eq_number isInteger
  obtain ⟨taken, succeeds⟩ := succeeds
  obtain ⟨counted?, counted, _⟩ := Attempt.bind_eq_ok_iff.1 succeeds
  unfold countedOff at counted
  split at counted
  next => cases isInteger
  next =>
    simp only [same] at counted
    split at counted
    next => cases counted
    next inRange =>
      split at counted
      next => cases counted
      next nonnegative => omega

end Limits

/-! ### Lists of proposals -/

namespace Proposals

theorem toList_eq_ok_iff {proposals : Proposals} {terms : List Term} :
    proposals.toList = .ok terms ↔ proposals.fault = none ∧ proposals.terms = terms := by
  unfold toList
  cases proposals.fault <;> simp [pure, Except.pure, throw, throwThe, MonadExceptOf.throw]

theorem toList_needing {α : Type} (attempt : Except Fault α) (propose : α → Proposals) :
    (needing attempt propose).toList = attempt >>= fun a => (propose a).toList := by
  cases attempt <;> rfl

theorem toList_andThen (first second : Proposals) :
    (first >> second).toList = do
      let terms ← first.toList
      let rest ← second.toList
      return terms ++ rest := by
  obtain ⟨terms, fault⟩ := first
  obtain ⟨rest, fault'⟩ := second
  cases fault with
  | some fault => rfl
  | none => cases fault' <;> rfl

end Proposals

/-! ### What limits count -/

namespace Term

/-- The literal that a term combines with a variable, if it does so. -/
def combined? : Term → Option Value
  | .call (.var _) _ [.literal c] => some c
  | .call (.literal c) _ [.var _] => some c
  | _ => none

/-- Whether a term combines two literals. -/
def isConstantSum : Term → Bool
  | .call (.literal _) _ [.literal _] => true
  | _ => false

/-- The variables that a term combines, if these are three. -/
def summed? : Term → Option (String × String × String)
  | .call (.call (.var a) _ [.var b]) _ [.var c] => some (a, b, c)
  | .call (.var a) _ [.call (.var b) _ [.var c]] => some (a, b, c)
  | _ => none

attribute [local simp] combined? isConstantSum summed?

/-- Whether a term is within the limits on its own: it combines a variable only with constants
that are allowed, and it is no longer array than that. -/
structure IsSingle (constants : List Value) (longest : Nat) (t : Term) : Prop where
  constant : ∀ c, t.combined? = some c → c ∈ constants
  noSum : t.isConstantSum = false
  noTriple : t.summed? = none
  short : ∀ items, t = .array items → items.length ≤ longest

variable {constants : List Value} {longest : Nat} {t : Term}

theorem isSingle_of_ne (noCall : ∀ receiver method args, t ≠ .call receiver method args)
    (noArray : ∀ items, t ≠ .array items) : t.IsSingle constants longest := by
  cases t with
  | call receiver method args => exact absurd rfl (noCall receiver method args)
  | array items => exact absurd rfl (noArray items)
  | _ => exact ⟨by simp, rfl, rfl, fun items same => absurd same (noArray items)⟩

/-- An array that is not too long. -/
theorem isSingle_array {items : List Term} (short : items.length ≤ longest) :
    (array items).IsSingle constants longest :=
  ⟨by simp, rfl, rfl, fun _ same => array.inj same ▸ short⟩

theorem isSingle_callOf_hole (goal : Ty) (method : String) (args : List Term) :
    (call (.hole goal false) method args).IsSingle constants longest :=
  ⟨by simp, rfl, by simp, by simp⟩

theorem isSingle_call_nil (name method : String) :
    (call (.var name) method []).IsSingle constants longest :=
  ⟨by simp, rfl, by simp, by simp⟩

theorem isSingle_phoneNumber (t : Term) : t.phoneNumber.IsSingle constants longest :=
  ⟨by simp [phoneNumber, plus], rfl, by simp [phoneNumber, plus],
    by simp [phoneNumber, plus]⟩

/-- A sum or a product of two variables. -/
theorem isSingle_call_var (a b method : String) :
    (call (.var a) method [.var b]).IsSingle constants longest :=
  ⟨by simp, rfl, by simp, by simp⟩

theorem isSingle_call_literal {c : Value} (allowed : c ∈ constants) (a method : String) :
    (call (.var a) method [.literal c]).IsSingle constants longest := by
  refine ⟨fun c' combined => ?_, rfl, by simp, by simp⟩
  obtain rfl : c = c' := by simpa using combined
  exact allowed

theorem isSingle_literal_call {c : Value} (allowed : c ∈ constants) (a method : String) :
    (call (.literal c) method [.var a]).IsSingle constants longest := by
  refine ⟨fun c' combined => ?_, rfl, by simp, by simp⟩
  obtain rfl : c = c' := by simpa using combined
  exact allowed

end Term

namespace Query

/-- The constants that the limits let a rule combine with variables: leading integers for the
rule of sums, leading texts for the rule of joined texts. -/
def leadingConstants (query : Query) (limits : Limits) : Rule → List Value
  | .arithmetic => query.pools.integers.take (Limits.number limits.arithmeticConstants).toNat
  | .joinedTexts => query.pools.strings.take (Limits.number limits.concatConstants).toNat
  | _ => []

end Query

/-- How long literal arrays may be. -/
def Limits.longestArray (limits : Limits) : Nat :=
  (number limits.maxArrayArity).toNat

/-- Whether terms that a rule proposes are within the limits. -/
structure Limits.Restrains (limits : Limits) (query : Query) (rule : Rule) (terms : List Term) :
    Prop where
  constants : ∀ t ∈ terms, ∀ c, t.combined? = some c → c ∈ query.leadingConstants limits rule
  sums : terms.countP Term.isConstantSum ≤ (number limits.constantPairs).toNat
  triples : (terms.filterMap Term.summed?).dedup.length ≤ (number limits.variableTriples).toNat
  arrays : ∀ items, .array items ∈ terms → items.length ≤ limits.longestArray

/-- Whether a rule is stopped by nothing and proposes terms within the limits. -/
def Rule.GoesThrough (rule : Rule) (goal : Ty) (query : Query) (limits : Limits) : Prop :=
  ∃ terms, (rule.propose goal query limits).toList = .ok terms ∧
    limits.Restrains query rule terms

/-- Whether every rule goes through: for all queries and goals whose types are hashable, with a
catalog in which no method that can be called takes its result from the goal. -/
def Limits.CanDrive (limits : Limits) : Prop :=
  ∀ (query : Query) (goal : Ty), query.IsHashable → query.catalog.IsHashable →
    query.catalog.HasFixedResults → goal.isHashable = true →
      ∀ rule ∈ Rule.standard, rule.GoesThrough goal query limits

/-- Whether no limit is negative, those that count off can be counted, and lists of three truth
values are allowed. -/
structure Limits.AreSafe (limits : Limits) : Prop where
  maxArrayArity : 3 ≤ number limits.maxArrayArity
  arithmeticConstants : 0 ≤ number limits.arithmeticConstants
  constantPairs : 0 ≤ number limits.constantPairs ∧ number limits.constantPairs ≤ largestCount
  variableTriples :
    0 ≤ number limits.variableTriples ∧ number limits.variableTriples ≤ largestCount
  concatConstants : 0 ≤ number limits.concatConstants

/-! ### Sums and products -/

namespace Rule

variable {limits : Limits} {query : Query} {goal : Ty}

/-- Sums and products of two variables. -/
def ofVariables (names : List String) : List Term :=
  (orderedPairs names).flatMap fun (a, b) =>
    [(Term.var a).plus (.var b), (Term.var a).times (.var b)]

/-- Sums and products of a variable and a constant. -/
def withConstants (names : List String) (constants : List Value) : List Term :=
  names.flatMap fun name =>
    constants.flatMap fun c =>
      let x := Term.var name
      let k := Term.literal c
      [x.plus k, k.plus x, x.times k, k.times x]

/-- Sums of two constants. -/
def ofConstants (sums : List (Value × Value)) : List Term :=
  sums.map fun (a, b) => (Term.literal a).plus (.literal b)

/-- Sums of three variables. -/
def ofTriples (triples : List (String × String × String)) : List Term :=
  triples.flatMap fun (a, b, c) =>
    let x := Term.var a
    let y := Term.var b
    let z := Term.var c
    [(x.plus y).plus z, x.plus (y.plus z)]

/-- The triples of variables that are summed up, if there are so many variables. -/
def takenTriples (limits : Limits) (names : List String) :
    Except Fault (List (String × String × String)) :=
  if names.length < 3 then return []
  else Limits.first limits.variableTriples (orderedTriples names)

/-- Where an integer is wanted, what is proposed is determined by what the limits take of the
pool integers, of their pairs and of the triples of variables. -/
theorem toList_proposeArithmetic (wanted : wantsInteger goal = true) :
    (proposeArithmetic goal query limits).toList = do
      let constants ← Limits.leading limits.arithmeticConstants query.pools.integers
      let sums ← Limits.first limits.constantPairs (pairs query.pools.integers)
      let triples ← takenTriples limits query.integerVariables
      return (ofVariables query.integerVariables ++
          withConstants query.integerVariables constants) ++
        (ofConstants sums ++ ofTriples triples) := by
  have all (terms : List Term) : (Proposals.ofList terms).toList = .ok terms := rfl
  unfold proposeArithmetic takenTriples
  rw [wanted]
  simp only [Bool.not_true, Bool.false_eq_true, if_false, Proposals.toList_needing,
    Proposals.toList_andThen, all]
  cases Limits.leading limits.arithmeticConstants query.pools.integers with
  | error fault => rfl
  | ok constants =>
      cases Limits.first limits.constantPairs (pairs query.pools.integers) with
      | error fault => rfl
      | ok sums =>
          split
          · rfl
          · rw [Proposals.toList_needing]
            cases Limits.first limits.variableTriples (orderedTriples query.integerVariables) <;>
              rfl

theorem isSingle_of_mem_ofVariables {names : List String} {constants : List Value}
    {longest : Nat} : ∀ t ∈ ofVariables names, t.IsSingle constants longest := by
  intro t member
  obtain ⟨⟨a, b⟩, _, member⟩ := List.mem_flatMap.1 member
  rcases List.mem_cons.1 member with rfl | last
  · exact Term.isSingle_call_var a b "__add__"
  · rw [List.mem_singleton.1 last]
    exact Term.isSingle_call_var a b "__mul__"

theorem isSingle_of_mem_withConstants {names : List String} {constants : List Value}
    {longest : Nat} : ∀ t ∈ withConstants names constants, t.IsSingle constants longest := by
  intro t member
  obtain ⟨name, _, member⟩ := List.mem_flatMap.1 member
  obtain ⟨c, allowed, member⟩ := List.mem_flatMap.1 member
  simp only [List.mem_cons, List.not_mem_nil, or_false] at member
  rcases member with rfl | rfl | rfl | rfl
  · exact Term.isSingle_call_literal allowed name "__add__"
  · exact Term.isSingle_literal_call allowed name "__add__"
  · exact Term.isSingle_call_literal allowed name "__mul__"
  · exact Term.isSingle_literal_call allowed name "__mul__"

/-- With terms that the limits do not count, sums of constants and of variables are within the
limits when no more pairs and triples are taken than they allow. -/
theorem restrains_append {rule : Rule} {singles : List Term} {sums : List (Value × Value)}
    {triples : List (String × String × String)}
    (single : ∀ t ∈ singles,
      t.IsSingle (query.leadingConstants limits rule) limits.longestArray)
    (fewSums : sums.length ≤ (Limits.number limits.constantPairs).toNat)
    (fewTriples : triples.length ≤ (Limits.number limits.variableTriples).toNat) :
    limits.Restrains query rule (singles ++ (ofConstants sums ++ ofTriples triples)) := by
  have ofSum : ∀ t ∈ ofConstants sums,
      t.combined? = none ∧ t.summed? = none ∧ ∀ items, t ≠ .array items := by
    refine List.forall_mem_map.2 fun pair _ => ?_
    exact ⟨rfl, rfl, by simp [Term.plus]⟩
  have ofTriple : ∀ t ∈ ofTriples triples, t.combined? = none ∧ t.isConstantSum = false ∧
      (∃ triple ∈ triples, t.summed? = some triple) ∧ ∀ items, t ≠ .array items := by
    intro t member
    obtain ⟨⟨a, b, c⟩, taken, member⟩ := List.mem_flatMap.1 member
    rcases List.mem_cons.1 member with rfl | last
    · exact ⟨rfl, rfl, ⟨_, taken, rfl⟩, by simp [Term.plus]⟩
    · rw [List.mem_singleton.1 last]
      exact ⟨rfl, rfl, ⟨_, taken, rfl⟩, by simp [Term.plus]⟩
  refine ⟨fun t member c combined => ?_, ?_, ?_, fun items member => ?_⟩
  · rcases List.mem_append.1 member with member | member
    · exact (single t member).constant c combined
    · rcases List.mem_append.1 member with member | member
      · rw [(ofSum t member).1] at combined
        cases combined
      · rw [(ofTriple t member).1] at combined
        cases combined
  · have before : singles.countP Term.isConstantSum = 0 :=
      List.countP_eq_zero.2 fun t member => by simp [(single t member).noSum]
    have after : (ofTriples triples).countP Term.isConstantSum = 0 :=
      List.countP_eq_zero.2 fun t member => by simp [(ofTriple t member).2.1]
    rw [List.countP_append, List.countP_append, before, after, Nat.zero_add, Nat.add_zero]
    calc (ofConstants sums).countP Term.isConstantSum
        ≤ (ofConstants sums).length := List.countP_le_length
      _ = sums.length := List.length_map _
      _ ≤ (Limits.number limits.constantPairs).toNat := fewSums
  · have before : singles.filterMap Term.summed? = [] :=
      List.filterMap_eq_nil_iff.2 fun t member => (single t member).noTriple
    have middle : (ofConstants sums).filterMap Term.summed? = [] :=
      List.filterMap_eq_nil_iff.2 fun t member => (ofSum t member).2.1
    have taken : ((ofTriples triples).filterMap Term.summed?).dedup ⊆ triples := by
      intro triple member
      obtain ⟨t, inside, summed⟩ := List.mem_filterMap.1 (List.mem_dedup.1 member)
      obtain ⟨triple', taken, same⟩ := (ofTriple t inside).2.2.1
      obtain rfl := Option.some.inj (same.symm.trans summed)
      exact taken
    rw [List.filterMap_append, List.filterMap_append, before, middle, List.nil_append,
      List.nil_append]
    exact ((List.nodup_dedup _).subperm taken).length_le.trans fewTriples
  · rcases List.mem_append.1 member with member | member
    · exact (single _ member).short items rfl
    · rcases List.mem_append.1 member with member | member
      · exact absurd rfl ((ofSum _ member).2.2 items)
      · exact absurd rfl ((ofTriple _ member).2.2.2 items)

theorem restrains_of_isSingle {rule : Rule} {terms : List Term}
    (single : ∀ t ∈ terms,
      t.IsSingle (query.leadingConstants limits rule) limits.longestArray) :
    limits.Restrains query rule terms := by
  have restrained : limits.Restrains query rule (terms ++ (ofConstants [] ++ ofTriples [])) :=
    restrains_append single (Nat.zero_le _) (Nat.zero_le _)
  simpa [ofConstants, ofTriples] using restrained

/-! ### Rules with safe limits -/

/-- A rule that looks at no limits goes through. -/
theorem goesThrough_of_areAll {rule : Rule}
    (all : Proposals.AreAll {}
      (Term.IsSingle (query.leadingConstants limits rule) limits.longestArray)
      (rule.propose goal query limits)) : rule.GoesThrough goal query limits :=
  ⟨_, Proposals.toList_eq_ok_iff.2 ⟨all.unstopped Limits.areCounts_default, rfl⟩,
    restrains_of_isSingle all.each⟩

theorem goesThrough_arithmetic (integers : limits.AreIntegers) (safe : limits.AreSafe) :
    arithmetic.GoesThrough goal query limits := by
  cases wanted : wantsInteger goal with
  | false =>
      refine ⟨[], ?_, restrains_of_isSingle (List.forall_mem_nil _)⟩
      change (proposeArithmetic goal query limits).toList = _
      rw [proposeArithmetic, wanted]
      rfl
  | true =>
      have constants := Limits.leading_eq_ok integers.arithmeticConstants query.pools.integers
      rw [if_neg (not_lt.2 safe.arithmeticConstants)] at constants
      have sums := Limits.first_eq_ok integers.constantPairs safe.constantPairs.1
        safe.constantPairs.2 (pairs query.pools.integers)
      have triples := Limits.first_eq_ok integers.variableTriples safe.variableTriples.1
        safe.variableTriples.2 (orderedTriples query.integerVariables)
      have singles : ∀ t ∈ ofVariables query.integerVariables ++
          withConstants query.integerVariables (query.leadingConstants limits .arithmetic),
          t.IsSingle (query.leadingConstants limits .arithmetic) limits.longestArray :=
        List.forall_mem_append.2 ⟨isSingle_of_mem_ofVariables, isSingle_of_mem_withConstants⟩
      change ∃ terms, (proposeArithmetic goal query limits).toList = .ok terms ∧ _
      rw [toList_proposeArithmetic wanted, constants, sums]
      by_cases few : query.integerVariables.length < 3
      · rw [takenTriples, if_pos few]
        exact ⟨_, rfl, restrains_append singles (List.length_take_le _ _) (Nat.zero_le _)⟩
      · rw [takenTriples, if_neg few, triples]
        exact ⟨_, rfl, restrains_append singles (List.length_take_le _ _)
          (List.length_take_le _ _)⟩

theorem goesThrough_joinedTexts (integers : limits.AreIntegers) (safe : limits.AreSafe) :
    joinedTexts.GoesThrough goal query limits := by
  have constants := Limits.leading_eq_ok integers.concatConstants query.pools.strings
  rw [if_neg (not_lt.2 safe.concatConstants)] at constants
  change ∃ terms, (proposeJoinedTexts goal query limits).toList = .ok terms ∧ _
  unfold proposeJoinedTexts
  split
  next => exact ⟨[], rfl, restrains_of_isSingle (List.forall_mem_nil _)⟩
  next =>
    rw [Proposals.toList_needing, constants]
    refine ⟨_, rfl, restrains_of_isSingle fun t member => ?_⟩
    obtain ⟨name, _, member⟩ := List.mem_flatMap.1 member
    rcases List.mem_append.1 member with joined | extended
    · obtain ⟨other, _, rfl⟩ := List.mem_map.1 joined
      exact Term.isSingle_call_var name other "__add__"
    · obtain ⟨c, allowed, member⟩ := List.mem_flatMap.1 extended
      rcases List.mem_cons.1 member with rfl | last
      · exact Term.isSingle_call_literal allowed name "__add__"
      · rw [List.mem_singleton.1 last]
        exact Term.isSingle_literal_call allowed name "__add__"

theorem length_of_mem_arrangements {α : Type} {n : Nat} {items arrangement : List α}
    (member : arrangement ∈ arrangements n items) : arrangement.length = n := by
  induction n generalizing items arrangement with
  | zero =>
      rw [List.mem_singleton.1 member]
      rfl
  | succ n ih =>
      obtain ⟨⟨x, rest⟩, _, member⟩ := List.mem_flatMap.1 member
      obtain ⟨others, below, rfl⟩ := List.mem_map.1 member
      rw [List.length_cons, ih below]

theorem goesThrough_arrays (integers : limits.AreIntegers) (safe : limits.AreSafe) :
    arrays.GoesThrough goal query limits := by
  have three : 3 ≤ limits.longestArray := by
    have safe := safe.maxArrayArity
    unfold Limits.longestArray
    omega
  have counted := Limits.count_eq_ok (Limits.integer?_eq_number integers.maxArrayArity)
  change ∃ terms, (proposeArrays goal query limits).toList = .ok terms ∧ _
  unfold proposeArrays
  split
  next => exact ⟨[], rfl, restrains_of_isSingle (List.forall_mem_nil _)⟩
  next =>
    refine ⟨_, rfl, restrains_of_isSingle
      (List.forall_mem_cons.2 ⟨?_, List.forall_mem_singleton.2 ?_⟩)⟩
    · exact Term.isSingle_array ((Nat.le_succ 2).trans three)
    · exact Term.isSingle_array three
  next pool _ =>
    rw [Proposals.toList_needing, counted]
    refine ⟨_, rfl, restrains_of_isSingle fun t member => ?_⟩
    obtain ⟨arity, chosen, member⟩ := List.mem_flatMap.1 member
    obtain ⟨values, arranged, rfl⟩ := List.mem_map.1 member
    obtain ⟨position, inRange, rfl⟩ := List.mem_map.1 chosen
    refine Term.isSingle_array ?_
    rw [List.length_map, length_of_mem_arrangements arranged]
    have small := List.mem_range.1 inRange
    unfold Limits.longestArray
    omega

/-- The call that is proposed of a method has holes only. -/
theorem isSingle_of_callFor? {className method : String} {signature : Signature} {t : Term}
    {constants : List Value} {longest : Nat}
    (found : callFor? goal query limits className method signature = .ok (some t)) :
    t.IsSingle constants longest := by
  unfold callFor? at found
  split at found
  next => cases found
  next receiver result _ =>
    obtain ⟨fits, _, found⟩ := Attempt.bind_eq_ok_iff.1 found
    cases fits with
    | false => cases found
    | true =>
        obtain ⟨inhabited, _, found⟩ := Attempt.bind_eq_ok_iff.1 found
        cases inhabited with
        | false => cases found
        | true =>
            cases property : signature.isProperty with
            | true =>
                rw [property] at found
                obtain rfl := Option.some.inj (Attempt.pure_eq_ok_iff.1 found)
                exact Term.isSingle_of_ne (by simp) (by simp)
            | false =>
                rw [property] at found
                obtain rfl := Option.some.inj (Attempt.pure_eq_ok_iff.1 found)
                exact Term.isSingle_callOf_hole receiver method _

theorem isSingle_of_mem_callsAmong {entries : List (String × String × Signature)}
    {constants : List Value} {longest : Nat} :
    ∀ t ∈ (callsAmong goal query limits entries).terms, t.IsSingle constants longest := by
  induction entries with
  | nil => exact List.forall_mem_nil _
  | cons entry entries ih =>
      intro t member
      obtain ⟨call, found, member⟩ := Proposals.mem_needing.1 member
      rcases List.mem_append.1 member with here | later
      · obtain rfl := Option.mem_def.1 (Option.mem_toList.1 here)
        exact isSingle_of_callFor? found
      · exact ih t later

theorem goesThrough_catalogCalls (bounded : query.IsBounded limits)
    (goalHashable : goal.isHashable = true) : catalogCalls.GoesThrough goal query limits :=
  ⟨_, Proposals.toList_eq_ok_iff.2 ⟨fault_proposeCatalogCalls bounded goalHashable, rfl⟩,
    restrains_of_isSingle isSingle_of_mem_callsAmong⟩

/-- With safe limits every rule goes through. -/
theorem goesThrough_of_areSafe (integers : limits.AreIntegers) (safe : limits.AreSafe)
    (bounded : query.IsBounded limits) (goalHashable : goal.isHashable = true) (rule : Rule) :
    rule.GoesThrough goal query limits := by
  cases rule with
  | poolLiterals =>
      exact goesThrough_of_areAll (Proposals.areAll_selecting
        (fun value pooled => Ty.succeeds_checkedLe (bounded.pools value pooled) goalHashable)
        fun value _ _ => Term.isSingle_of_ne (by simp) (by simp))
  | goalLiteral =>
      refine goesThrough_of_areAll (Proposals.areAll_ofList fun t member => ?_)
      cases goal with
      | literal v =>
          rw [List.mem_singleton.1 member]
          exact Term.isSingle_of_ne (by simp) (by simp)
      | text s =>
          rw [List.mem_singleton.1 member]
          exact Term.isSingle_of_ne (by simp [Term.str]) (by simp [Term.str])
      | _ => exact absurd member List.not_mem_nil
  | fittingVariables =>
      exact goesThrough_of_areAll (Proposals.areAll_selecting
        (fun binding bound => Ty.succeeds_checkedLe (bounded.env binding bound) goalHashable)
        fun binding _ _ => Term.isSingle_of_ne (by simp) (by simp))
  | caseSplit =>
      refine goesThrough_of_areAll (Proposals.areAll_ofList fun t member => ?_)
      cases goal with
      | union members =>
          obtain ⟨alternative, _, rfl⟩ := List.mem_map.1 member
          exact Term.isSingle_of_ne (by simp) (by simp)
      | _ => exact absurd member List.not_mem_nil
  | arrays => exact goesThrough_arrays integers safe
  | records =>
      refine goesThrough_of_areAll (Proposals.areAll_ofList fun t member => ?_)
      cases goal with
      | record fields =>
          obtain ⟨keys, _, rfl⟩ := exists_keys_of_mem_records member
          exact Term.isSingle_of_ne (by simp) (by simp)
      | _ => exact absurd member List.not_mem_nil
  | arithmetic => exact goesThrough_arithmetic integers safe
  | joinedTexts => exact goesThrough_joinedTexts integers safe
  | phoneNumbers =>
      refine goesThrough_of_areAll (Proposals.areAll_ofList fun t member => ?_)
      obtain ⟨_, name, _, member⟩ := mem_fromTexts member
      rw [List.mem_singleton.1 member]
      exact Term.isSingle_phoneNumber _
  | slices =>
      refine goesThrough_of_areAll (Proposals.areAll_ofList fun t member => ?_)
      obtain ⟨_, name, _, member⟩ := mem_fromTexts member
      rcases List.mem_cons.1 member with rfl | cut
      · exact Term.isSingle_of_ne (by simp [Term.reversed]) (by simp [Term.reversed])
      · obtain ⟨start, _, cut⟩ := List.mem_flatMap.1 cut
        obtain ⟨stop, _, rfl⟩ := List.mem_map.1 cut
        exact Term.isSingle_of_ne (by simp [Term.between]) (by simp [Term.between])
  | caseChanges =>
      refine goesThrough_of_areAll (Proposals.areAll_ofList fun t member => ?_)
      obtain ⟨_, name, _, method, _, rfl⟩ := exists_of_mem_caseChanges member
      exact Term.isSingle_call_nil name method
  | queryStrings =>
      refine goesThrough_of_areAll (Proposals.areAll_ofList fun t member => ?_)
      obtain ⟨texts, _, rfl⟩ := exists_texts_of_mem_queryStrings member
      exact Term.isSingle_of_ne (by simp) (by simp)
  | catalogCalls => exact goesThrough_catalogCalls bounded goalHashable

end Rule

/-! ### Limits that are not safe -/

namespace Limits

variable {limits : Limits} {bound : Value}

/-- A negative bound leaves the first of some equal items when they are one more than it drops. -/
theorem leading_replicate (isInteger : bound.integer?.isSome = true) (negative : number bound < 0)
    (value : Value) :
    leading bound (List.replicate ((-number bound).toNat + 1) value) = .ok [value] := by
  have one : (number bound + (((-number bound).toNat + 1 : Nat) : Int)).toNat = 1 := by omega
  rw [leading_eq_ok isInteger, if_pos negative, List.length_replicate, one]
  rfl

/-- The query with some variables and literals and no methods. -/
def probe (env : Environment) (pools : Pools) : Query :=
  { env, goal := .top, pools, catalog := .empty }

theorem CanDrive.goesThrough (drives : limits.CanDrive) (env : Environment) (pools : Pools)
    (envHashable : ∀ binding ∈ env, binding.2.isHashable = true)
    (poolsHashable : ∀ value ∈ pools.all, (Ty.ofValue value).isHashable = true) {goal : Ty}
    (goalHashable : goal.isHashable = true) {rule : Rule} (listed : rule ∈ Rule.standard) :
    rule.GoesThrough goal (probe env pools) limits := by
  have none (entry : String × String × Signature) :
      entry ∉ (probe env pools).catalog.entries :=
    List.not_mem_nil
  exact drives (probe env pools) goal ⟨envHashable, poolsHashable⟩
    ⟨fun entry listed => absurd listed (none entry), fun entry listed => absurd listed (none entry)⟩
    (fun entry listed => absurd listed (none entry)) goalHashable rule listed

theorem CanDrive.three_le (drives : limits.CanDrive) : 3 ≤ number limits.maxArrayArity := by
  have goes : Rule.arrays.GoesThrough (.generic "list" .boolean) (probe [] {}) limits :=
    drives.goesThrough [] {} (List.forall_mem_nil _) (List.forall_mem_nil _) rfl (by decide)
  obtain ⟨terms, same, restrained⟩ := goes
  obtain rfl := (Proposals.toList_eq_ok_iff.1 same).2
  have short := restrained.arrays
    [.literal (.bool true), .literal (.bool false), .literal (.bool true)]
    (List.mem_cons_of_mem _ List.mem_cons_self)
  simp only [List.length_cons, List.length_nil, longestArray] at short
  omega

/-- Where an integer is wanted, the limits have let constants, pairs and triples be taken. -/
theorem CanDrive.exists_taken (drives : limits.CanDrive) (env : Environment) (pools : Pools)
    (envHashable : ∀ binding ∈ env, binding.2.isHashable = true)
    (poolsHashable : ∀ value ∈ pools.all, (Ty.ofValue value).isHashable = true) :
    ∃ constants, leading limits.arithmeticConstants pools.integers = .ok constants ∧
      Succeeds (first limits.constantPairs (pairs pools.integers)) ∧
      Succeeds (Rule.takenTriples limits (probe env pools).integerVariables) ∧
      ∀ name ∈ (probe env pools).integerVariables, ∀ c ∈ constants,
        c ∈ pools.integers.take (number limits.arithmeticConstants).toNat := by
  have goes : Rule.arithmetic.GoesThrough .integer (probe env pools) limits :=
    drives.goesThrough env pools envHashable poolsHashable rfl (by decide)
  obtain ⟨terms, same, restrained⟩ := goes
  have same : (Rule.proposeArithmetic .integer (probe env pools) limits).toList = .ok terms := same
  rw [Rule.toList_proposeArithmetic rfl] at same
  obtain ⟨constants, taken, same⟩ := Attempt.bind_eq_ok_iff.1 same
  obtain ⟨sums, counted, same⟩ := Attempt.bind_eq_ok_iff.1 same
  obtain ⟨triples, summed, same⟩ := Attempt.bind_eq_ok_iff.1 same
  obtain rfl := Attempt.pure_eq_ok_iff.1 same
  refine ⟨constants, taken, ⟨sums, counted⟩, ⟨triples, summed⟩, fun name bound c member => ?_⟩
  refine restrained.constants ((Term.var name).plus (.literal c)) ?_ c rfl
  refine List.mem_append_left _ (List.mem_append_right _ ?_)
  exact List.mem_flatMap.2 ⟨name, bound, List.mem_flatMap.2 ⟨c, member, List.mem_cons_self⟩⟩

theorem CanDrive.arithmeticConstants_nonneg (drives : limits.CanDrive)
    (isInteger : limits.arithmeticConstants.integer?.isSome = true) :
    0 ≤ number limits.arithmeticConstants := by
  by_contra negative
  have negative := not_le.1 negative
  -- one integer more than the bound drops is combined with the variable
  let pools : Pools :=
    ⟨[], List.replicate ((-number limits.arithmeticConstants).toNat + 1) (.int 0)⟩
  have hashable : ∀ value ∈ pools.all, (Ty.ofValue value).isHashable = true := by
    intro value member
    rw [List.eq_of_mem_replicate member]
    rfl
  obtain ⟨constants, taken, _, _, allowed⟩ :=
    drives.exists_taken [("x", .integer)] pools (List.forall_mem_singleton.2 rfl) hashable
  obtain rfl := Except.ok.inj ((leading_replicate isInteger negative _).symm.trans taken)
  have member := allowed "x" List.mem_cons_self (.int 0) List.mem_cons_self
  rw [Int.toNat_of_nonpos negative.le] at member
  exact List.not_mem_nil member

theorem CanDrive.concatConstants_nonneg (drives : limits.CanDrive)
    (isInteger : limits.concatConstants.integer?.isSome = true) :
    0 ≤ number limits.concatConstants := by
  by_contra negative
  have negative := not_le.1 negative
  let pools : Pools :=
    ⟨List.replicate ((-number limits.concatConstants).toNat + 1) (.str "a"), []⟩
  have hashable : ∀ value ∈ pools.all, (Ty.ofValue value).isHashable = true := by
    intro value member
    rw [Pools.all, List.append_nil] at member
    rw [List.eq_of_mem_replicate member]
    rfl
  have goes : Rule.joinedTexts.GoesThrough .string (probe [("x", .string)] pools) limits :=
    drives.goesThrough [("x", .string)] pools (List.forall_mem_singleton.2 rfl) hashable rfl
      (by decide)
  obtain ⟨terms, same, restrained⟩ := goes
  obtain rfl := (Proposals.toList_eq_ok_iff.1 same).2
  have proposed : (Term.var "x").plus (.str "a") ∈
      (Rule.proposeJoinedTexts .string (probe [("x", .string)] pools) limits).terms := by
    unfold Rule.proposeJoinedTexts
    rw [if_neg (by decide), Proposals.mem_needing]
    refine ⟨_, leading_replicate isInteger negative (.str "a"), ?_⟩
    refine List.mem_flatMap.2 ⟨"x", List.mem_cons_self, List.mem_append_right _ ?_⟩
    exact List.mem_flatMap.2 ⟨_, List.mem_cons_self, List.mem_cons_self⟩
  have member : .str "a" ∈ pools.strings.take (number limits.concatConstants).toNat :=
    restrained.constants _ proposed (.str "a") rfl
  rw [Int.toNat_of_nonpos negative.le] at member
  exact List.not_mem_nil member

theorem CanDrive.isCount_constantPairs (drives : limits.CanDrive)
    (isInteger : limits.constantPairs.integer?.isSome = true) :
    0 ≤ number limits.constantPairs ∧ number limits.constantPairs ≤ largestCount := by
  obtain ⟨_, _, counted, _⟩ := 
    drives.exists_taken [] {} (List.forall_mem_nil _) (List.forall_mem_nil _)
  exact count_of_first isInteger counted

theorem CanDrive.isCount_variableTriples (drives : limits.CanDrive)
    (isInteger : limits.variableTriples.integer?.isSome = true) :
    0 ≤ number limits.variableTriples ∧ number limits.variableTriples ≤ largestCount := by
  let env : Environment := [("x", .integer), ("y", .integer), ("z", .integer)]
  have hashable : ∀ binding ∈ env, binding.2.isHashable = true := by decide
  obtain ⟨_, _, _, counted, _⟩ := 
    drives.exists_taken env {} hashable (List.forall_mem_nil _)
  exact count_of_first isInteger counted

end Limits

/-! ### Settings -/

namespace Settings

variable {settings : Settings}

theorem IsDeclared.areIntegers (declared : settings.IsDeclared) :
    settings.limits.AreIntegers := by
  have integer {bound : Value} (admitted : (∃ n, bound = .int n) ∨ ∃ b, bound = .bool b) :
      bound.integer?.isSome = true := by
    rcases admitted with ⟨n, rfl⟩ | ⟨b, rfl⟩ <;> rfl
  exact ⟨integer (declared .maxArrayArity), integer (declared .arithmeticConstants),
    integer (declared .constantPairs), integer (declared .variableTriples),
    integer (declared .concatConstants)⟩

/-- Settings of the kinds that they are declared with can drive the search exactly if their
limits are safe, whatever is complained about. -/
theorem canDrive_iff (declared : settings.IsDeclared) :
    settings.limits.CanDrive ↔ settings.limits.AreSafe := by
  have integers := declared.areIntegers
  constructor
  · intro drives
    exact
      { maxArrayArity := drives.three_le
        arithmeticConstants := drives.arithmeticConstants_nonneg integers.arithmeticConstants
        constantPairs := drives.isCount_constantPairs integers.constantPairs
        variableTriples := drives.isCount_variableTriples integers.variableTriples
        concatConstants := drives.concatConstants_nonneg integers.concatConstants }
  · intro safe query goal hashable catalog fixed goalHashable rule _
    exact Rule.goesThrough_of_areSafe integers safe
      ⟨hashable, catalog, fixed, integers.maxArrayArity⟩ goalHashable rule

/-- Settings that are the defaults but for the limits. -/
theorem isDeclared_limits (arity constants pairs triples texts : Int) :
    IsDeclared
      { limits := ⟨.int arity, .int constants, .int pairs, .int triples, .int texts⟩ } := by
  intro slot
  cases slot <;> simp [Slot.Admits, Slot.get]

/-- Limits that let only one pair and one triple be summed up. -/
theorem canDrive_iff_small :
    let settings : Settings := { limits := ⟨.int 3, .int 0, .int 1, .int 1, .int 0⟩ }
    settings.IsDeclared ∧ settings.limits.CanDrive := by
  intro settings
  have declared : settings.IsDeclared := isDeclared_limits 3 0 1 1 0
  have safe : settings.limits.AreSafe :=
    ⟨by decide, by decide, by decide, by decide, by decide⟩
  exact ⟨declared, (canDrive_iff declared).2 safe⟩

/-- Nothing is to be said against settings with a negative number of pairs, but the rule for
sums is stopped with them; nor against settings without literal arrays, but lists of three truth
values are proposed with them. -/
theorem not_canDrive_negative :
    let negative : Settings := { limits := ⟨.int 3, .int 5, .int (-1), .int 6, .int 3⟩ }
    let arrayless : Settings := { limits := ⟨.int 0, .int 5, .int 10, .int 6, .int 3⟩ }
    let integers : Query := Limits.probe [] ⟨[], [.int 1, .int 2]⟩
    (negative.IsDeclared ∧ negative.complaints = .ok [] ∧
      (Rule.arithmetic.propose .integer integers negative.limits).toList =
        .error (.describe .value
          ("Stop argument for islice() must be None or an integer: " ++
            "0 <= x <= sys.maxsize.")) ∧
      ¬ negative.limits.CanDrive) ∧
    arrayless.IsDeclared ∧ arrayless.complaints = .ok [] ∧
      .array [.literal (.bool true), .literal (.bool false), .literal (.bool true)] ∈
        (Rule.arrays.propose (.generic "list" .boolean) integers arrayless.limits).terms ∧
      ¬ arrayless.limits.CanDrive := by
  intro negative arrayless integers
  have declared : negative.IsDeclared := isDeclared_limits 3 5 (-1) 6 3
  refine ⟨⟨declared, rfl, rfl, fun drives => ?_⟩, isDeclared_limits 0 5 10 6 3, rfl,
    List.mem_cons_of_mem _ List.mem_cons_self, fun drives => ?_⟩
  · have count := drives.isCount_constantPairs declared.areIntegers.constantPairs
    exact absurd count.1 (by decide)
  · exact absurd drives.three_le (by decide)

end Settings

end FunctionSynthesis
