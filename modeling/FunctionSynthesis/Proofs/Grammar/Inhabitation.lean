import Mathlib.Algebra.GroupWithZero.Nat
import Mathlib.Algebra.Order.BigOperators.Group.List
import Mathlib.Algebra.Order.Group.Nat
import FunctionSynthesis.Grammar.Inhabitation
import FunctionSynthesis.Proofs.Ty.Parts
import FunctionSynthesis.Proofs.Typing.Totality

/-!
# Inhabitation is decided

Whether a goal is inhabited is decided with the depth that is allowed for it: every
goal that is met on the way is a part of the first one or of a signature, and a goal
that is met again is given up. So the goals that have not been met become fewer with
every goal that is considered, and between two of them at most the members of one
union are gone through (`succeeds_isInhabited`).
-/

namespace FunctionSynthesis

/-! ### Sizes of types -/

namespace Ty

theorem nodesOfAll_eq_sum (ts : List Ty) : nodesOfAll ts = (ts.map nodes).sum := by
  induction ts with
  | nil => rfl
  | cons t ts ih => simp [nodesOfAll, ih]

theorem nodesOfFields_eq_sum (fields : List (String × Ty)) :
    nodesOfFields fields = (fields.map fun field => field.2.nodes).sum := by
  induction fields with
  | nil => rfl
  | cons field fields ih => simp [nodesOfFields, ih]

theorem length_parts (t : Ty) : t.parts.length = t.nodes := by
  induction t with
  | generic base param ih => simp [parts, nodes, ih]
  | union ts ih =>
      rw [parts, nodes, partsOfAll_eq_flatMap, nodesOfAll_eq_sum, List.length_cons,
        List.length_flatMap, List.map_congr_left ih]
  | record fields ih =>
      rw [parts, nodes, partsOfFields_eq_flatMap, nodesOfFields_eq_sum, List.length_cons,
        List.length_flatMap, List.map_congr_left ih]
  | _ => rfl

theorem nodes_lt_of_member {ts : List Ty} {t : Ty} (member : t ∈ ts) :
    t.nodes < (Ty.union ts).nodes := by
  rw [← length_parts, ← length_parts, parts, partsOfAll_eq_flatMap, List.length_cons]
  exact Nat.lt_succ_of_le (sublist_flatMap_of_mem parts member).length_le

end Ty

/-! ### Comparable queries -/

/-- Whether the types that a query compares are hashable and methods that take items are the
only ones with a variable result. -/
structure Query.IsComparable (query : Query) : Prop where
  env : ∀ binding ∈ query.env, binding.2.isHashable = true
  pools : ∀ value ∈ query.pools.all, (Ty.ofValue value).isHashable = true
  arguments : ∀ entry ∈ query.catalog.entries, ∀ t ∈ entry.2.2.arguments, t.isHashable = true
  results : ∀ entry ∈ query.catalog.entries, entry.2.2.result.isHashable = true
  items : ∀ entry ∈ query.catalog.entries, ∀ name,
    entry.2.2.result = .var name → entry.2.1 = "__getitem__"

/-- Whether the types and the literals of a query are ordinary and methods that take
items are the only ones with a variable result. -/
structure Query.IsOrdinary (query : Query) : Prop where
  env : query.env.IsOrdinary
  goal : query.goal.isOrdinary = true
  pools : ∀ value ∈ query.pools.all, value.isAtom = true
  catalog : query.catalog.IsOrdinary
  results : ∀ entry ∈ query.catalog.entries, ∀ name,
    entry.2.2.result = .var name → entry.2.1 = "__getitem__"

theorem Query.IsOrdinary.isComparable {query : Query} (ordinary : query.IsOrdinary) :
    query.IsComparable where
  env binding member := Ty.isHashable_of_isOrdinary (ordinary.env binding member)
  pools value member :=
    Ty.isHashable_of_isOrdinary (Ty.isOrdinary_ofValue (ordinary.pools value member))
  arguments entry listed t member :=
    Ty.isHashable_of_isOrdinary ((ordinary.catalog entry listed).1 t member)
  results entry listed := Ty.isHashable_of_isOrdinary (ordinary.catalog entry listed).2
  items := ordinary.results

/-- Whether a bound is a number of items that can be counted off. -/
def Limits.IsCount (bound : Value) : Prop :=
  ∃ n : Nat, bound = .int n ∧ (n : Int) ≤ largestCount

/-- Whether all limits are numbers of items that can be counted off. -/
structure Limits.AreCounts (limits : Limits) : Prop where
  maxArrayArity : IsCount limits.maxArrayArity
  arithmeticConstants : IsCount limits.arithmeticConstants
  constantPairs : IsCount limits.constantPairs
  variableTriples : IsCount limits.variableTriples
  concatConstants : IsCount limits.concatConstants

theorem Limits.areCounts_default : Limits.AreCounts {} :=
  ⟨⟨3, rfl, by decide⟩, ⟨5, rfl, by decide⟩, ⟨10, rfl, by decide⟩, ⟨6, rfl, by decide⟩,
    ⟨3, rfl, by decide⟩⟩

open Attempt (Succeeds)

theorem Ty.succeeds_checkedLe {a b : Ty} (ha : a.isHashable = true)
    (hb : b.isHashable = true) : Succeeds (a.checkedLe b) :=
  ⟨_, checkedLe_of_isHashable ha hb⟩

theorem Limits.succeeds_count {bound : Value} (isCount : IsCount bound) :
    Succeeds (count bound) := by
  obtain ⟨n, rfl, _⟩ := isCount
  exact ⟨n, rfl⟩

namespace Query

variable {query : Query} {limits : Limits}

theorem IsComparable.result_ne_var (comparable : query.IsComparable)
    {entry : String × String × Signature} (callable : entry ∈ query.callableEntries)
    (name : String) : entry.2.2.result ≠ .var name := by
  intro isVariable
  obtain ⟨listed, kept⟩ := List.mem_filter.1 callable
  have item := comparable.items entry listed name isVariable
  simp [isSkipped, item] at kept

theorem IsOrdinary.signature (ordinary : query.IsOrdinary)
    {entry : String × String × Signature} (callable : entry ∈ query.callableEntries) :
    entry.2.2.IsOrdinary :=
  ordinary.catalog entry (List.mem_filter.1 callable).1

/-- A call of a method without a variable result has a receiver of its class. -/
theorem typesFor?_eq {signature : Signature} (className : String) (goal : Ty)
    (fixed : ∀ name, signature.result ≠ .var name) :
    signature.typesFor? className goal =
      if signature.arguments.any Ty.isBottom then none
      else some (.nominal className, signature.result) := by
  unfold Signature.typesFor?
  split
  · rfl
  · split
    next name isVariable => exact absurd isVariable (fixed name)
    next => rfl

theorem typesFor?_cases {signature : Signature} (className : String) (goal : Ty)
    (fixed : ∀ name, signature.result ≠ .var name) :
    signature.typesFor? className goal = none ∨
      signature.typesFor? className goal =
        some (.nominal className, signature.result) := by
  rw [typesFor?_eq className goal fixed]
  split
  · exact Or.inl rfl
  · exact Or.inr rfl

theorem yields_eq {signature : Signature} (goal : Ty)
    (fixed : ∀ name, signature.result ≠ .var name) :
    signature.yields goal = signature.result.checkedLe goal := by
  unfold Signature.yields
  split
  next name isVariable => exact absurd isVariable (fixed name)
  next => rfl

theorem succeeds_yields {signature : Signature} {goal : Ty}
    (hashable : signature.result.isHashable = true) (goalHashable : goal.isHashable = true) :
    Succeeds (signature.yields goal) := by
  unfold Signature.yields
  split
  · exact Attempt.succeeds_pure true
  · exact Ty.succeeds_checkedLe hashable goalHashable

theorem succeeds_hasArray (counts : limits.AreCounts) (goal : Ty) :
    Succeeds (query.hasArray limits goal) := by
  unfold hasArray
  split
  · exact Attempt.succeeds_pure false
  · exact Attempt.succeeds_pure true
  · exact Attempt.succeeds_bind (Limits.succeeds_count counts.maxArrayArity)
      fun longest _ => Attempt.succeeds_pure _

/-! ### Goals that can be met -/

/-- Whether a list of types contains all goals that are met on the way from any one of
them. -/
structure Covers (query : Query) (goals : List Ty) : Prop where
  hashable : ∀ t ∈ goals, t.isHashable = true
  parts : ∀ t ∈ goals, t.parts.Sublist goals
  receivers : ∀ entry ∈ query.callableEntries, .nominal entry.1 ∈ goals
  arguments : ∀ entry ∈ query.callableEntries, ∀ t ∈ entry.2.2.arguments, t ∈ goals

/-- The parts of a goal and of all signatures, with the classes of the receivers. -/
def goalsFrom (query : Query) (goal : Ty) : List Ty :=
  goal.parts ++ query.callableEntries.flatMap fun entry =>
    .nominal entry.1 :: entry.2.2.arguments.flatMap Ty.parts

theorem covers_goalsFrom (comparable : query.IsComparable) {goal : Ty}
    (goalHashable : goal.isHashable = true) : query.Covers (query.goalsFrom goal) := by
  have signature {entry : String × String × Signature}
      (callable : entry ∈ query.callableEntries) :
      (Ty.nominal entry.1 :: entry.2.2.arguments.flatMap Ty.parts).Sublist
        (query.goalsFrom goal) := by
    refine .trans ?_ (List.sublist_append_right goal.parts _)
    exact Ty.sublist_flatMap_of_mem (fun entry : String × String × Signature =>
      Ty.nominal entry.1 :: entry.2.2.arguments.flatMap Ty.parts) callable
  have cases {t : Ty} (member : t ∈ query.goalsFrom goal) :
      t ∈ goal.parts ∨ ∃ entry ∈ query.callableEntries,
        t = .nominal entry.1 ∨ ∃ arg ∈ entry.2.2.arguments, t ∈ arg.parts := by
    simpa [goalsFrom] using member
  refine ⟨fun t member => ?_, fun t member => ?_, fun entry callable => ?_,
    fun entry callable t inside => ?_⟩
  · rcases cases member with part | ⟨entry, callable, rfl | ⟨arg, inside, part⟩⟩
    · exact Ty.isHashable_of_mem_parts goalHashable part
    · rfl
    · exact Ty.isHashable_of_mem_parts (comparable.arguments entry
        (List.mem_filter.1 callable).1 arg inside) part
  · rcases cases member with part | ⟨entry, callable, rfl | ⟨arg, inside, part⟩⟩
    · exact (Ty.parts_sublist_of_mem part).trans (List.sublist_append_left _ _)
    · exact List.singleton_sublist.2 member
    · exact (((Ty.parts_sublist_of_mem part).trans
        (Ty.sublist_flatMap_of_mem Ty.parts inside)).cons _).trans (signature callable)
  · exact (signature callable).subset List.mem_cons_self
  · refine (signature callable).subset (List.mem_cons_of_mem _ ?_)
    exact List.mem_flatMap_of_mem inside t.mem_parts_self

/-- The goals of a list that have not been met. -/
def unmet (goals visiting : List Ty) : List Ty :=
  goals.filter fun t => !visiting.any fun seen => t == seen

/-- Fewer goals have not been met after one more was. -/
theorem length_unmet_append_lt {goals visiting : List Ty} {goal : Ty}
    (member : goal ∈ goals) (hashable : goal.isHashable = true)
    (new : ∀ seen ∈ visiting, (goal == seen) = false) :
    (unmet goals (visiting ++ [goal])).length < (unmet goals visiting).length := by
  have filtered : unmet goals (visiting ++ [goal]) =
      (unmet goals visiting).filter fun t => !(t == goal) := by
    simp [unmet, List.filter_filter, Bool.and_comm]
  have notMet : goal ∈ unmet goals visiting := by
    simpa [unmet, member] using new
  rw [filtered, List.length_filter_lt_length_iff_exists]
  refine ⟨goal, notMet, ?_⟩
  have same : (goal == goal) = true := Ty.equal_refl hashable
  simp [same]

/-! ### Inhabitation -/

/-- Whether a variable, a pool value or a literal array closes a hole of a goal type. -/
def closesAtOnce (query : Query) (limits : Limits) (goal : Ty) : Bool :=
  query.env.any (fun binding => binding.2.le goal) ||
    query.pools.all.any (fun value => (Ty.ofValue value).le goal) ||
    (query.hasArray limits goal).toOption.getD false

/-- Whether a goal is closed at once, by its own literal if it has one. -/
def isTerminal (query : Query) (limits : Limits) (goal : Ty) : Bool :=
  match goal with
  | .literal _ => true
  | .text _ => true
  | goal => query.closesAtOnce limits goal

section Tests

variable {goal : Ty} (goalHashable : goal.isHashable = true)

include goalHashable

theorem anyM_env (hashable : ∀ binding ∈ query.env, binding.2.isHashable = true) :
    query.env.anyM (fun binding => binding.2.checkedLe goal) =
      .ok (query.env.any fun binding => binding.2.le goal) :=
  Attempt.anyM_eq_ok fun binding member =>
    Ty.checkedLe_of_isHashable (hashable binding member) goalHashable

theorem anyM_pools (hashable : ∀ value ∈ query.pools.all, (Ty.ofValue value).isHashable = true) :
    query.pools.all.anyM (fun value => value.fits goal) =
      .ok (query.pools.all.any fun value => (Ty.ofValue value).le goal) :=
  Attempt.anyM_eq_ok fun value member =>
    Ty.checkedLe_of_isHashable (hashable value member) goalHashable

theorem anyM_visiting {visiting : List Ty} (visited : ∀ seen ∈ visiting, seen.isHashable = true) :
    visiting.anyM (fun seen => goal.checkedEqual seen) =
      .ok (visiting.any fun seen => goal == seen) :=
  Attempt.anyM_eq_ok fun seen member =>
    Ty.checkedEqual_of_isHashable goalHashable (visited seen member)

end Tests

/-- When nothing closes a hole at once, a goal that is met again is given up, and
another one is decided by what is below it. -/
theorem eq_of_below (comparable : query.IsComparable) (counts : limits.AreCounts)
    {visiting : List Ty} {goal : Ty} (goalHashable : goal.isHashable = true)
    (visited : ∀ seen ∈ visiting, seen.isHashable = true) (below : Except Fault Bool) :
    (do
      if ← query.env.anyM fun binding => binding.2.checkedLe goal then
        return true
      if ← query.pools.all.anyM fun value => value.fits goal then
        return true
      if ← query.hasArray limits goal then return true
      if ← visiting.anyM fun seen => goal.checkedEqual seen then
        return false
      below) =
      if query.closesAtOnce limits goal then .ok true
      else if visiting.any fun seen => goal == seen then .ok false
      else below := by
  have arrays : query.hasArray limits goal =
      .ok ((query.hasArray limits goal).toOption.getD false) :=
    Attempt.eq_ok_of_succeeds (succeeds_hasArray counts goal)
  rw [anyM_env goalHashable comparable.env, anyM_pools goalHashable comparable.pools, arrays,
    anyM_visiting goalHashable visited, closesAtOnce]
  cases query.env.any fun binding => binding.2.le goal <;>
    cases query.pools.all.any fun value => (Ty.ofValue value).le goal <;>
    cases (query.hasArray limits goal).toOption.getD false <;>
    cases visiting.any fun seen => goal == seen <;> rfl

/-- Whether a listed method can be called for a goal, when `within` tells whether holes can be
closed. -/
def canCall (goal : Ty) (within : Ty → Except Fault Bool) :
    String × String × Signature → Except Fault Bool
  | (className, _, signature) => do
      match signature.typesFor? className goal with
      | none => return false
      | some (receiver, _) =>
          if !(← signature.yields goal) then return false
          (receiver :: signature.arguments).allM within

theorem canCall_eq (comparable : query.IsComparable) {goal : Ty}
    (goalHashable : goal.isHashable = true) (within : Ty → Except Fault Bool)
    {entry : String × String × Signature} (callable : entry ∈ query.callableEntries) :
    canCall goal within entry =
      if entry.2.2.arguments.any Ty.isBottom = false ∧ entry.2.2.result.le goal = true then
        (.nominal entry.1 :: entry.2.2.arguments).allM within
      else .ok false := by
  have fixed := comparable.result_ne_var callable
  have hashable := comparable.results entry (List.mem_filter.1 callable).1
  obtain ⟨className, method, signature⟩ := entry
  rw [canCall, typesFor?_eq className goal fixed, yields_eq goal fixed,
    Ty.checkedLe_of_isHashable hashable goalHashable]
  cases signature.arguments.any Ty.isBottom <;> cases signature.result.le goal <;> rfl

/-- Whether one of the calls for a goal can be made. -/
def anyCall (query : Query) (goal : Ty) (within : Ty → Except Fault Bool) :
    Except Fault Bool :=
  query.callableEntries.anyM (canCall goal within)

/-- Whether one of the calls can be made is decided when it is decided for the goals
that a method has. -/
theorem succeeds_calls (comparable : query.IsComparable) {goals : List Ty}
    (covers : query.Covers goals) {goal : Ty} (goalHashable : goal.isHashable = true)
    {within : Ty → Except Fault Bool} (decided : ∀ t ∈ goals, Succeeds (within t)) :
    Succeeds (query.anyCall goal within) := by
  refine Attempt.succeeds_anyM fun entry callable => ?_
  rw [canCall_eq comparable goalHashable within callable]
  split
  · refine Attempt.succeeds_allM fun t hole => decided t ?_
    rcases List.mem_cons.1 hole with rfl | argument
    · exact covers.receivers entry callable
    · exact covers.arguments entry callable t argument
  · exact ⟨false, rfl⟩

/-- What a goal is decided by that is not closed at once: a record by its fields and any
other goal by the calls for it. -/
def anyBelow (query : Query) (goal : Ty) (within : Ty → Except Fault Bool) :
    Except Fault Bool :=
  match goal with
  | .record fields => fields.anyM fun field => within field.2
  | goal => query.anyCall goal within

/-- What the recursion comes to for a goal that is no union. -/
theorem inhabitedWithin_succ (comparable : query.IsComparable) (counts : limits.AreCounts)
    {visiting : List Ty} {goal : Ty} (alone : goal.isUnion = false)
    (goalHashable : goal.isHashable = true)
    (visited : ∀ seen ∈ visiting, seen.isHashable = true) (depth : Nat) :
    query.inhabitedWithin limits (depth + 1) visiting goal =
      if query.isTerminal limits goal then .ok true
      else if visiting.any fun seen => goal == seen then .ok false
      else query.anyBelow goal fun t =>
        query.inhabitedWithin limits depth (visiting ++ [goal]) t := by
  have plain := eq_of_below comparable counts goalHashable visited
  cases goal with
  | literal v => rfl
  | text s => rfl
  | union ts => cases alone
  | _ => exact plain _

theorem succeeds_inhabitedWithin (comparable : query.IsComparable)
    (counts : limits.AreCounts) {goals : List Ty} (covers : query.Covers goals)
    {depth : Nat} {visiting : List Ty} {goal : Ty} (member : goal ∈ goals)
    (visited : ∀ seen ∈ visiting, seen.isHashable = true)
    (deep : (unmet goals visiting).length * (goals.length + 1) + goal.nodes < depth) :
    Succeeds (query.inhabitedWithin limits depth visiting goal) := by
  induction depth generalizing visiting goal with
  | zero => exact absurd deep (Nat.not_lt_zero _)
  | succ depth ih =>
      have goalHashable := covers.hashable goal member
      -- after a new goal there is depth for the parts of any other one
      have descend (new : ∀ seen ∈ visiting, (goal == seen) = false) (t : Ty)
          (inside : t ∈ goals) :
          Succeeds (query.inhabitedWithin limits depth (visiting ++ [goal]) t) := by
        refine ih inside (List.forall_mem_append.2
          ⟨visited, List.forall_mem_singleton.2 goalHashable⟩) ?_
        have fewer := length_unmet_append_lt member goalHashable new
        have product := Nat.mul_le_mul_right (goals.length + 1) (Nat.succ_le_of_lt fewer)
        rw [Nat.succ_mul] at product
        have small : t.nodes ≤ goals.length := by
          rw [← Ty.length_parts]
          exact (covers.parts t inside).length_le
        omega
      cases alone : goal.isUnion with
      | true =>
          obtain ⟨ts, rfl⟩ : ∃ ts, goal = .union ts := by
            cases goal <;> first | exact ⟨_, rfl⟩ | cases alone
          refine Attempt.succeeds_anyM fun t inside => ih ?_ visited ?_
          · exact (covers.parts _ member).subset (Ty.mem_parts_of_member inside)
          · have smaller := Ty.nodes_lt_of_member inside
            omega
      | false =>
          rw [inhabitedWithin_succ comparable counts alone goalHashable visited]
          split
          · exact ⟨true, rfl⟩
          · split
            · exact ⟨false, rfl⟩
            next new =>
              have descend := descend (by simpa using new)
              unfold anyBelow
              split
              · refine Attempt.succeeds_anyM fun field inside => descend field.2 ?_
                exact (covers.parts _ member).subset (Ty.mem_parts_of_field inside)
              · exact succeeds_calls comparable covers goalHashable descend

/-- There are no more goals to be met than the allowed depth counts. -/
theorem length_goalsFrom_le (query : Query) (goal : Ty) :
    (query.goalsFrom goal).length ≤ goal.nodes +
      (query.catalog.entries.map fun entry =>
        Ty.nodesOfAll entry.2.2.arguments + 1).sum := by
  have each (entry : String × String × Signature) :
      (Ty.nominal entry.1 :: entry.2.2.arguments.flatMap Ty.parts).length =
        Ty.nodesOfAll entry.2.2.arguments + 1 := by
    rw [List.length_cons, List.length_flatMap, Ty.nodesOfAll_eq_sum,
      List.map_congr_left fun t _ => Ty.length_parts t]
  rw [goalsFrom, List.length_append, Ty.length_parts, List.length_flatMap,
    List.map_congr_left fun entry _ => each entry]
  refine Nat.add_le_add_left ?_ _
  exact (List.filter_sublist.map _).sum_le_sum fun _ _ => Nat.zero_le _

/-- Whether a goal is inhabited can be decided. -/
theorem succeeds_isInhabited (comparable : query.IsComparable) (counts : limits.AreCounts)
    {visiting : List Ty} {goal : Ty} (goalHashable : goal.isHashable = true)
    (visited : ∀ seen ∈ visiting, seen.isHashable = true) :
    Succeeds (query.isInhabited limits visiting goal) := by
  have member : goal ∈ query.goalsFrom goal :=
    List.mem_append_left _ goal.mem_parts_self
  refine succeeds_inhabitedWithin comparable counts
    (covers_goalsFrom comparable goalHashable) member visited ?_
  have unmetGoals : (unmet (query.goalsFrom goal) visiting).length ≤
      (query.goalsFrom goal).length := List.length_filter_le _ _
  have nodes : goal.nodes ≤ (query.goalsFrom goal).length := by
    rw [← Ty.length_parts]
    exact (List.sublist_append_left _ _).length_le
  have counted := Nat.succ_le_succ (length_goalsFrom_le query goal)
  calc (unmet (query.goalsFrom goal) visiting).length *
        ((query.goalsFrom goal).length + 1) + goal.nodes
      ≤ (query.goalsFrom goal).length * ((query.goalsFrom goal).length + 1) +
          (query.goalsFrom goal).length :=
        Nat.add_le_add (Nat.mul_le_mul_right _ unmetGoals) nodes
    _ < ((query.goalsFrom goal).length + 1) * ((query.goalsFrom goal).length + 1) := by
        rw [Nat.succ_mul]
        exact Nat.lt_succ_self _
    _ ≤ query.inhabitationDepth goal :=
        (Nat.mul_le_mul counted counted).trans (Nat.le_add_left _ 1000)

end Query

end FunctionSynthesis
