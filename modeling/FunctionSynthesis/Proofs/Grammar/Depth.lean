import FunctionSynthesis.Proofs.Grammar.Rule

/-!
# The depth of inhabitation

Only goals that are met again are given up, so the recursion that decides inhabitation has a
bounded depth as long as the goals that it meets are finitely many. A method with a variable
result asks for a receiver with the goal as the parameter: below a goal the recursion meets ever
larger ones. Inhabitation is therefore decided for every query with a catalog exactly if none of
the methods that can be called has a variable result (`boundsInhabitation_iff`).
-/

namespace FunctionSynthesis

open Attempt (Refines Succeeds)

/-! ### One level of the recursion -/

namespace Query

variable {query query' : Query} {limits limits' : Limits}

/-- Whether a hole of a goal type can be closed when `within` tells it, from the goals under
consideration, for what is below the goal. -/
def inhabitedBy (query : Query) (limits : Limits)
    (within : List Ty → Ty → Except Fault Bool) (visiting : List Ty) (goal : Ty) :
    Except Fault Bool :=
  match goal with
  | .literal _ => return true
  | .text _ => return true
  | .union members => members.anyM (within visiting)
  | goal => do
      if ← query.env.anyM fun binding => binding.2.checkedLe goal then
        return true
      if ← query.pools.all.anyM fun value => value.fits goal then
        return true
      if ← query.hasArray limits goal then return true
      if ← visiting.anyM fun seen => goal.checkedEqual seen then
        return false
      query.anyBelow goal (within (visiting ++ [goal]))

theorem inhabitedWithin_eq_inhabitedBy (depth : Nat) (visiting : List Ty) (goal : Ty) :
    query.inhabitedWithin limits (depth + 1) visiting goal =
      query.inhabitedBy limits (query.inhabitedWithin limits depth) visiting goal := by
  cases goal <;> rfl

theorem refines_canCall {within within' : Ty → Except Fault Bool}
    (below : ∀ t, Refines (within t) (within' t)) (goal : Ty)
    (entry : String × String × Signature) :
    Refines (canCall goal within entry) (canCall goal within' entry) := by
  obtain ⟨className, method, signature⟩ := entry
  rw [canCall, canCall]
  split
  · exact Refines.refl _
  · refine (Refines.refl _).bind fun fits => ?_
    cases fits with
    | true => exact Attempt.refines_allM below _
    | false => exact Refines.refl _

theorem refines_anyBelow {within within' : Ty → Except Fault Bool}
    (below : ∀ t, Refines (within t) (within' t)) (goal : Ty) :
    Refines (query.anyBelow goal within) (query.anyBelow goal within') := by
  unfold anyBelow
  split
  · exact Attempt.refines_anyM (fun field : String × Ty => below field.2) _
  · exact Attempt.refines_anyM (refines_canCall below _) _

/-- What is decided below a goal decides the goal in the same way. -/
theorem refines_inhabitedBy {within within' : List Ty → Ty → Except Fault Bool}
    (below : ∀ visiting t, Refines (within visiting t) (within' visiting t))
    (visiting : List Ty) (goal : Ty) :
    Refines (query.inhabitedBy limits within visiting goal)
      (query.inhabitedBy limits within' visiting goal) := by
  -- each test that comes before the goals below is the same on both sides
  have past {test next next' : Except Fault Bool} (known : Bool) (later : Refines next next') :
      Refines (test >>= fun passed => if passed then pure known else next)
        (test >>= fun passed => if passed then pure known else next') := by
    refine (Refines.refl test).bind fun passed => ?_
    cases passed with
    | true => exact Refines.refl _
    | false => exact later
  unfold inhabitedBy
  split
  · exact Refines.refl _
  · exact Refines.refl _
  · exact Attempt.refines_anyM (below visiting) _
  · exact past true (past true (past true (past false (refines_anyBelow (below _) _))))

/-- What is decided stays so with a greater depth. -/
theorem refines_inhabitedWithin {depth depth' : Nat} (deeper : depth ≤ depth')
    (visiting : List Ty) (goal : Ty) :
    Refines (query.inhabitedWithin limits depth visiting goal)
      (query.inhabitedWithin limits depth' visiting goal) := by
  induction depth generalizing depth' visiting goal with
  | zero => exact fun _ failed => nomatch failed
  | succ depth ih =>
      obtain ⟨rest, rfl⟩ : ∃ rest, depth' = rest + 1 := ⟨depth' - 1, by omega⟩
      rw [inhabitedWithin_eq_inhabitedBy, inhabitedWithin_eq_inhabitedBy]
      exact refines_inhabitedBy (ih (Nat.le_of_succ_le_succ deeper)) visiting goal

/-- Inhabitation depends on the catalog and the limits only as far as the calls for a goal and
its literal arrays do. -/
theorem inhabitedWithin_congr (env : query.env = query'.env) (pools : query.pools = query'.pools)
    (arrays : ∀ goal, query.hasArray limits goal = query'.hasArray limits' goal)
    (calls : ∀ goal within, query.anyCall goal within = query'.anyCall goal within)
    (depth : Nat) (visiting : List Ty) (goal : Ty) :
    query.inhabitedWithin limits depth visiting goal =
      query'.inhabitedWithin limits' depth visiting goal := by
  have same (goal : Ty) (within : Ty → Except Fault Bool) :
      query.anyBelow goal within = query'.anyBelow goal within := by
    unfold anyBelow
    split
    · rfl
    · exact calls _ within
  induction depth generalizing visiting goal with
  | zero => rfl
  | succ depth ih =>
      have below : query.inhabitedWithin limits depth = query'.inhabitedWithin limits' depth :=
        funext₂ ih
      rw [inhabitedWithin_eq_inhabitedBy, inhabitedWithin_eq_inhabitedBy, below]
      unfold inhabitedBy
      split
      · rfl
      · rfl
      · rfl
      · rw [env, pools, arrays, same]

end Query

theorem Limits.count_eq_ok {bound : Value} {n : Int} (isInteger : bound.integer? = some n) :
    count bound = .ok n := by
  rw [count, isInteger]
  rfl

/-! ### Methods with fixed results -/

/-- Whether a call of a method for a goal asks for a receiver with the goal as its parameter. -/
def Signature.asksForGoal (signature : Signature) : Bool :=
  match signature.result with
  | .var _ => !signature.arguments.any Ty.isBottom
  | _ => false

/-- A signature as it counts for calls: the result of a method that can never be called is
that of none. -/
def Signature.settled (signature : Signature) : Signature :=
  if signature.arguments.any Ty.isBottom then { signature with result := .bottom } else signature

namespace Catalog

/-- Whether the types of all signatures are hashable. -/
structure IsHashable (catalog : Catalog) : Prop where
  arguments : ∀ entry ∈ catalog.entries, ∀ t ∈ entry.2.2.arguments, t.isHashable = true
  results : ∀ entry ∈ catalog.entries, entry.2.2.result.isHashable = true

/-- Whether no method that is called for a goal takes its result from the goal. -/
def HasFixedResults (catalog : Catalog) : Prop :=
  ∀ entry ∈ catalog.entries, entry.2.1 ≠ "__getitem__" → entry.2.2.asksForGoal = false

theorem isHashable_standard : standard.IsHashable where
  arguments entry listed t member :=
    Ty.isHashable_of_isOrdinary ((isOrdinary_standard entry listed).1 t member)
  results entry listed := Ty.isHashable_of_isOrdinary (isOrdinary_standard entry listed).2

theorem hasFixedResults_standard : standard.HasFixedResults := by
  intro entry listed other
  unfold Signature.asksForGoal
  split
  next name isVariable => exact absurd (item_of_standard entry listed name isVariable) other
  next => rfl

/-- The catalog with settled signatures. -/
def settled (catalog : Catalog) : Catalog :=
  ⟨catalog.listings.map fun listing =>
    { listing with signatures := listing.signatures.map Signature.settled }⟩

theorem entries_settled (catalog : Catalog) : catalog.settled.entries =
    catalog.entries.map fun entry => (entry.1, entry.2.1, entry.2.2.settled) := by
  simp only [entries, settled, List.flatMap_map, List.map_flatMap, List.map_map]
  rfl

end Catalog

theorem Signature.arguments_settled (signature : Signature) :
    signature.settled.arguments = signature.arguments := by
  unfold settled
  split <;> rfl

theorem Signature.asksForGoal_of_settled {signature : Signature} {name : String}
    (isVariable : signature.settled.result = .var name) : signature.asksForGoal = true := by
  unfold settled at isVariable
  split at isVariable
  next => cases isVariable
  next usable =>
    rw [asksForGoal, isVariable]
    simpa using usable

namespace Query

variable {query : Query} {limits : Limits}

/-- Whether the types of the variables and the literals of a query are hashable. -/
structure IsHashable (query : Query) : Prop where
  env : ∀ binding ∈ query.env, binding.2.isHashable = true
  pools : ∀ value ∈ query.pools.all, (Ty.ofValue value).isHashable = true

/-- Whether the recursion for a query is bounded: everything that it compares is hashable, the
goals do not grow, and the longest array has an integer as its length. -/
structure IsBounded (query : Query) (limits : Limits) : Prop extends query.IsHashable where
  catalog : query.catalog.IsHashable
  fixed : query.catalog.HasFixedResults
  isInteger : limits.maxArrayArity.integer?.isSome = true

/-- The query with the settled signatures of its catalog. -/
def settled (query : Query) : Query :=
  { query with catalog := query.catalog.settled }

theorem IsBounded.isComparable_settled (bounded : query.IsBounded limits) :
    query.settled.IsComparable := by
  have settledEntries : ∀ entry ∈ query.settled.catalog.entries,
      ∃ original ∈ query.catalog.entries,
        (original.1, original.2.1, original.2.2.settled) = entry := by
    intro entry listed
    rw [settled, Catalog.entries_settled] at listed
    exact List.mem_map.1 listed
  refine ⟨bounded.env, bounded.pools, fun entry listed => ?_, fun entry listed => ?_,
    fun entry listed name isVariable => ?_⟩
  all_goals obtain ⟨original, inside, rfl⟩ := settledEntries entry listed
  · rw [Signature.arguments_settled]
    exact bounded.catalog.arguments original inside
  · dsimp only [Signature.settled]
    split
    · rfl
    · exact bounded.catalog.results original inside
  · by_contra other
    have grows := Signature.asksForGoal_of_settled isVariable
    rw [bounded.fixed original inside other] at grows
    cases grows

theorem canCall_settled (goal : Ty) (within : Ty → Except Fault Bool)
    (entry : String × String × Signature) :
    canCall goal within (entry.1, entry.2.1, entry.2.2.settled) = canCall goal within entry := by
  obtain ⟨className, method, signature⟩ := entry
  unfold Signature.settled
  split
  next unusable => simp [canCall, Signature.typesFor?, unusable]
  next => rfl

theorem anyCall_settled (goal : Ty) (within : Ty → Except Fault Bool) :
    query.settled.anyCall goal within = query.anyCall goal within := by
  have entries : query.settled.callableEntries =
      query.callableEntries.map fun entry => (entry.1, entry.2.1, entry.2.2.settled) := by
    rw [callableEntries, settled, Catalog.entries_settled, List.filter_map]
    rfl
  rw [anyCall, anyCall, entries, Attempt.anyM_map]
  simp only [canCall_settled]

theorem inhabitationDepth_settled (goal : Ty) :
    query.settled.inhabitationDepth goal = query.inhabitationDepth goal := by
  simp only [inhabitationDepth, settled, Catalog.entries_settled, List.map_map,
    Function.comp_def, Signature.arguments_settled]

/-- Limits under which there are literal arrays if the longest one has some items. -/
def limitsFor (longest : Int) : Limits :=
  { maxArrayArity := .int (if 1 ≤ longest then 1 else 0) }

theorem areCounts_limitsFor (longest : Int) : (limitsFor longest).AreCounts := by
  refine { Limits.areCounts_default with maxArrayArity := ?_ }
  unfold limitsFor
  split
  · exact ⟨1, rfl, by decide⟩
  · exact ⟨0, rfl, by decide⟩

theorem hasArray_limitsFor {longest : Int}
    (isInteger : limits.maxArrayArity.integer? = some longest) (goal : Ty) :
    query.settled.hasArray (limitsFor longest) goal = query.hasArray limits goal := by
  have counted := Limits.count_eq_ok isInteger
  have clamped : Limits.count (limitsFor longest).maxArrayArity =
      .ok (if 1 ≤ longest then 1 else 0) := rfl
  have positive : (1 ≤ (if 1 ≤ longest then 1 else 0 : Int)) ↔ 1 ≤ longest := by
    split <;> simp [*]
  have items : query.settled.arrayItems? goal = query.arrayItems? goal := rfl
  rw [hasArray, hasArray, items, counted, clamped]
  split
  · rfl
  · rfl
  · simp only [bind, Except.bind, positive]

/-- Whether a goal is inhabited is decided with the depth that is allowed for it if the recursion
is bounded, and a greater depth changes nothing. -/
theorem IsBounded.exists_inhabited (bounded : query.IsBounded limits) {visiting : List Ty}
    {goal : Ty} (goalHashable : goal.isHashable = true)
    (visited : ∀ seen ∈ visiting, seen.isHashable = true) :
    ∃ inhabited, ∀ depth, query.inhabitationDepth goal ≤ depth →
      query.inhabitedWithin limits depth visiting goal = .ok inhabited := by
  obtain ⟨longest, isInteger⟩ := Option.isSome_iff_exists.1 bounded.isInteger
  have same (depth : Nat) : query.settled.inhabitedWithin (limitsFor longest) depth visiting goal =
      query.inhabitedWithin limits depth visiting goal :=
    inhabitedWithin_congr (show query.settled.env = query.env from rfl) rfl
      (hasArray_limitsFor isInteger) anyCall_settled depth visiting goal
  obtain ⟨inhabited, decided⟩ := succeeds_isInhabited bounded.isComparable_settled
    (areCounts_limitsFor longest) goalHashable visited
  refine ⟨inhabited, fun depth deep => ?_⟩
  rw [← same]
  rw [← inhabitationDepth_settled] at deep
  exact refines_inhabitedWithin deep visiting goal inhabited decided

end Query

namespace Rule

variable {query : Query} {limits : Limits} {goal : Ty}

/-- The calls are proposed without fault if that can be decided for every one of them. -/
theorem fault_callsAmong {entries : List (String × String × Signature)}
    (each : ∀ entry ∈ entries, Succeeds (callFor? goal query limits entry.1 entry.2.1 entry.2.2)) :
    (callsAmong goal query limits entries).fault = none := by
  induction entries with
  | nil => rfl
  | cons entry entries ih =>
      obtain ⟨⟨call, found⟩, rest⟩ := List.forall_mem_cons.1 each
      rw [callsAmong, found]
      exact ih rest

/-- It can be decided whether a listed method is proposed if the recursion is bounded. -/
theorem succeeds_callFor?_of_isBounded (bounded : query.IsBounded limits)
    (goalHashable : goal.isHashable = true) {entry : String × String × Signature}
    (listed : entry ∈ query.catalog.entries) :
    Succeeds (callFor? goal query limits entry.1 entry.2.1 entry.2.2) := by
  have receivers (receiver result : Ty)
      (found : entry.2.2.typesFor? entry.1 goal = some (receiver, result)) :
      receiver.isHashable = true := by
    unfold Signature.typesFor? at found
    split at found
    · cases found
    · split at found
      · cases found
        exact goalHashable
      · cases found
        rfl
  unfold callFor?
  split
  · exact Attempt.succeeds_pure none
  next receiver result found =>
    refine Attempt.succeeds_bind
      (Query.succeeds_yields (bounded.catalog.results entry listed) goalHashable) fun fits _ => ?_
    have holes : ∀ t ∈ receiver :: entry.2.2.arguments, t.isHashable = true :=
      List.forall_mem_cons.2
        ⟨receivers receiver result found, bounded.catalog.arguments entry listed⟩
    have decided : Succeeds ((receiver :: entry.2.2.arguments).allM fun t =>
        query.isInhabited limits [goal] t) := by
      refine Attempt.succeeds_allM fun t inside => ?_
      obtain ⟨inhabited, decided⟩ := bounded.exists_inhabited (holes t inside)
        (List.forall_mem_singleton.2 goalHashable)
      exact ⟨inhabited, decided _ le_rfl⟩
    cases fits with
    | false => exact Attempt.succeeds_pure none
    | true =>
        refine Attempt.succeeds_bind decided fun inhabited _ => ?_
        cases inhabited <;> cases entry.2.2.isProperty <;> exact Attempt.succeeds_pure _

theorem fault_proposeCatalogCalls (bounded : query.IsBounded limits)
    (goalHashable : goal.isHashable = true) :
    (proposeCatalogCalls goal query limits).fault = none :=
  fault_callsAmong fun _ callable =>
    succeeds_callFor?_of_isBounded bounded goalHashable (List.mem_filter.1 callable).1

/-- It cannot be told whether a method is called when that cannot be told of its receiver. -/
theorem callFor?_of_receiver {className method : String} {signature : Signature}
    {receiver result : Ty} {fault : Fault}
    (types : signature.typesFor? className goal = some (receiver, result))
    (yields : signature.yields goal = .ok true)
    (failed : query.isInhabited limits [goal] receiver = .error fault) :
    callFor? goal query limits className method signature = .error fault := by
  unfold callFor?
  rw [types, yields]
  simp only [List.allM, failed]
  rfl

end Rule

/-! ### Goals that grow -/

/-- Types that contain each other, with more and more parameters. -/
def Ty.nested (className : String) : Nat → Ty
  | 0 => .generic className (.nominal "A")
  | n + 1 => .generic className (nested className n)

namespace Ty

theorem isHashable_nested (className : String) (n : Nat) :
    (nested className n).isHashable = true := by
  induction n with
  | zero => rfl
  | succ n ih => exact ih

theorem nested_ne_nominal (className : String) (n : Nat) (name : String) :
    (nested className n == nominal name) = false := by
  cases n <;> rfl

/-- A nested type is another one than those it contains. -/
theorem nested_ne_of_lt {className : String} {m n : Nat} (smaller : m < n) :
    (nested className n == nested className m) = false := by
  induction n generalizing m with
  | zero => exact absurd smaller (Nat.not_lt_zero m)
  | succ n ih =>
      have parameters (t u : Ty) :
          (generic className t == generic className u) = (t == u) := by
        change equal _ _ = equal _ _
        simp [equal]
      cases m with
      | zero =>
          rw [nested, nested, parameters]
          exact nested_ne_nominal className n "A"
      | succ m =>
          rw [nested, nested, parameters]
          exact ih (Nat.lt_of_succ_lt_succ smaller)

/-- No literal array is of a nested type. -/
theorem arrayItems?_nested (query : Query) (className : String) (n : Nat) :
    query.arrayItems? (nested className n) = none := by
  have apart (name : String) (known : name ∈ ["int", "str", "bool"]) :
      (nominal "A").le (nominal name) = false ∧
        ∀ t, (generic "list" t).le (nominal name) = false := by
    simp only [List.mem_cons, List.not_mem_nil, or_false] at known
    rcases known with rfl | rfl | rfl <;> exact ⟨rfl, fun _ => rfl⟩
  have integer := apart "int" (by simp)
  have string := apart "str" (by simp)
  have boolean := apart "bool" (by simp)
  by_cases isList : className = "list"
  · subst isList
    cases n with
    | zero => simp [nested, Query.arrayItems?, Ty.integer, Ty.string, Ty.boolean, *]
    | succ n =>
        cases n <;> simp [nested, Query.arrayItems?, Ty.integer, Ty.string, Ty.boolean, *]
  · cases n <;> simp [nested, Query.arrayItems?, isList]

end Ty

namespace Query

variable {catalog : Catalog} {limits : Limits}

/-- A method that asks for a receiver with the goal as its parameter cannot be told to be
callable without that receiver. -/
theorem canCall_of_asksForGoal {goal : Ty} {within : Ty → Except Fault Bool} {fault : Fault}
    {entry : String × String × Signature} (grows : entry.2.2.asksForGoal = true)
    (failed : within (.generic entry.1 goal) = .error fault) :
    canCall goal within entry = .error fault := by
  obtain ⟨className, method, signature⟩ := entry
  change signature.asksForGoal = true at grows
  unfold Signature.asksForGoal at grows
  split at grows
  next name isVariable =>
    have usable : signature.arguments.any Ty.isBottom = false := by simpa using grows
    have types : signature.typesFor? className goal = some (.generic className goal, goal) := by
      simp [Signature.typesFor?, usable, isVariable]
    have yields : signature.yields goal = .ok true := by
      rw [Signature.yields, isVariable]
      rfl
    rw [canCall, types, yields]
    change (List.allM within (_ :: _)) = _
    rw [List.allM, failed]
    rfl
  next => cases grows

/-- A method with a receiver of its class cannot be called if there is none. -/
theorem canCall_of_receiver {goal : Ty} {within : Ty → Except Fault Bool} {fault : Fault}
    {entry : String × String × Signature} (goalHashable : goal.isHashable = true)
    (resultHashable : entry.2.2.result.isHashable = true)
    (fixed : entry.2.2.asksForGoal = false)
    (missing : within (.nominal entry.1) = .ok false ∨
      within (.nominal entry.1) = .error fault) :
    canCall goal within entry = .ok false ∨ canCall goal within entry = .error fault := by
  obtain ⟨className, method, signature⟩ := entry
  cases usable : signature.arguments.any Ty.isBottom with
  | true =>
      left
      simp [canCall, Signature.typesFor?, usable]
      rfl
  | false =>
      have constant : ∀ name, signature.result ≠ .var name := by
        intro name isVariable
        simp [Signature.asksForGoal, isVariable, usable] at fixed
      rw [canCall, typesFor?_eq className goal constant, usable, yields_eq goal constant,
        Ty.checkedLe_of_isHashable resultHashable goalHashable]
      cases signature.result.le goal with
      | false => exact Or.inl rfl
      | true =>
          change (List.allM within (_ :: _)) = _ ∨ (List.allM within (_ :: _)) = _
          rw [List.allM]
          refine missing.imp (fun missing => ?_) fun missing => ?_
          all_goals
            rw [missing]
            rfl

/-- A query with nothing but a catalog to close holes with. -/
def ofCatalog (catalog : Catalog) : Query :=
  { env := [], goal := .top, catalog }

/-- Without variables and literals a goal that is a class or takes a parameter is given up when
it is met again, and decided by calls otherwise. -/
theorem inhabitedWithin_ofCatalog {goal : Ty} {visiting : List Ty}
    (goalHashable : goal.isHashable = true) (visited : ∀ seen ∈ visiting, seen.isHashable = true)
    (shape : (∃ name, goal = .nominal name) ∨ ∃ base param, goal = .generic base param)
    (noArray : (ofCatalog catalog).arrayItems? goal = none) (depth : Nat) :
    (ofCatalog catalog).inhabitedWithin limits (depth + 1) visiting goal =
      if visiting.any fun seen => goal == seen then .ok false
      else (ofCatalog catalog).anyCall goal fun t =>
        (ofCatalog catalog).inhabitedWithin limits depth (visiting ++ [goal]) t := by
  have array : (ofCatalog catalog).hasArray limits goal = .ok false := by
    rw [hasArray, noArray]
    rfl
  have met := anyM_visiting goalHashable visited
  rw [inhabitedWithin_eq_inhabitedBy]
  rcases shape with ⟨name, rfl⟩ | ⟨base, param, rfl⟩
  all_goals
    rw [inhabitedBy, array, met]
    · cases visiting.any fun seen => _ == seen <;> rfl
    all_goals simp

theorem inhabitedWithin_nominal {name : String} {visiting : List Ty}
    (met : .nominal name ∈ visiting) (visited : ∀ seen ∈ visiting, seen.isHashable = true)
    (depth : Nat) :
    (ofCatalog catalog).inhabitedWithin limits depth visiting (.nominal name) = .ok false ∨
      (ofCatalog catalog).inhabitedWithin limits depth visiting (.nominal name) =
        .error tooDeep := by
  cases depth with
  | zero => exact Or.inr rfl
  | succ depth =>
      left
      have same : (visiting.any fun seen => Ty.nominal name == seen) = true :=
        List.any_eq_true.2 ⟨_, met, Ty.equal_refl rfl⟩
      rw [inhabitedWithin_ofCatalog rfl visited (Or.inl ⟨name, rfl⟩) rfl depth, if_pos same]

/-- With a method that asks for a receiver with the goal as its parameter no depth is enough to
decide a nested goal, when the methods before it have receivers that have been met. -/
theorem inhabitedWithin_nested (hashable : catalog.IsHashable)
    {before after : List (String × String × Signature)} {entry : String × String × Signature}
    (entries : (ofCatalog catalog).callableEntries = before ++ entry :: after)
    (grows : entry.2.2.asksForGoal = true)
    (others : ∀ other ∈ before, other.2.2.asksForGoal = false) (depth : Nat) {n : Nat}
    {visiting : List Ty} (receivers : ∀ other ∈ before, .nominal other.1 ∈ visiting)
    (visited : ∀ seen ∈ visiting,
      (∃ name, seen = .nominal name) ∨ ∃ m < n, seen = .nested entry.1 m) :
    (ofCatalog catalog).inhabitedWithin limits depth visiting (.nested entry.1 n) =
      .error tooDeep := by
  -- the goal grows as the depth gets smaller, and is another one than all before it
  induction depth generalizing n visiting with
  | zero => rfl
  | succ depth ih =>
      have nestedHashable := Ty.isHashable_nested entry.1 n
      have visitedHashable : ∀ seen ∈ visiting, seen.isHashable = true := by
        intro seen member
        rcases visited seen member with ⟨name, rfl⟩ | ⟨m, _, rfl⟩
        · rfl
        · exact Ty.isHashable_nested entry.1 m
      have new : (visiting.any fun seen => Ty.nested entry.1 n == seen) = false := by
        refine List.any_eq_false.2 fun seen member => Bool.eq_false_iff.1 ?_
        rcases visited seen member with ⟨name, rfl⟩ | ⟨m, smaller, rfl⟩
        · exact Ty.nested_ne_nominal entry.1 n name
        · exact Ty.nested_ne_of_lt smaller
      have shape : ∃ base param, Ty.nested entry.1 n = .generic base param := by
        cases n <;> exact ⟨_, _, rfl⟩
      have inner : ∀ seen ∈ visiting ++ [.nested entry.1 n],
          (∃ name, seen = .nominal name) ∨ ∃ m < n + 1, seen = .nested entry.1 m := by
        refine List.forall_mem_append.2 ⟨fun seen member => ?_, List.forall_mem_singleton.2 ?_⟩
        · exact (visited seen member).imp_right fun ⟨m, smaller, same⟩ =>
            ⟨m, Nat.lt_succ_of_lt smaller, same⟩
        · exact Or.inr ⟨n, Nat.lt_succ_self n, rfl⟩
      have innerHashable : ∀ seen ∈ visiting ++ [.nested entry.1 n], seen.isHashable = true :=
        List.forall_mem_append.2 ⟨visitedHashable, List.forall_mem_singleton.2 nestedHashable⟩
      rw [inhabitedWithin_ofCatalog nestedHashable visitedHashable (Or.inr shape)
        (Ty.arrayItems?_nested _ _ n), new, if_neg Bool.false_ne_true, anyCall, entries]
      -- the methods before it have no receiver, and its own receiver is the next goal
      refine Attempt.anyM_eq_error (fun other earlier => ?_) ?_
      · have listed : other ∈ catalog.entries := by
          have callable : other ∈ (ofCatalog catalog).callableEntries :=
            entries ▸ List.mem_append_left _ earlier
          exact (List.mem_filter.1 callable).1
        exact canCall_of_receiver nestedHashable (hashable.results other listed)
          (others other earlier) (inhabitedWithin_nominal
            (List.mem_append_left _ (receivers other earlier)) innerHashable depth)
      · have larger : Ty.generic entry.1 (.nested entry.1 n) = .nested entry.1 (n + 1) := rfl
        refine canCall_of_asksForGoal grows ?_
        rw [larger]
        exact ih (fun other earlier => List.mem_append_left _ (receivers other earlier)) inner

end Query

namespace Catalog

variable {catalog : Catalog}

/-- Whether inhabitation is decided with the depth that is allowed for it, a greater depth
changes nothing and the calls for a goal are proposed without fault: for all queries with a
catalog and all goals whose types are hashable, and all integers as the length of arrays. -/
def BoundsInhabitation (catalog : Catalog) : Prop :=
  ∀ (query : Query) (limits : Limits) (goal : Ty), query.catalog = catalog →
    query.IsHashable → limits.maxArrayArity.integer?.isSome = true → goal.isHashable = true →
      (∀ visiting : List Ty, (∀ seen ∈ visiting, seen.isHashable = true) →
        ∃ inhabited, ∀ depth, query.inhabitationDepth goal ≤ depth →
          query.inhabitedWithin limits depth visiting goal = .ok inhabited) ∧
      (Rule.proposeCatalogCalls goal query limits).fault = none

/-- When a method takes its result from the goal, there is a goal that is not decided with any
depth. -/
theorem exists_undecided (hashable : catalog.IsHashable) (grows : ¬ catalog.HasFixedResults) :
    ∃ visiting goal, (∀ seen ∈ visiting, seen.isHashable = true) ∧ goal.isHashable = true ∧
      ∀ depth, (Query.ofCatalog catalog).inhabitedWithin {} depth visiting goal =
        .error Query.tooDeep := by
  have found : ((Query.ofCatalog catalog).callableEntries.find?
      fun entry => entry.2.2.asksForGoal).isSome = true := by
    unfold HasFixedResults at grows
    push Not at grows
    obtain ⟨entry, listed, other, asks⟩ := grows
    rw [List.find?_isSome]
    refine ⟨entry, List.mem_filter.2 ⟨listed, ?_⟩, by simpa using asks⟩
    simpa [Query.isSkipped] using other
  obtain ⟨entry, found⟩ := Option.isSome_iff_exists.1 found
  obtain ⟨asks, before, after, entries, others⟩ := List.find?_eq_some_iff_append.1 found
  -- the receivers of the methods before it are given up when they are under consideration
  refine ⟨before.map fun other => .nominal other.1, .nested entry.1 0,
    List.forall_mem_map.2 fun _ _ => rfl, Ty.isHashable_nested entry.1 0, fun depth => ?_⟩
  refine Query.inhabitedWithin_nested hashable entries asks (by simpa using others) depth
    (fun other earlier => List.mem_map.2 ⟨other, earlier, rfl⟩) ?_
  exact List.forall_mem_map.2 fun other _ => Or.inl ⟨other.1, rfl⟩

/-- Inhabitation has a bounded depth exactly with the catalogs in which no method that can be
called takes its result from the goal. -/
theorem boundsInhabitation_iff (hashable : catalog.IsHashable) :
    catalog.BoundsInhabitation ↔ catalog.HasFixedResults := by
  constructor
  · intro bounds
    by_contra grows
    obtain ⟨visiting, goal, visited, goalHashable, undecided⟩ := exists_undecided hashable grows
    have bare : (Query.ofCatalog catalog).IsHashable :=
      ⟨List.forall_mem_nil _, List.forall_mem_nil _⟩
    obtain ⟨decided, _⟩ := bounds (Query.ofCatalog catalog) {} goal rfl bare rfl goalHashable
    obtain ⟨inhabited, decided⟩ := decided visiting visited
    have both := (undecided _).symm.trans (decided _ le_rfl)
    cases both
  · rintro fixed query limits goal rfl queryHashable isInteger goalHashable
    have bounded : query.IsBounded limits := ⟨queryHashable, hashable, fixed, isInteger⟩
    exact ⟨fun visiting => bounded.exists_inhabited goalHashable,
      Rule.fault_proposeCatalogCalls bounded goalHashable⟩

/-- With the standard catalog, in which only items have a variable result. -/
theorem boundsInhabitation_iff_standard : standard.IsHashable ∧ standard.BoundsInhabitation :=
  ⟨isHashable_standard, (boundsInhabitation_iff isHashable_standard).2 hasFixedResults_standard⟩

/-- The last item of a list is an item of a list of any items: whether there is a list is asked
of ever larger lists, and no depth is enough to tell. -/
theorem undecided_pop :
    let pop : Catalog := ⟨[⟨"list", "pop", [{ arguments := [], result := .var "T" }]⟩]⟩
    let goal : Ty := .generic "list" (.nominal "A")
    (∀ depth, (Query.ofCatalog pop).inhabitedWithin {} depth [] goal =
        .error Query.tooDeep) ∧
      (Rule.proposeCatalogCalls goal (Query.ofCatalog pop) {}).fault = some Query.tooDeep := by
  intro pop goal
  have hashable : pop.IsHashable := by
    constructor <;> simp [pop, entries, Ty.isHashable]
  have entries : (Query.ofCatalog pop).callableEntries =
      [] ++ ("list", "pop", { arguments := [], result := .var "T" }) :: [] := by
    simp [pop, Query.ofCatalog, Query.callableEntries, Catalog.entries, Query.isSkipped]
  have undecided (depth n : Nat) (visiting : List Ty)
      (visited : ∀ seen ∈ visiting, ∃ m < n, seen = .nested "list" m) :
      (Query.ofCatalog pop).inhabitedWithin {} depth visiting (.nested "list" n) =
        .error Query.tooDeep :=
    Query.inhabitedWithin_nested hashable entries rfl (List.forall_mem_nil _) depth
      (List.forall_mem_nil _) fun seen member => Or.inr (visited seen member)
  refine ⟨fun depth => undecided depth 0 [] (List.forall_mem_nil _), ?_⟩
  have receiver : (Query.ofCatalog pop).isInhabited {} [goal] (.generic "list" goal) =
      .error Query.tooDeep :=
    undecided _ 1 [goal] (List.forall_mem_singleton.2 ⟨0, Nat.zero_lt_one, rfl⟩)
  have failed : Rule.callFor? goal (Query.ofCatalog pop) {} "list" "pop"
      { arguments := [], result := .var "T" } = .error Query.tooDeep :=
    Rule.callFor?_of_receiver rfl rfl receiver
  rw [Rule.proposeCatalogCalls, entries, List.nil_append, Rule.callsAmong, failed]
  rfl

end Catalog

end FunctionSynthesis
