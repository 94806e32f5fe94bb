import FunctionSynthesis.Proofs.Grammar.Rule
import FunctionSynthesis.Proofs.Ty.Congruence

/-!
# Closable goals

A goal is closable when a rule closes a hole of its type at once, or when a listed method
gives it whose own holes are closable. For goals that are neither unions nor records, with
methods that ask for no others, inhabitation is closability (`isInhabited_iff_closable`).

A goal that is inhabited is closable, for what is given up only makes fewer goals inhabited.
The converse is about the goals under consideration. Let the rank of a goal be how deep calls
are nested to close it. If no goal under consideration is closable with calls nested at most
`n` deep, then a goal that is not inhabited is not either (`not_closableIn_of_inhabitedWithin`):
for a goal of the least possible rank the goal itself can be added to those under consideration
before its holes are looked at, which have smaller ranks.
-/

namespace FunctionSynthesis

open Attempt (Succeeds)

/-! ### Goals that are neither unions nor records -/

namespace Ty

/-- Whether a type is not one of integers or texts with a parameter. -/
def HasPlainBase : Ty → Prop
  | .generic base _ => base ≠ "int" ∧ base ≠ "str"
  | _ => True

/-- Whether a type is neither a union nor a record and no integers or texts in it have a
parameter. -/
structure IsPlainGoal (t : Ty) : Prop where
  undivided : t.isUndivided = true
  bases : t.Everywhere HasPlainBase

/-- Whether a plain goal can be compared and told from every other one. -/
structure IsProperGoal (t : Ty) : Prop extends t.IsPlainGoal, t.IsProper

variable {t : Ty}

theorem isProperGoal_nominal (name : String) : (nominal name).IsProperGoal :=
  ⟨⟨rfl, (everywhere_of_leaf rfl).2 trivial⟩, isProper_nominal name⟩

theorem IsPlainGoal.alone (isGoal : t.IsPlainGoal) : t.isUnion = false := by
  have undivided := isGoal.undivided
  cases t <;> first | rfl | cases undivided

/-- What is below the integers or the texts is a literal or all of them. -/
theorem IsPlainGoal.cases_of_le (isGoal : t.IsPlainGoal) {name : String}
    (known : name = "int" ∨ name = "str")
    (below : (!t.isBottom && t.le (.nominal name)) = true) :
    (∃ v, t = .literal v) ∨ (∃ s, t = .text s) ∨ t = .nominal name := by
  have undivided := isGoal.undivided
  have bases := isGoal.bases.here
  have notObject : name ≠ "object" := by rcases known with rfl | rfl <;> decide
  cases t with
  | literal v => exact Or.inl ⟨v, rfl⟩
  | text s => exact Or.inr (Or.inl ⟨s, rfl⟩)
  | nominal name' =>
      obtain rfl : name' = name := by
        simpa [isBottom, le, leWith, anyAlternative, alternatives, isPlainlyAbove_iff, equal,
          notObject] using below
      exact Or.inr (Or.inr rfl)
  | generic base param =>
      obtain rfl : base = name := by
        simpa [isBottom, le, leWith, anyAlternative, alternatives, isPlainlyAbove_iff, equal,
          notObject] using below
      exact (known.elim bases.1 bases.2).elim
  | union ts => cases undivided
  | record fields => cases undivided
  | _ =>
      simp [isBottom, isTop, le, leWith, anyAlternative, alternatives, isPlainlyAbove_iff, equal,
        notObject] at below

end Ty

/-- The methods of the standard catalog ask for classes and lists of texts. -/
theorem Catalog.isProperGoal_of_mem_arguments {entry : String × String × Signature}
    (listed : entry ∈ standard.entries) : ∀ t ∈ entry.2.2.arguments, t.IsProperGoal := by
  have text : Ty.string.IsProperGoal := Ty.isProperGoal_nominal "str"
  have integer : Ty.integer.IsProperGoal := Ty.isProperGoal_nominal "int"
  have texts : (Ty.generic "list" .string).IsProperGoal :=
    ⟨⟨rfl, (Ty.everywhere_generic _ _).2 ⟨by simp [Ty.HasPlainBase], text.bases⟩⟩,
      rfl, (Ty.everywhere_generic _ _).2 ⟨trivial, text.names⟩⟩
  have all : ∀ entry ∈ standard.entries, ∀ t ∈ entry.2.2.arguments, t.IsProperGoal := by
    rw [entries_standard]
    simp [text, integer, texts]
  exact all entry listed

namespace Query

/-- Whether the methods of a query ask for plain goals only, only methods that take items have
a variable result, and the pools hold texts and integers. -/
structure HasPlainGoals (query : Query) : Prop where
  arguments : ∀ entry ∈ query.catalog.entries, ∀ t ∈ entry.2.2.arguments, t.IsPlainGoal
  items : ∀ entry ∈ query.catalog.entries, ∀ name,
    entry.2.2.result = .var name → entry.2.1 = "__getitem__"
  strings : ∀ value ∈ query.pools.strings, ∃ s, value = .str s
  integers : ∀ value ∈ query.pools.integers, ∃ n, value = .int n

/-- Whether all types of a query with plain goals are hashable and the records in the goals
give each name once. -/
structure HasProperGoals (query : Query) : Prop extends query.HasPlainGoals where
  env : ∀ binding ∈ query.env, binding.2.isHashable = true
  proper : ∀ entry ∈ query.catalog.entries, ∀ t ∈ entry.2.2.arguments, t.IsProper
  results : ∀ entry ∈ query.catalog.entries, entry.2.2.result.isHashable = true

theorem HasProperGoals.isComparable {query : Query} (goals : query.HasProperGoals) :
    query.IsComparable where
  env := goals.env
  pools value member := by
    rcases List.mem_append.1 member with text | number
    · obtain ⟨s, rfl⟩ := goals.strings value text
      rfl
    · obtain ⟨n, rfl⟩ := goals.integers value number
      rfl
  arguments entry listed t member := (goals.proper entry listed t member).hashable
  results := goals.results
  items := goals.items

/-- The goals of a query with the standard catalog are proper if its variables have hashable
types and its pools hold texts and integers. -/
theorem hasProperGoals_of_standard {query : Query} (standard : query.catalog = .standard)
    (env : ∀ binding ∈ query.env, binding.2.isHashable = true)
    (strings : ∀ value ∈ query.pools.strings, ∃ s, value = .str s)
    (integers : ∀ value ∈ query.pools.integers, ∃ n, value = .int n) :
    query.HasProperGoals := by
  have goals : ∀ entry ∈ query.catalog.entries, ∀ t ∈ entry.2.2.arguments, t.IsProperGoal :=
    fun entry listed => Catalog.isProperGoal_of_mem_arguments (standard ▸ listed)
  exact
    { arguments := fun entry listed t member => (goals entry listed t member).toIsPlainGoal
      items := standard ▸ Catalog.item_of_standard
      strings
      integers
      env
      proper := fun entry listed t member => (goals entry listed t member).toIsProper
      results := fun entry listed => Ty.isHashable_of_isOrdinary
        (Catalog.isOrdinary_standard entry (standard ▸ listed)).2 }

/-! ### Closability -/

/-- Whether a listed method, other than for items, gives a goal when its receiver and its
arguments are of some types. -/
def HasCall (query : Query) (goal : Ty) (holes : List Ty) : Prop :=
  ∃ className method signature receiver result,
    (className, method, signature) ∈ query.catalog.entries ∧ method ≠ "__getitem__" ∧
      signature.typesFor? className goal = some (receiver, result) ∧
      result.checkedLe goal = .ok true ∧ holes = receiver :: signature.arguments

/-- Whether a hole of a goal type can be closed: a rule other than the calls of methods
proposes a closed term for it, or a method gives it whose holes can be closed. -/
inductive Closable (query : Query) (limits : Limits) : Ty → Prop
  | proposed {goal : Ty} {rule : Rule} {t : Term} :
      rule ∈ Rule.standard → rule ≠ .catalogCalls →
      t ∈ (rule.propose goal query limits).terms → t.isClosed = true →
      Closable query limits goal
  | called {goal : Ty} {holes : List Ty} :
      query.HasCall goal holes → (∀ t ∈ holes, Closable query limits t) →
      Closable query limits goal

/-- Whether a hole of a goal type can be closed with calls that are nested at most so deep. -/
def ClosableIn (query : Query) (limits : Limits) : Nat → Ty → Prop
  | 0, goal => query.isTerminal limits goal = true
  | n + 1, goal =>
      query.isTerminal limits goal = true ∨
        ∃ holes, query.HasCall goal holes ∧ ∀ t ∈ holes, query.ClosableIn limits n t

variable {query : Query} {limits : Limits} {goal : Ty}

theorem ClosableIn.succ {n : Nat} (closable : query.ClosableIn limits n goal) :
    query.ClosableIn limits (n + 1) goal := by
  induction n generalizing goal with
  | zero => exact Or.inl closable
  | succ n ih =>
      refine closable.imp_right fun ⟨holes, call, each⟩ => ?_
      exact ⟨holes, call, fun t member => ih (each t member)⟩

theorem ClosableIn.mono {n m : Nat} (closable : query.ClosableIn limits n goal) (deeper : n ≤ m) :
    query.ClosableIn limits m goal := by
  induction deeper with
  | refl => exact closable
  | step _ ih => exact ih.succ

end Query

/-! ### Terminals and what the rules propose -/

namespace Query

open Proposals (AreAll)

variable {query : Query} {limits : Limits} {goal : Ty}

theorem isTerminal_of_closesAtOnce (closes : query.closesAtOnce limits goal = true) :
    query.isTerminal limits goal = true := by
  cases goal <;> first | rfl | exact closes

theorem closesAtOnce_iff : query.closesAtOnce limits goal = true ↔
    (∃ binding ∈ query.env, binding.2.le goal = true) ∨
      (∃ value ∈ query.pools.all, (Ty.ofValue value).le goal = true) ∨
      query.hasArray limits goal = .ok true := by
  have array : (query.hasArray limits goal).toOption.getD false = true ↔
      query.hasArray limits goal = .ok true := by
    cases query.hasArray limits goal <;> simp [Except.toOption]
  rw [closesAtOnce, Bool.or_eq_true, Bool.or_eq_true, List.any_eq_true, List.any_eq_true, array,
    or_assoc]

/-- Where a literal array is proposed, there is one. -/
theorem hasArray_of_mem_arrays {t : Term}
    (member : t ∈ (Rule.proposeArrays goal query limits).terms) :
    query.hasArray limits goal = .ok true := by
  unfold Rule.proposeArrays at member
  unfold hasArray
  generalize query.arrayItems? goal = source at member ⊢
  match source with
  | none => exact absurd member List.not_mem_nil
  | some .truthValues => rfl
  | some (.fromPool pool) =>
      obtain ⟨longest, counted, member⟩ := Proposals.mem_needing.1 member
      obtain ⟨arity, chosen, _⟩ := List.mem_flatMap.1 member
      obtain ⟨position, inRange, rfl⟩ := List.mem_map.1 chosen
      have small := List.mem_range.1 inRange
      have positive : 1 ≤ longest := by omega
      have filled : pool ≠ [] := by
        rintro rfl
        simp at small
      simp [counted, bind, Except.bind, pure, Except.pure, positive, filled]

/-- Where there is a literal array, a closed one is proposed. -/
theorem exists_mem_arrays (array : query.hasArray limits goal = .ok true) :
    ∃ t ∈ (Rule.proposeArrays goal query limits).terms, t.isClosed = true := by
  unfold hasArray at array
  unfold Rule.proposeArrays
  generalize query.arrayItems? goal = source at array ⊢
  match source with
  | none => cases array
  | some .truthValues => exact ⟨_, List.mem_cons_self, rfl⟩
  | some (.fromPool pool) =>
      obtain ⟨longest, counted, array⟩ := Attempt.bind_eq_ok_iff.1 array
      have both := Attempt.pure_eq_ok_iff.1 array
      rw [Bool.and_eq_true, decide_eq_true_eq] at both
      cases pool with
      | nil => cases both.2
      | cons value rest =>
          refine ⟨.array [.literal value], Proposals.mem_needing.2 ⟨longest, counted, ?_⟩, rfl⟩
          refine List.mem_flatMap.2 ⟨1, List.mem_map.2 ⟨0, ?_, rfl⟩, ?_⟩
          · rw [List.mem_range, List.length_cons]
            omega
          · exact List.mem_map.2 ⟨[value], by simp [arrangements, eachWithRest], rfl⟩

/-- A variable of a class closes what is wanted of the class, and so does a literal of it. -/
theorem isTerminal_of_below (isGoal : goal.IsProperGoal) {name : String}
    (known : name = "int" ∨ name = "str")
    (below : (!goal.isBottom && goal.le (.nominal name)) = true)
    (closes : query.closesAtOnce limits (.nominal name) = true) :
    query.isTerminal limits goal = true := by
  rcases isGoal.cases_of_le known below with ⟨v, rfl⟩ | ⟨s, rfl⟩ | rfl
  · rfl
  · rfl
  · exact closes

theorem closesAtOnce_of_mem_namesWhere {name className : String}
    (member : name ∈ query.env.namesWhere fun t => !t.isBottom && t.le (.nominal className)) :
    query.closesAtOnce limits (.nominal className) = true := by
  obtain ⟨binding, kept, rfl⟩ := List.mem_map.1 member
  obtain ⟨bound, tested⟩ := List.mem_filter.1 kept
  rw [Bool.and_eq_true] at tested
  exact closesAtOnce_iff.2 (Or.inl ⟨binding, bound, tested.2⟩)

end Query

namespace Rule

open Proposals (AreAll)

variable {query : Query} {limits : Limits} {goal : Ty}

/-- The rules for texts propose something only if a text is wanted and there is a text
variable to make it from. -/
theorem wantsString_of_mem_propose {rule : Rule}
    (textual : rule ∈ [.joinedTexts, .phoneNumbers, .slices, .caseChanges]) {t : Term}
    (member : t ∈ (rule.propose goal query limits).terms) :
    wantsString goal = true ∧ ∃ name, name ∈ query.stringVariables := by
  have made {make : Term → List Term} (member : t ∈ fromTexts goal query make) :
      wantsString goal = true ∧ ∃ name, name ∈ query.stringVariables :=
    (mem_fromTexts member).imp_right fun ⟨name, here, _⟩ => ⟨name, here⟩
  simp only [List.mem_cons, List.not_mem_nil, or_false] at textual
  rcases textual with rfl | rfl | rfl | rfl
  · have member : t ∈ (proposeJoinedTexts goal query limits).terms := member
    unfold proposeJoinedTexts at member
    split at member
    next => exact absurd member List.not_mem_nil
    next wanted =>
      obtain ⟨constants, _, member⟩ := Proposals.mem_needing.1 member
      obtain ⟨name, here, _⟩ := List.mem_flatMap.1 member
      exact ⟨by simpa using wanted, name, here⟩
  · have member : t ∈ proposePhoneNumbers goal query := member
    exact made member
  · have member : t ∈ proposeSlices goal query := member
    exact made member
  · have member : t ∈ proposeCaseChanges goal query := member
    exact made member

/-- The rules that follow the shape of a union or a record propose nothing else. -/
theorem not_mem_of_isUndivided (undivided : goal.isUndivided = true) {rule : Rule}
    (shaped : rule ∈ [.caseSplit, .records, .queryStrings]) (t : Term) :
    t ∉ (rule.propose goal query limits).terms := by
  obtain ⟨noSplit, noRecord, noTexts⟩ := shapeless_of_isUndivided undivided query
  simp only [List.mem_cons, List.not_mem_nil, or_false] at shaped
  rcases shaped with rfl | rfl | rfl <;>
    simp [propose, Proposals.ofList, noSplit, noRecord, noTexts]

/-- What is proposed for a goal shows that the goal is closed at once. -/
theorem isTerminal_of_mem_propose (goals : query.HasProperGoals) (isGoal : goal.IsProperGoal)
    {rule : Rule} (other : rule ≠ .catalogCalls) {t : Term}
    (member : t ∈ (rule.propose goal query limits).terms) :
    query.isTerminal limits goal = true := by
  have comparable := goals.isComparable
  have ofText (textual : wantsString goal = true ∧ ∃ name, name ∈ query.stringVariables) :
      query.isTerminal limits goal = true := by
    obtain ⟨wanted, name, here⟩ := textual
    exact Query.isTerminal_of_below isGoal (Or.inr rfl) wanted
      (Query.closesAtOnce_of_mem_namesWhere here)
  cases rule with
  | poolLiterals =>
      have all : AreAll limits (fun _ => query.isTerminal limits goal = true)
          (proposePoolLiterals goal query) :=
        areAll_poolLiterals comparable isGoal.hashable fun value inside fits => by
          rw [Value.fits, Ty.checkedLe_of_isHashable (comparable.pools value inside)
            isGoal.hashable, Except.ok.injEq] at fits
          exact Query.isTerminal_of_closesAtOnce
            (Query.closesAtOnce_iff.2 (Or.inr (Or.inl ⟨value, inside, fits⟩)))
      exact all.each t member
  | goalLiteral =>
      cases goal <;> first | rfl | exact absurd member List.not_mem_nil
  | fittingVariables =>
      have all : AreAll limits (fun _ => query.isTerminal limits goal = true)
          (proposeVariables goal query) :=
        areAll_variables comparable isGoal.hashable fun binding inside fits => by
          rw [Ty.checkedLe_of_isHashable (comparable.env binding inside) isGoal.hashable,
            Except.ok.injEq] at fits
          exact Query.isTerminal_of_closesAtOnce
            (Query.closesAtOnce_iff.2 (Or.inl ⟨binding, inside, fits⟩))
      exact all.each t member
  | caseSplit => exact absurd member (not_mem_of_isUndivided isGoal.undivided (by decide) t)
  | arrays =>
      exact Query.isTerminal_of_closesAtOnce
        (Query.closesAtOnce_iff.2 (Or.inr (Or.inr (Query.hasArray_of_mem_arrays member))))
  | records => exact absurd member (not_mem_of_isUndivided isGoal.undivided (by decide) t)
  | arithmetic =>
      cases wanted : wantsInteger goal with
      | false =>
          rw [propose, proposeArithmetic, wanted] at member
          exact absurd member List.not_mem_nil
      | true =>
          have below : goal.isIntegerLike = true := by
            have alone := isGoal.alone
            cases goal <;> first | exact wanted | cases alone
          have closed (closes : query.closesAtOnce limits .integer = true) :=
            Query.isTerminal_of_below isGoal (Or.inl rfl) below closes
          have all : AreAll limits (fun _ => query.isTerminal limits goal = true)
              (proposeArithmetic goal query limits) := by
            refine areAll_arithmetic
              (fun name here => closed (Query.closesAtOnce_of_mem_namesWhere here))
              (fun value inside => closed ?_) (fun _ _ left _ => left) fun _ _ left _ => left
            obtain ⟨n, rfl⟩ := goals.integers value inside
            exact Query.closesAtOnce_iff.2
              (Or.inr (Or.inl ⟨_, List.mem_append_right _ inside, rfl⟩))
          exact all.each t member
  | joinedTexts => exact ofText (wantsString_of_mem_propose (by decide) member)
  | phoneNumbers => exact ofText (wantsString_of_mem_propose (by decide) member)
  | slices => exact ofText (wantsString_of_mem_propose (by decide) member)
  | caseChanges => exact ofText (wantsString_of_mem_propose (by decide) member)
  | queryStrings => exact absurd member (not_mem_of_isUndivided isGoal.undivided (by decide) t)
  | catalogCalls => exact absurd rfl other

/-- What closes a goal at once is proposed by one of the rules. -/
theorem exists_mem_propose (goals : query.HasProperGoals) (goalHashable : goal.isHashable = true)
    (terminal : query.isTerminal limits goal = true) :
    ∃ rule ∈ standard, rule ≠ .catalogCalls ∧
      ∃ t ∈ (rule.propose goal query limits).terms, t.isClosed = true := by
  have comparable := goals.isComparable
  have proposed (closes : query.closesAtOnce limits goal = true) :
      ∃ rule ∈ standard, rule ≠ .catalogCalls ∧
        ∃ t ∈ (rule.propose goal query limits).terms, t.isClosed = true := by
    rcases Query.closesAtOnce_iff.1 closes with
      ⟨binding, bound, below⟩ | ⟨value, inside, below⟩ | array
    · refine ⟨.fittingVariables, by decide, by decide, .var binding.1, ?_, rfl⟩
      refine Proposals.mem_selecting (fun other member =>
        Ty.succeeds_checkedLe (comparable.env other member) goalHashable) bound ?_
      exact (Ty.checkedLe_of_isHashable (comparable.env binding bound) goalHashable).trans
        (congrArg _ below)
    · refine ⟨.poolLiterals, by decide, by decide, .literal value, ?_, rfl⟩
      refine Proposals.mem_selecting (fun other member =>
        Ty.succeeds_checkedLe (comparable.pools other member) goalHashable) inside ?_
      exact (Ty.checkedLe_of_isHashable (comparable.pools value inside) goalHashable).trans
        (congrArg _ below)
    · exact ⟨.arrays, by decide, by decide, Query.exists_mem_arrays array⟩
  cases goal with
  | literal v =>
      exact ⟨.goalLiteral, by decide, by decide, .literal v, List.mem_singleton_self _, rfl⟩
  | text s =>
      exact ⟨.goalLiteral, by decide, by decide, .str s, List.mem_singleton_self _, rfl⟩
  | _ => exact proposed terminal

end Rule

/-! ### Calls for a goal -/

namespace Query

variable {query : Query} {limits : Limits} {goal seen : Ty}

theorem mem_callableEntries {entry : String × String × Signature} :
    entry ∈ query.callableEntries ↔
      entry ∈ query.catalog.entries ∧ entry.2.1 ≠ "__getitem__" := by
  simp [callableEntries, isSkipped]

/-- A method is called for a goal when its result is below the goal and no argument is one
that can never be given. -/
theorem hasCall_iff (comparable : query.IsComparable) (goalHashable : goal.isHashable = true)
    {holes : List Ty} :
    query.HasCall goal holes ↔ ∃ entry ∈ query.callableEntries,
      (entry.2.2.arguments.any Ty.isBottom = false ∧ entry.2.2.result.le goal = true) ∧
        holes = .nominal entry.1 :: entry.2.2.arguments := by
  constructor
  · rintro ⟨className, method, signature, receiver, result, listed, notItem, types, below, rfl⟩
    have callable := mem_callableEntries.2 ⟨listed, notItem⟩
    have fixed := comparable.result_ne_var callable
    rw [typesFor?_eq className goal fixed] at types
    split at types
    next => cases types
    next given =>
      cases types
      rw [Ty.checkedLe_of_isHashable (comparable.results _ listed) goalHashable,
        Except.ok.injEq] at below
      exact ⟨_, callable, ⟨by simpa using given, below⟩, rfl⟩
  · rintro ⟨⟨className, method, signature⟩, callable, ⟨given, below⟩, rfl⟩
    obtain ⟨listed, notItem⟩ := mem_callableEntries.1 callable
    have fixed := comparable.result_ne_var callable
    refine ⟨className, method, signature, .nominal className, signature.result, listed, notItem,
      ?_, ?_, rfl⟩
    · rw [typesFor?_eq className goal fixed, given]
      rfl
    · rw [Ty.checkedLe_of_isHashable (comparable.results _ listed) goalHashable, below]

/-- Holes of calls are goals. -/
theorem HasCall.isProperGoal (goals : query.HasProperGoals) (goalHashable : goal.isHashable = true)
    {holes : List Ty} (call : query.HasCall goal holes) : ∀ t ∈ holes, t.IsProperGoal := by
  obtain ⟨entry, callable, _, rfl⟩ := (hasCall_iff goals.isComparable goalHashable).1 call
  have listed := (mem_callableEntries.1 callable).1
  exact List.forall_mem_cons.2 ⟨Ty.isProperGoal_nominal entry.1, fun t member =>
    ⟨goals.arguments entry listed t member, goals.proper entry listed t member⟩⟩

/-- Equal goals have the same calls. -/
theorem HasCall.of_equal (comparable : query.IsComparable) (goalHashable : goal.isHashable = true)
    (proper : seen.IsProper) (same : Ty.equal goal seen = true) {holes : List Ty}
    (call : query.HasCall goal holes) : query.HasCall seen holes := by
  obtain ⟨entry, callable, ⟨given, below⟩, rfl⟩ := (hasCall_iff comparable goalHashable).1 call
  exact (hasCall_iff comparable proper.hashable).2
    ⟨entry, callable, ⟨given, Ty.le_of_le_of_equal proper below same⟩, rfl⟩

theorem anyBelow_of_isUndivided (undivided : goal.isUndivided = true)
    (within : Ty → Except Fault Bool) :
    query.anyBelow goal within = query.anyCall goal within := by
  cases goal <;> first | rfl | cases undivided

/-- The holes of some call are all inhabited when some call can be made. -/
theorem exists_of_anyCall_eq_ok_true (comparable : query.IsComparable)
    (goalHashable : goal.isHashable = true) {within : Ty → Except Fault Bool}
    (made : query.anyCall goal within = .ok true) :
    ∃ holes, query.HasCall goal holes ∧ ∀ t ∈ holes, within t = .ok true := by
  obtain ⟨entry, callable, made⟩ := Attempt.exists_of_anyM_eq_ok_true made
  rw [canCall_eq comparable goalHashable within callable] at made
  split at made
  next fits =>
    exact ⟨_, (hasCall_iff comparable goalHashable).2 ⟨entry, callable, fits, rfl⟩,
      Attempt.eq_ok_true_of_allM made⟩
  next => cases made

/-- When no call can be made, every call has a hole that is not inhabited. -/
theorem exists_of_anyCall_eq_ok_false (comparable : query.IsComparable)
    (goalHashable : goal.isHashable = true) {within : Ty → Except Fault Bool}
    (none : query.anyCall goal within = .ok false) {holes : List Ty}
    (call : query.HasCall goal holes) : ∃ t ∈ holes, within t = .ok false := by
  obtain ⟨entry, callable, fits, rfl⟩ := (hasCall_iff comparable goalHashable).1 call
  have failed := Attempt.eq_ok_false_of_anyM none entry callable
  rw [canCall_eq comparable goalHashable within callable, if_pos fits] at failed
  exact Attempt.exists_of_allM_eq_ok_false failed

/-! ### Equal goals -/

theorem arrayItems?_eq_of_equal (goalHashable : goal.isHashable = true)
    (hashable : seen.isHashable = true) (same : Ty.equal goal seen = true) :
    query.arrayItems? goal = query.arrayItems? seen := by
  cases goal with
  | generic base element =>
      cases seen with
      | generic base' element' =>
          rw [Ty.equal, Bool.and_eq_true, beq_iff_eq] at same
          obtain ⟨rfl, same⟩ := same
          rw [Ty.isHashable] at goalHashable hashable
          have classes (name : String) : element.le (.nominal name) = element'.le (.nominal name) :=
            Bool.eq_iff_iff.2 ⟨Ty.le_nominal_of_equal hashable same,
              Ty.le_nominal_of_equal goalHashable (Ty.equal_symm hashable same)⟩
          by_cases listed : base = "list"
          · subst listed
            have integers : element.le .integer = element'.le .integer := classes "int"
            have texts : element.le .string = element'.le .string := classes "str"
            have truths : element.le .boolean = element'.le .boolean := classes "bool"
            simp only [arrayItems?, integers, texts, truths]
          · simp [arrayItems?, listed]
      | _ => cases same
  | _ => cases seen <;> first | rfl | cases same

theorem isTerminal_of_equal (goalHashable : goal.isHashable = true) (proper : seen.IsProper)
    (same : Ty.equal goal seen = true) (terminal : query.isTerminal limits goal = true) :
    query.isTerminal limits seen = true := by
  have closes (closes : query.closesAtOnce limits goal = true) :
      query.isTerminal limits seen = true := by
    refine isTerminal_of_closesAtOnce (closesAtOnce_iff.2 ?_)
    rcases closesAtOnce_iff.1 closes with
      ⟨binding, bound, below⟩ | ⟨value, inside, below⟩ | array
    · exact Or.inl ⟨binding, bound, Ty.le_of_le_of_equal proper below same⟩
    · exact Or.inr (Or.inl ⟨value, inside, Ty.le_of_le_of_equal proper below same⟩)
    · refine Or.inr (Or.inr ?_)
      rwa [hasArray, ← arrayItems?_eq_of_equal goalHashable proper.hashable same]
  cases goal with
  | literal v => cases seen <;> first | rfl | cases same
  | text s => cases seen <;> first | rfl | cases same
  | _ => exact closes terminal

/-- Equal goals are closable with calls that are nested equally deep. -/
theorem ClosableIn.of_equal (comparable : query.IsComparable)
    (goalHashable : goal.isHashable = true) (proper : seen.IsProper)
    (same : Ty.equal goal seen = true) {n : Nat} (closable : query.ClosableIn limits n goal) :
    query.ClosableIn limits n seen := by
  cases n with
  | zero => exact isTerminal_of_equal goalHashable proper same closable
  | succ n =>
      rcases closable with terminal | ⟨holes, call, each⟩
      · exact Or.inl (isTerminal_of_equal goalHashable proper same terminal)
      · exact Or.inr ⟨holes, call.of_equal comparable goalHashable proper same, each⟩

/-! ### Inhabitation is closability -/

theorem closable_of_isTerminal (goals : query.HasProperGoals)
    (goalHashable : goal.isHashable = true)
    (terminal : query.isTerminal limits goal = true) : query.Closable limits goal := by
  obtain ⟨rule, listed, other, t, member, closed⟩ :=
    Rule.exists_mem_propose goals goalHashable terminal
  exact .proposed listed other member closed

/-- Closable goals are closable with calls that are nested to some depth. -/
theorem Closable.exists_closableIn (goals : query.HasProperGoals) (isGoal : goal.IsProperGoal)
    (closable : query.Closable limits goal) : ∃ n, query.ClosableIn limits n goal := by
  induction closable with
  | proposed listed other member closed =>
      exact ⟨0, Rule.isTerminal_of_mem_propose goals isGoal other member⟩
  | @called goal holes call each ih =>
      have plain := call.isProperGoal goals isGoal.hashable
      -- the holes are closable with calls that are nested to one depth
      have common (ts : List Ty) (inside : ∀ t ∈ ts, t ∈ holes) :
          ∃ n, ∀ t ∈ ts, query.ClosableIn limits n t := by
        induction ts with
        | nil => exact ⟨0, fun _ member => absurd member List.not_mem_nil⟩
        | cons t ts rest =>
            obtain ⟨here, inside⟩ := List.forall_mem_cons.1 inside
            obtain ⟨n, first⟩ := ih t here (plain t here)
            obtain ⟨m, others⟩ := rest inside
            refine ⟨max n m, List.forall_mem_cons.2 ⟨?_, fun u member => ?_⟩⟩
            · exact first.mono (Nat.le_max_left n m)
            · exact (others u member).mono (Nat.le_max_right n m)
      obtain ⟨n, each⟩ := common holes fun _ => id
      exact ⟨n + 1, Or.inr ⟨holes, call, each⟩⟩

/-- A goal is inhabited because it is closed at once or because the holes of a call for it are
inhabited. -/
theorem inhabitedWithin_eq_ok_true (comparable : query.IsComparable) (counts : limits.AreCounts)
    {depth : Nat} {visiting : List Ty} (isGoal : goal.IsProperGoal)
    (visited : ∀ seen ∈ visiting, seen.isHashable = true)
    (inhabited : query.inhabitedWithin limits (depth + 1) visiting goal = .ok true) :
    query.isTerminal limits goal = true ∨ ∃ holes, query.HasCall goal holes ∧
      ∀ t ∈ holes, query.inhabitedWithin limits depth (visiting ++ [goal]) t = .ok true := by
  rw [inhabitedWithin_succ comparable counts isGoal.alone isGoal.hashable visited,
    anyBelow_of_isUndivided isGoal.undivided] at inhabited
  split at inhabited
  next terminal => exact Or.inl terminal
  next =>
    split at inhabited
    next => cases inhabited
    next => exact Or.inr (exists_of_anyCall_eq_ok_true comparable isGoal.hashable inhabited)

/-- A goal that is not inhabited is not closed at once, and it is under consideration or every
call for it has a hole that is not inhabited. -/
theorem inhabitedWithin_eq_ok_false (comparable : query.IsComparable) (counts : limits.AreCounts)
    {depth : Nat} {visiting : List Ty} (isGoal : goal.IsProperGoal)
    (visited : ∀ seen ∈ visiting, seen.isHashable = true)
    (out : query.inhabitedWithin limits (depth + 1) visiting goal = .ok false) :
    query.isTerminal limits goal = false ∧ ((∃ seen ∈ visiting, Ty.equal goal seen = true) ∨
      ∀ holes, query.HasCall goal holes →
        ∃ t ∈ holes, query.inhabitedWithin limits depth (visiting ++ [goal]) t = .ok false) := by
  rw [inhabitedWithin_succ comparable counts isGoal.alone isGoal.hashable visited,
    anyBelow_of_isUndivided isGoal.undivided] at out
  split at out
  next => cases out
  next notTerminal =>
    refine ⟨by simpa using notTerminal, ?_⟩
    split at out
    next met => exact Or.inl (List.any_eq_true.1 met)
    next =>
      exact Or.inr fun holes => exists_of_anyCall_eq_ok_false comparable isGoal.hashable out

/-- An inhabited goal is closable, whatever goals are under consideration. -/
theorem closable_of_inhabitedWithin (goals : query.HasProperGoals) (counts : limits.AreCounts)
    {depth : Nat} {visiting : List Ty} (isGoal : goal.IsProperGoal)
    (visited : ∀ seen ∈ visiting, seen.isHashable = true)
    (inhabited : query.inhabitedWithin limits depth visiting goal = .ok true) :
    query.Closable limits goal := by
  induction depth generalizing visiting goal with
  | zero => cases inhabited
  | succ depth ih =>
      rcases inhabitedWithin_eq_ok_true goals.isComparable counts isGoal visited inhabited with
        terminal | ⟨holes, call, each⟩
      · exact closable_of_isTerminal goals isGoal.hashable terminal
      · refine .called call fun t member => ?_
        exact ih (call.isProperGoal goals isGoal.hashable t member) (List.forall_mem_append.2
          ⟨visited, List.forall_mem_singleton.2 isGoal.hashable⟩) (each t member)

/-- When no goal under consideration is closable with calls that are nested at most so deep,
a goal that is not inhabited is not either. -/
theorem not_closableIn_of_inhabitedWithin (goals : query.HasProperGoals)
    (counts : limits.AreCounts) {n depth : Nat} {visiting : List Ty} (isGoal : goal.IsProperGoal)
    (visited : ∀ seen ∈ visiting, seen.IsProperGoal ∧ ¬query.ClosableIn limits n seen)
    (out : query.inhabitedWithin limits depth visiting goal = .ok false) :
    ¬query.ClosableIn limits n goal := by
  have comparable := goals.isComparable
  induction n generalizing depth visiting goal with
  | zero =>
      intro terminal
      cases depth with
      | zero => cases out
      | succ depth =>
          have hashable := fun seen member => (visited seen member).1.hashable
          have notTerminal := (inhabitedWithin_eq_ok_false comparable counts isGoal hashable out).1
          exact Bool.noConfusion (notTerminal.symm.trans terminal)
  | succ n ih =>
      intro closable
      have before := fun seen member => And.imp_right (mt ClosableIn.succ) (visited seen member)
      have notEarlier := ih isGoal before out
      cases depth with
      | zero => cases out
      | succ depth =>
          have hashable := fun seen member => (visited seen member).1.hashable
          obtain ⟨notTerminal, met | open'⟩ :=
            inhabitedWithin_eq_ok_false comparable counts isGoal hashable out
          · obtain ⟨seen, member, same⟩ := met
            exact (visited seen member).2
              (closable.of_equal comparable isGoal.hashable (visited seen member).1.toIsProper same)
          · rcases closable with terminal | ⟨holes, call, each⟩
            · exact Bool.noConfusion (notTerminal.symm.trans terminal)
            · obtain ⟨t, inside, out⟩ := open' holes call
              -- the goal is not closable with fewer calls, so it may be under consideration
              refine ih (call.isProperGoal goals isGoal.hashable t inside)
                (List.forall_mem_append.2 ⟨before, ?_⟩) out (each t inside)
              exact List.forall_mem_singleton.2 ⟨isGoal, notEarlier⟩

/-- Inhabitation is decided, and it is closability. -/
theorem isInhabited_iff_closable (goals : query.HasProperGoals) (counts : limits.AreCounts)
    (isGoal : goal.IsProperGoal) :
    ∃ inhabited, query.isInhabited limits [] goal = .ok inhabited ∧
      (inhabited = true ↔ query.Closable limits goal) := by
  obtain ⟨inhabited, decided⟩ := succeeds_isInhabited goals.isComparable counts isGoal.hashable
    (List.forall_mem_nil _)
  refine ⟨inhabited, decided, ?_⟩
  cases inhabited with
  | true =>
      exact iff_of_true rfl
        (closable_of_inhabitedWithin goals counts isGoal (List.forall_mem_nil _) decided)
  | false =>
      refine iff_of_false Bool.false_ne_true fun closable => ?_
      obtain ⟨n, closable⟩ := closable.exists_closableIn goals isGoal
      exact not_closableIn_of_inhabitedWithin goals counts isGoal (List.forall_mem_nil _)
        decided closable

/-- From a text a list of texts can be made, and no list of integers. -/
theorem isInhabited_iff_closable_texts :
    let query : Query := { env := [("s", .string)], goal := .generic "list" .string }
    query.Closable {} (.generic "list" .string) ∧
      ¬query.Closable {} (.generic "list" .integer) := by
  intro query
  have goals : query.HasProperGoals :=
    hasProperGoals_of_standard rfl (List.forall_mem_singleton.2 rfl) (List.forall_mem_nil _)
      (List.forall_mem_nil _)
  have list (name : String) : (Ty.generic "list" (.nominal name)).IsProperGoal :=
    ⟨⟨rfl, by simp [Ty.Everywhere, Ty.parts, Ty.HasPlainBase]⟩,
      rfl, by simp [Ty.Everywhere, Ty.parts, Ty.HasDistinctNames]⟩
  obtain ⟨_, made, texts⟩ := isInhabited_iff_closable goals Limits.areCounts_default (list "str")
  obtain ⟨_, none, integers⟩ :=
    isInhabited_iff_closable goals Limits.areCounts_default (list "int")
  have made' : query.isInhabited {} [] (.generic "list" .string) = .ok true := rfl
  have none' : query.isInhabited {} [] (.generic "list" .integer) = .ok false := rfl
  obtain rfl := Except.ok.inj (made.symm.trans made')
  obtain rfl := Except.ok.inj (none.symm.trans none')
  exact ⟨texts.1 rfl, fun closable => Bool.false_ne_true (integers.2 closable)⟩

/-- Plain goals do not suffice. Where a record gives a name twice, equal goals can differ in
what is below them: the method `m` needs a goal that is given up for being equal to its own,
though `n` gives that one only. Where a union has a literal that is not hashable, the goal
cannot be compared with the type of the variable, though an array closes it. -/
theorem closable_not_isInhabited :
    let twice : Ty := .generic "list" (.record [("k", .integer), ("k", .string)])
    let once : Ty := .generic "list" (.record [("k", .string)])
    let narrow : Ty := .generic "list" (.record [("k", .text "x")])
    let repeating : Query :=
      { env := [("a", .nominal "A"), ("b", .nominal "B")]
        goal := twice
        catalog := .ofEntries
          [("A", "m", ⟨[once], twice, false⟩), ("B", "n", ⟨[], narrow, false⟩)] }
    let unhashable : Query :=
      { env := [("x", .generic "list" (.union [.literal (.list [.int 1])]))]
        goal := .generic "list" (.union [.text "a"])
        pools := ⟨[.str "a"], []⟩ }
    Limits.AreCounts {} ∧
      (repeating.HasPlainGoals ∧ repeating.goal.IsPlainGoal ∧
        repeating.Closable {} repeating.goal ∧
        repeating.isInhabited {} [] repeating.goal = .ok false) ∧
      unhashable.HasPlainGoals ∧ unhashable.goal.IsPlainGoal ∧
        unhashable.Closable {} unhashable.goal ∧
        unhashable.isInhabited {} [] unhashable.goal = .error Ty.incomparable := by
  intro twice once narrow repeating unhashable
  have plain (element : Ty) (bases : element.Everywhere Ty.HasPlainBase) :
      (Ty.generic "list" element).IsPlainGoal :=
    ⟨rfl, (Ty.everywhere_generic _ _).2 ⟨by simp [Ty.HasPlainBase], bases⟩⟩
  have goals : repeating.HasPlainGoals := by
    refine ⟨fun entry listed t member => ?_, fun entry listed name isVariable => ?_,
      List.forall_mem_nil _, List.forall_mem_nil _⟩
    · rcases List.mem_cons.1 listed with rfl | listed
      · obtain rfl := List.mem_singleton.1 member
        exact plain _
          (by simp [Ty.Everywhere, Ty.parts, Ty.partsOfFields, Ty.string, Ty.HasPlainBase])
      · obtain rfl := List.mem_singleton.1 listed
        exact absurd member List.not_mem_nil
    · rcases List.mem_cons.1 listed with rfl | listed
      · cases isVariable
      · obtain rfl := List.mem_singleton.1 listed
        cases isVariable
  have first : repeating.Closable {} (.nominal "A") :=
    @Closable.proposed _ _ _ .fittingVariables (.var "a") (by decide) (by decide)
      List.mem_cons_self rfl
  have second : repeating.Closable {} (.nominal "B") :=
    @Closable.proposed _ _ _ .fittingVariables (.var "b") (by decide) (by decide)
      List.mem_cons_self rfl
  have argument : repeating.Closable {} once :=
    .called ⟨"B", "n", ⟨[], narrow, false⟩, .nominal "B", narrow,
      List.mem_cons_of_mem _ List.mem_cons_self, by decide, rfl, rfl, rfl⟩
      (List.forall_mem_singleton.2 second)
  have closable : repeating.Closable {} twice :=
    .called ⟨"A", "m", ⟨[once], twice, false⟩, .nominal "A", twice, List.mem_cons_self,
      by decide, rfl, rfl, rfl⟩
      (List.forall_mem_cons.2 ⟨first, List.forall_mem_singleton.2 argument⟩)
  have array : unhashable.Closable {} unhashable.goal :=
    @Closable.proposed _ _ _ .arrays (.array [.str "a"]) (by decide) (by decide)
      List.mem_cons_self rfl
  refine ⟨Limits.areCounts_default, ⟨goals, plain _ ?_, closable, rfl⟩,
    ⟨fun entry listed t member => ?_, Catalog.item_of_standard,
      List.forall_mem_singleton.2 ⟨"a", rfl⟩, List.forall_mem_nil _⟩,
    plain _ ?_, array, rfl⟩
  · simp [Ty.Everywhere, Ty.parts, Ty.partsOfFields, Ty.string, Ty.integer, Ty.HasPlainBase]
  · exact (Catalog.isProperGoal_of_mem_arguments listed t member).toIsPlainGoal
  · simp [Ty.Everywhere, Ty.parts, Ty.partsOfAll, Ty.HasPlainBase]

end Query

end FunctionSynthesis
