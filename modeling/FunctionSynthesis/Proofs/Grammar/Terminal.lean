import FunctionSynthesis.Proofs.Grammar.Closability
import FunctionSynthesis.Proofs.Grammar.Depth

/-!
# Terminals of inhabited goals

The rules for terminals compare a literal or a variable with the goal as a whole. Inhabitation
does so too, but splits a union into its members first. What is below a union without being one
itself is below an alternative of it, so a goal for which a terminal is proposed is inhabited
whatever is under consideration, except that a variable whose type is a union may fit the goal
and none of its members (`isInhabited_of_terminal`).
-/

namespace FunctionSynthesis

namespace Ty

theorem isSimple_ofValue (value : Value) : (ofValue value).IsSimple := by
  cases value with
  | dict entries =>
      rw [ofValue]
      split <;> exact ⟨rfl, rfl, rfl⟩
  | _ => exact ⟨rfl, rfl, rfl⟩

end Ty

namespace Rule

/-- The rules that propose terminals. -/
def terminals : List Rule :=
  [.poolLiterals, .goalLiteral, .fittingVariables, .arrays]

end Rule

theorem Proposals.exists_of_mem_selecting {α : Type} {test : α → Except Fault Bool}
    {make : α → Term} {items : List α} (succeeds : ∀ x ∈ items, Attempt.Succeeds (test x))
    {t : Term} (member : t ∈ (selecting test make items).terms) :
    ∃ x ∈ items, test x = .ok true ∧ make x = t := by
  have all : AreAll {} (fun t => ∃ x ∈ items, test x = .ok true ∧ make x = t)
      (selecting test make items) :=
    areAll_selecting succeeds fun x inside passed => ⟨x, inside, passed, rfl⟩
  exact all.each t member

namespace Query

variable {query : Query} {limits : Limits} {goal : Ty}

/-! ### Goals that are no unions -/

/-- Where a goal is closed at once, it is inhabited with any depth. -/
theorem inhabitedWithin_of_isTerminal (hashable : query.IsHashable)
    (goalHashable : goal.isHashable = true) (alone : goal.isUnion = false)
    (terminal : query.isTerminal limits goal = true) (depth : Nat) (visiting : List Ty) :
    query.inhabitedWithin limits (depth + 1) visiting goal = .ok true := by
  -- a test that may fail comes after the ones that cannot
  have plain {x y : Bool} {array below : Except Fault Bool}
      (passed : (x || y || array.toOption.getD false) = true) :
      (do
        if ← (.ok x : Except Fault Bool) then return true
        if ← (.ok y : Except Fault Bool) then return true
        if ← array then return true
        below) = .ok true := by
    cases x with
    | true => rfl
    | false =>
        cases y with
        | true => rfl
        | false =>
            cases array with
            | error fault => cases passed
            | ok found =>
                obtain rfl : found = true := passed
                rfl
  rw [inhabitedWithin_eq_inhabitedBy]
  cases goal with
  | literal v => rfl
  | text s => rfl
  | union ts => cases alone
  | _ =>
      unfold inhabitedBy
      dsimp only
      rw [anyM_env goalHashable hashable.env, anyM_pools goalHashable hashable.pools]
      exact plain terminal

/-! ### Alternatives of unions -/

/-- When a goal is not inhabited, none of its alternatives is, with some depth. -/
theorem not_inhabited_of_mem_alternatives {depth : Nat} {visiting : List Ty}
    (givenUp : query.inhabitedWithin limits depth visiting goal = .ok false) {u : Ty}
    (alternative : u ∈ goal.alternatives) :
    ∃ rest, query.inhabitedWithin limits (rest + 1) visiting u = .ok false := by
  induction goal generalizing depth with
  | union ts ih =>
      cases depth with
      | zero => cases givenUp
      | succ depth =>
          rw [Ty.alternatives_union, List.mem_flatMap] at alternative
          obtain ⟨t, inside, alternative⟩ := alternative
          exact ih t inside (Attempt.eq_ok_false_of_anyM givenUp t inside) alternative
  | _ =>
      cases depth with
      | zero => cases givenUp
      | succ depth =>
          rw [List.eq_of_mem_singleton alternative]
          exact ⟨depth, givenUp⟩

/-- A goal that can be decided is inhabited if an alternative of it is closed at once. -/
theorem isInhabited_of_alternative (hashable : query.IsHashable)
    (goalHashable : goal.isHashable = true) {visiting : List Ty}
    (decided : Attempt.Succeeds (query.isInhabited limits visiting goal)) {u : Ty}
    (alternative : u ∈ goal.alternatives) (terminal : query.isTerminal limits u = true) :
    query.isInhabited limits visiting goal = .ok true := by
  obtain ⟨inhabited, same⟩ := decided
  cases inhabited with
  | true => exact same
  | false =>
      obtain ⟨rest, givenUp⟩ := not_inhabited_of_mem_alternatives same alternative
      have closed := inhabitedWithin_of_isTerminal hashable
        (Ty.isHashable_of_mem_parts goalHashable (Ty.mem_parts_of_mem_alternatives alternative))
        (Ty.alternatives_of_mem_alternatives alternative).2 terminal rest visiting
      cases givenUp.symm.trans closed

/-- Whether the type of a proposed variable is neither a union nor empty. -/
def IsUndividedVariable (query : Query) (t : Term) : Prop :=
  ∀ binding ∈ query.env, t = .var binding.1 →
    binding.2.isUnion = false ∧ binding.2.isBottom = false

/-- Where a terminal is proposed for a goal, an alternative of the goal is closed at once. -/
theorem exists_alternative_of_mem_terminals (hashable : query.IsHashable)
    (goalHashable : goal.isHashable = true) {rule : Rule} (terminal : rule ∈ Rule.terminals)
    {t : Term} (proposed : t ∈ (rule.propose goal query limits).terms)
    (undivided : goal.isUnion = true → query.IsUndividedVariable t) :
    ∃ u ∈ goal.alternatives, query.isTerminal limits u = true := by
  have ofBelow {a : Ty} (simple : a.IsSimple) (below : a.le goal = true)
      (closes : ∀ u, a.le u = true → query.closesAtOnce limits u = true) :
      ∃ u ∈ goal.alternatives, query.isTerminal limits u = true := by
    obtain ⟨u, alternative, below⟩ := (Ty.le_iff_exists_alternative simple).1 below
    exact ⟨u, alternative, isTerminal_of_closesAtOnce (closes u below)⟩
  have ofAlone (alone : goal.isUnion = false) (terminal : query.isTerminal limits goal = true) :
      ∃ u ∈ goal.alternatives, query.isTerminal limits u = true := by
    rw [Ty.alternatives_eq_singleton alone]
    exact ⟨goal, List.mem_singleton_self goal, terminal⟩
  simp only [Rule.terminals, List.mem_cons, List.not_mem_nil, or_false] at terminal
  rcases terminal with rfl | rfl | rfl | rfl
  · obtain ⟨value, pooled, fits, _⟩ := Proposals.exists_of_mem_selecting
      (fun value pooled => Ty.succeeds_checkedLe (hashable.pools value pooled) goalHashable)
      proposed
    have fits : (Ty.ofValue value).checkedLe goal = .ok true := fits
    rw [Ty.checkedLe_of_isHashable (hashable.pools value pooled) goalHashable] at fits
    exact ofBelow (Ty.isSimple_ofValue value) (Except.ok.inj fits) fun u below =>
      closesAtOnce_iff.2 (Or.inr (Or.inl ⟨value, pooled, below⟩))
  · have own : t ∈ Rule.proposeGoalLiteral goal := proposed
    cases goal with
    | literal v => exact ofAlone rfl rfl
    | text s => exact ofAlone rfl rfl
    | _ => exact absurd own List.not_mem_nil
  · obtain ⟨binding, bound, fits, rfl⟩ := Proposals.exists_of_mem_selecting
      (fun binding bound => Ty.succeeds_checkedLe (hashable.env binding bound) goalHashable)
      proposed
    rw [Ty.checkedLe_of_isHashable (hashable.env binding bound) goalHashable] at fits
    have below : binding.2.le goal = true := Except.ok.inj fits
    have closes (u : Ty) (below : binding.2.le u = true) : query.closesAtOnce limits u = true :=
      closesAtOnce_iff.2 (Or.inl ⟨binding, bound, below⟩)
    cases shape : goal.isUnion with
    | false => exact ofAlone shape (isTerminal_of_closesAtOnce (closes goal below))
    | true =>
        obtain ⟨noUnion, notEmpty⟩ := undivided shape binding bound rfl
        -- the greatest type is below itself only, which is no union
        have notTop : binding.2.isTop = false := by
          refine Bool.eq_false_iff.2 fun isTop => ?_
          rw [Ty.isTop_iff.1 isTop, Ty.top_le_iff] at below
          rw [below] at shape
          cases shape
        exact ofBelow ⟨notTop, notEmpty, noUnion⟩ below closes
  · have array := hasArray_of_mem_arrays proposed
    have alone : goal.isUnion = false := by
      cases goal with
      | union ts => cases array
      | _ => rfl
    exact ofAlone alone (isTerminal_of_closesAtOnce (closesAtOnce_iff.2 (Or.inr (Or.inr array))))

/-! ### Inhabited goals -/

/-- Whether a union can be decided member by member and a proposed term fits one of them: the
catalog bounds the recursion, the limits and the goals under consideration can be compared, and
the term is no variable whose type is itself a union or empty. -/
structure FitsMember (query : Query) (limits : Limits) (visiting : List Ty) (t : Term) :
    Prop where
  catalog : query.catalog.IsHashable
  fixed : query.catalog.HasFixedResults
  isInteger : limits.maxArrayArity.integer?.isSome = true
  visited : ∀ seen ∈ visiting, seen.isHashable = true
  undivided : query.IsUndividedVariable t

/-- A goal for which a terminal is proposed is inhabited, whatever is under consideration. Of a
union it is supposed that it can be decided and the terminal fits a member. -/
theorem isInhabited_of_terminal (hashable : query.IsHashable)
    (goalHashable : goal.isHashable = true) {rule : Rule} (terminal : rule ∈ Rule.terminals)
    {t : Term} (proposed : t ∈ (rule.propose goal query limits).terms) (visiting : List Ty)
    (ofUnion : goal.isUnion = true → query.FitsMember limits visiting t) :
    query.isInhabited limits visiting goal = .ok true := by
  obtain ⟨u, alternative, closed⟩ := exists_alternative_of_mem_terminals hashable goalHashable
    terminal proposed fun isUnion => (ofUnion isUnion).undivided
  cases shape : goal.isUnion with
  | false =>
      rw [Ty.alternatives_eq_singleton shape, List.mem_singleton] at alternative
      subst alternative
      have positive : 0 < query.inhabitationDepth u := Nat.add_pos_left (by decide) _
      obtain ⟨rest, deep⟩ := Nat.exists_eq_add_one.2 positive
      rw [isInhabited, deep]
      exact inhabitedWithin_of_isTerminal hashable goalHashable shape closed rest visiting
  | true =>
      have fits := ofUnion shape
      have bounded : query.IsBounded limits :=
        ⟨hashable, fits.catalog, fits.fixed, fits.isInteger⟩
      obtain ⟨inhabited, decided⟩ := bounded.exists_inhabited goalHashable fits.visited
      exact isInhabited_of_alternative hashable goalHashable ⟨inhabited, decided _ le_rfl⟩
        alternative closed

/-- A variable of one member of a union, with that member under consideration. -/
theorem isInhabited_of_terminal_member :
    let query : Query := { env := [("x", .integer)], goal := .union [.string, .integer] }
    query.isInhabited {} [.integer] query.goal = .ok true := by
  intro query
  have hashable : query.IsHashable := ⟨List.forall_mem_singleton.2 rfl, List.forall_mem_nil _⟩
  have terminal : Rule.fittingVariables ∈ Rule.terminals := by decide
  have proposed : .var "x" ∈ (Rule.fittingVariables.propose query.goal query {}).terms :=
    List.mem_cons_self
  refine isInhabited_of_terminal hashable rfl terminal proposed [.integer] fun _ => ?_
  exact
    { catalog := Catalog.isHashable_standard
      fixed := Catalog.hasFixedResults_standard
      isInteger := rfl
      visited := List.forall_mem_singleton.2 rfl
      undivided := List.forall_mem_singleton.2 fun _ => ⟨rfl, rfl⟩ }

/-- A variable whose type is a union fits the union, but none of its members: the variable is
proposed for a goal that is not inhabited. -/
theorem not_isInhabited_of_terminal_union :
    let either : Ty := .union [.integer, .string]
    let query : Query := { env := [("x", either)], goal := .integer }
    .var "x" ∈ (Rule.fittingVariables.propose either query {}).terms ∧
      query.isInhabited {} [] either = .ok false :=
  ⟨List.mem_cons_self, rfl⟩

end Query

end FunctionSynthesis
