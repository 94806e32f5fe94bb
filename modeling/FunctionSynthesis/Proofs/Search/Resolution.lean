import FunctionSynthesis.Proofs.Search.Filling
import FunctionSynthesis.Proofs.Search.Reporting
import FunctionSynthesis.Proofs.Ty.General

/-!
# Resolved programs

Filling counts the dependent holes for which there is a filling, and gives a program if there
is one for all of them (`fillDependent_exact`). This program differs from the one before in
the dependent holes only, so it has the same size and the same holes to be expanded in the
same places, and the check of the search that all were filled is always passed.
-/

namespace FunctionSynthesis

namespace Query

variable {query : Query} {goal : Ty} {filling : Term}

/-! ### What the context has for a hole -/

/-- Whether there is a filling for dependent holes of a goal type. -/
def hasFilling (query : Query) (goal : Ty) : Bool :=
  match query.filling? goal with
  | .ok found => found.isSome
  | .error _ => false

/-- Whether a context has something for a goal type: a variable or a pool literal with a type
below the goal, or the literal that the goal carries. -/
def canFill (query : Query) (goal : Ty) : Bool :=
  query.env.any (fun binding => binding.2.le goal) ||
    query.pools.all.any (fun value => (Ty.ofValue value).le goal) ||
    (carriedLiteral? goal).isSome

/-- Whether a term can stand in the place of a dependent hole: it is a variable in scope or a
literal, and it has a type below the goal if the literals in the goal are scalars. -/
structure IsFitting (query : Query) (goal : Ty) (filling : Term) : Prop where
  atomic : (∃ binding ∈ query.env, filling = .var binding.1) ∨ ∃ value, filling = .literal value
  below : goal.isOrdinary = true →
    ∃ type, filling.typeIn query.catalog query.env = .ok type ∧ type.checkedLe goal = .ok true

theorem exists_filling? (env : ∀ binding ∈ query.env, binding.2.isHashable = true)
    (hashable : goal.isHashable = true) :
    ∃ found, query.filling? goal = .ok found ∧ found.isSome = query.canFill goal := by
  have bound : query.env.findM? (fun binding => binding.2.checkedLe goal) =
      .ok (query.env.find? fun binding => binding.2.le goal) :=
    Attempt.findM?_eq_ok fun binding member =>
      Ty.checkedLe_of_isHashable (env binding member) hashable
  have pooled : query.pools.all.findM? (fun value => value.fits goal) =
      .ok (query.pools.all.find? fun value => (Ty.ofValue value).le goal) :=
    Attempt.findM?_eq_ok fun value _ =>
      Ty.checkedLe_of_isHashable (Ty.isHashable_ofValue value) hashable
  unfold filling? canFill
  rw [← List.isSome_find?, ← List.isSome_find?, bound, pooled]
  cases query.env.find? fun binding => binding.2.le goal with
  | some binding => exact ⟨some (.var binding.1), rfl, rfl⟩
  | none =>
      cases query.pools.all.find? fun value => (Ty.ofValue value).le goal with
      | some value => exact ⟨some (.literal value), rfl, rfl⟩
      | none => exact ⟨carriedLiteral? goal, rfl, rfl⟩

/-- If types can be compared, there is a filling for a goal exactly if the context has
something for it. -/
theorem hasFilling_eq_canFill (env : ∀ binding ∈ query.env, binding.2.isHashable = true)
    (hashable : goal.isHashable = true) : query.hasFilling goal = query.canFill goal := by
  obtain ⟨found, filling, same⟩ := exists_filling? env hashable
  rw [hasFilling, filling]
  exact same

theorem isFitting_of_filling? (names : (query.env.map Prod.fst).Nodup)
    (filled : query.filling? goal = .ok (some filling)) : query.IsFitting goal filling := by
  rcases filling?_cases filled with
    ⟨binding, member, below, rfl⟩ | ⟨value, _, below, rfl⟩ | carried
  · refine ⟨Or.inl ⟨binding, member, rfl⟩, fun _ => ⟨binding.2, ?_, below⟩⟩
    exact Term.typeIn_var_eq_ok_iff.2 (Environment.typeOf?_of_mem names member)
  · exact ⟨Or.inr ⟨value, rfl⟩, fun _ => ⟨_, rfl, below⟩⟩
  · have self {value : Value} (type : Ty.ofValue value = goal) (ordinary : goal.isOrdinary = true) :
        (Ty.ofValue value).checkedLe goal = .ok true := by
      rw [type, Ty.checkedLe_of_isOrdinary ordinary ordinary, Ty.le_refl ordinary]
    cases goal with
    | literal value =>
        obtain rfl := Option.some.inj carried
        refine ⟨Or.inr ⟨value, rfl⟩, fun ordinary => ⟨_, rfl, self ?_ ordinary⟩⟩
        rw [Ty.isOrdinary_literal] at ordinary
        cases value <;> first | rfl | cases ordinary
    | text s =>
        obtain rfl := Option.some.inj carried
        exact ⟨Or.inr ⟨.str s, rfl⟩, fun ordinary => ⟨_, rfl, self rfl ordinary⟩⟩
    | _ => cases carried

end Query

/-! ### What filling counts and remembers -/

namespace Term

variable {query : Query} {t u : Term}

/-- Whether a node is a dependent hole for which there is a filling. -/
def isFillable (query : Query) : Term → Bool
  | .hole goal true => query.hasFilling goal
  | _ => false

/-- Whether the types of the dependent holes in a term can be compared with others. -/
def HasComparableGoals (t : Term) : Prop :=
  ∀ goal, .hole goal true ∈ t.walk → goal.isHashable = true

theorem isFillable_of_inner {node : Term} (inner : node.isLeaf = false) :
    isFillable query node = false := by
  cases node <;> first | rfl | cases inner

/-- Filling a leaf counts a hole for which there is a filling, and remembers one for which
there is none. -/
theorem run_fillHole_leaf {leaf : Term} (isLeaf : leaf.isLeaf = true) {s s' : FillingState}
    (ran : (rewriteM (fillHole query) leaf).run s = .ok (u, s')) :
    s'.filled = s.filled + [leaf].countP (isFillable query) ∧
      s'.unresolved = (s.unresolved || (leaf.isDependentHole && !isFillable query leaf)) := by
  cases isHole : leaf.isDependentHole with
  | false =>
      obtain ⟨rfl, rfl⟩ := (run_rewriteM_leaf_of_passes isLeaf (passes_fillHole isHole)).1 ran
      have unfillable : isFillable query leaf = false := by
        unfold isFillable
        split
        · cases isHole
        · rfl
      simp [unfillable]
  | true =>
      match leaf, isHole with
      | .hole goal true, _ =>
          rw [run_rewriteM_leaf_iff isLeaf, run_fillHole] at ran
          cases filling : query.filling? goal with
          | error fault => simp [filling, Except.map] at ran
          | ok found =>
              cases found with
              | none =>
                  obtain ⟨_, rfl⟩ : Term.hole goal true = u ∧
                      { s with unresolved := true } = s' := by
                    simpa [filling, Except.map] using ran
                  simp [isFillable, Query.hasFilling, filling]
              | some v =>
                  obtain ⟨rfl, rfl⟩ : v = u ∧ { s with filled := s.filled + 1 } = s' := by
                    simpa [filling, Except.map] using ran
                  simp [isFillable, Query.hasFilling, filling]

/-- Filling goes through if the types that it compares can be compared. -/
theorem exists_run_fillHole (env : ∀ binding ∈ query.env, binding.2.isHashable = true)
    (goals : t.HasComparableGoals) :
    ∃ result, (rewriteM (fillHole query) t).run {} = .ok result := by
  refine exists_run_rewriteM
    (fun node inner => passes_fillHole (isDependentHole_of_inner inner)) ?_ {}
  intro leaf inside _ s
  cases isHole : leaf.isDependentHole with
  | false => exact ⟨_, passes_fillHole isHole s⟩
  | true =>
      match leaf, isHole with
      | .hole goal true, _ =>
          obtain ⟨found, filling, _⟩ := Query.exists_filling? env (goals goal inside)
          rw [run_fillHole, filling]
          exact ⟨_, rfl⟩

variable {state : FillingState}

/-- What filling counts, and what it says of the leaves when it is finished in some way. -/
theorem noted_of_run_fillHole (finished : FillingState → Prop) (condition : Term → Prop)
    (leaves : ∀ leaf ∈ t.walk, ∀ s s' : FillingState, s'.unresolved =
      (s.unresolved || (leaf.isDependentHole && !isFillable query leaf)) →
        finished s' → finished s ∧ condition leaf)
    (ran : (rewriteM (fillHole query) t).run {} = .ok (u, state)) (done : finished state) :
    finished {} ∧ (∀ leaf ∈ t.walk, leaf.isLeaf = true → condition leaf) ∧
      state.filled = t.walk.countP (isFillable query) := by
  obtain ⟨begun, replaced, counted⟩ : finished {} ∧ Replaced (fun leaf _ => condition leaf) t u ∧
      state.filled = 0 + t.walk.countP (isFillable query) := by
    refine replaced_of_run_rewriteM finished FillingState.filled
      (fun node inner => passes_fillHole (isDependentHole_of_inner inner))
      (fun node => isFillable_of_inner) (fun leaf inside isLeaf s v s' here done => ?_) ran done
    obtain ⟨counted, remembered⟩ := run_fillHole_leaf isLeaf here
    obtain ⟨before, holds⟩ := leaves leaf inside s s' remembered done
    exact ⟨before, holds, counted⟩
  refine ⟨begun, fun leaf inside isLeaf => ?_, counted.trans (Nat.zero_add _)⟩
  obtain ⟨_, holds⟩ := replaced.exists_related inside isLeaf
  exact holds

/-- Filling counts the dependent holes for which there is a filling. -/
theorem filled_of_run_fillHole
    (ran : (rewriteM (fillHole query) t).run {} = .ok (u, state)) :
    state.filled = t.walk.countP (isFillable query) := by
  obtain ⟨_, _, counted⟩ := noted_of_run_fillHole (fun _ => True) (fun _ => True)
    (fun _ _ _ _ _ _ => ⟨trivial, trivial⟩) ran trivial
  exact counted

/-- Filling remembers that it came to a dependent hole for which there is no filling. -/
theorem unresolved_of_run_fillHole
    (ran : (rewriteM (fillHole query) t).run {} = .ok (u, state)) {goal : Ty}
    (inside : .hole goal true ∈ t.walk) (empty : query.hasFilling goal = false) :
    state.unresolved = true := by
  by_contra resolved
  -- A run that ends with nothing remembered came to no leaf of this kind.
  obtain ⟨_, fillable, _⟩ := noted_of_run_fillHole (fun s => s.unresolved = false)
    (fun leaf => (leaf.isDependentHole && !isFillable query leaf) = false)
    (fun leaf _ s s' remembered done => by
      rw [remembered, Bool.or_eq_false_iff] at done
      exact done)
    ran (Bool.eq_false_iff.2 resolved)
  simpa [isDependentHole, isFillable, empty] using fillable _ inside rfl

/-- Filling remembers nothing if there is a filling for all dependent holes. -/
theorem not_unresolved_of_run_fillHole
    (ran : (rewriteM (fillHole query) t).run {} = .ok (u, state))
    (fillable : ∀ goal, .hole goal true ∈ t.walk → query.hasFilling goal = true) :
    state.unresolved = false := by
  have unremarkable (leaf : Term) (inside : leaf ∈ t.walk) :
      (leaf.isDependentHole && !isFillable query leaf) = false := by
    cases leaf with
    | hole goal dependent =>
        cases dependent with
        | false => rfl
        | true => simpa [isDependentHole, isFillable] using fillable goal inside
    | _ => rfl
  by_contra unresolved
  -- What is remembered at the end was so from the beginning, since no leaf adds to it.
  obtain ⟨begun, _⟩ := noted_of_run_fillHole (fun s => s.unresolved = true) (fun _ => True)
    (fun leaf inside s s' remembered done => by
      rw [unremarkable leaf inside, Bool.or_false] at remembered
      exact ⟨remembered ▸ done, trivial⟩)
    ran (Bool.not_eq_false _ ▸ unresolved)
  cases begun

/-- What filling gives when it gives something: as many fillings as there are dependent holes
with one, and a program unless one of them has none. -/
theorem fillDependent_eq_ok {resolved : Option Term} {filled : Nat}
    (filling : t.fillDependent query = .ok (resolved, filled)) :
    filled = t.walk.countP (isFillable query) ∧
      (resolved = none ↔ ∃ goal, .hole goal true ∈ t.walk ∧ query.hasFilling goal = false) := by
  unfold fillDependent at filling
  obtain ⟨⟨u, state⟩, ran, given⟩ := Attempt.bind_eq_ok_iff.1 filling
  obtain ⟨rfl, rfl⟩ : (if state.unresolved then none else some u) = resolved ∧
      state.filled = filled := by
    simpa [pure, Except.pure] using given
  refine ⟨filled_of_run_fillHole ran, fun missing => ?_, ?_⟩
  · by_contra none
    have fillable : ∀ goal, .hole goal true ∈ t.walk → query.hasFilling goal = true := by
      intro goal inside
      by_contra empty
      exact none ⟨goal, inside, Bool.eq_false_iff.2 empty⟩
    simp [not_unresolved_of_run_fillHole ran fillable] at missing
  · rintro ⟨goal, inside, empty⟩
    rw [if_pos (unresolved_of_run_fillHole ran inside empty)]

/-! ### Programs that come of filling -/

/-- The goal of a hole to be expanded. -/
def regularGoal? : Term → Option Ty
  | .hole goal false => some goal
  | _ => none

/-- Whether a program is another one with all of its dependent holes filled and nothing
else changed. -/
structure IsResolution (query : Query) (t u : Term) : Prop where
  /-- Dependent holes are replaced by their fillings, and no other node is. -/
  replaced : Replaced (Fills query) t u
  dependent : u.dependentHoles = 0
  /-- The same places, in the order of the walk, have holes with the same goals. -/
  regular : u.walk.map regularGoal? = t.walk.map regularGoal?
  size : u.size = t.size

theorem Fills.not_dependent {leaf : Term} (fills : Fills query leaf u) :
    u.isDependentHole = false := by
  rcases fills with ⟨goal, rfl, filling⟩ | ⟨notHole, rfl⟩
  · rcases (Query.offers_of_filling? filling).cases with ⟨_, rfl⟩ | ⟨_, rfl⟩ <;> rfl
  · exact notHole

theorem Fills.same_view {leaf : Term} (isLeaf : leaf.isLeaf = true)
    (fills : Fills query leaf u) :
    u.isLeaf = true ∧ u.regularGoal? = leaf.regularGoal? := by
  rcases fills with ⟨goal, rfl, filling⟩ | ⟨_, rfl⟩
  · rcases (Query.offers_of_filling? filling).cases with ⟨_, rfl⟩ | ⟨_, rfl⟩ <;>
      exact ⟨rfl, rfl⟩
  · exact ⟨isLeaf, rfl⟩

theorem regularGoal?_of_inner {node : Term} (inner : node.isLeaf = false) :
    node.regularGoal? = none := by
  cases node <;> first | rfl | cases inner

theorem Replaced.isResolution (replaced : Replaced (Fills query) t u) :
    IsResolution query t u := by
  have regular : u.walk.map regularGoal? = t.walk.map regularGoal? :=
    replaced.map_walk
      (fun node parts inner => by
        rw [regularGoal?_of_inner inner,
          regularGoal?_of_inner ((isLeaf_withChildren node parts).trans inner)])
      fun leaf v isLeaf fills => fills.same_view isLeaf
  have filled : Everywhere (fun node => node.isDependentHole = false) u :=
    replaced.everywhere (fun node => isDependentHole_of_inner) fun leaf _ isLeaf v fills => by
      obtain ⟨isLeaf', _⟩ := fills.same_view isLeaf
      simpa [Everywhere, walk_of_isLeaf isLeaf'] using fills.not_dependent
  refine ⟨replaced, ?_, regular, ?_⟩
  · exact List.countP_eq_zero.2 fun node inside => by simp [filled node inside]
  · simpa [size] using congrArg List.length regular

end Term

/-! ### The check of the count -/

namespace Search

variable {σ : Type}

/-- Whether a search has ended because something that it relies on was found to be false. -/
def Progress.IsViolation (progress : Progress σ) : Prop :=
  ∃ text context, progress.outcome? = some (.failed (.problem (.invariant text context)))

/-- The check that all dependent holes were filled is passed by every program. -/
theorem not_isViolation_resolve (plan : Plan σ) (candidate : Term) (state : State σ) :
    ¬ (resolve plan candidate state).IsViolation := by
  rintro ⟨text, context, violated⟩
  unfold resolve at violated
  cases filling : candidate.fillDependent plan.query with
  | error fault => simp [filling, Progress.needing, Progress.fail, Progress.outcome?] at violated
  | ok result =>
      obtain ⟨resolved, filled⟩ := result
      rw [filling] at violated
      cases resolved with
      | none => cases violated
      | some program =>
          obtain ⟨_, counted⟩ := Term.replaced_of_fillDependent filling
          simp only [Progress.needing, if_pos counted, enqueue] at violated
          cases admitted : plan.query.admits program with
          | error fault => simp [admitted, Progress.fail, Progress.outcome?] at violated
          | ok admits => cases admits <;> simp [admitted, Progress.outcome?] at violated

/-- Trouble with a candidate is of another kind. -/
theorem ne_invariant_of_trouble {query : Query} {candidate : Term} {failure : Failure}
    (trouble : query.Trouble candidate failure) (text : String) (context : Entries) :
    failure ≠ .problem (.invariant text context) := by
  intro violated
  cases trouble with
  | @untyped error _ _ =>
      rcases error.toFailure_cases with ⟨_, _, same⟩ | ⟨_, same⟩
      · cases same.symm.trans violated
      · cases same.symm.trans violated
  | miscounted _ _ _ filling differ =>
      exact differ (Term.replaced_of_fillDependent filling).2
  | _ => cases violated

/-- No search ends because of that check. -/
theorem not_isViolation_run (plan : Plan σ) (operates : plan.tester.BreaksOperationally)
    (n : Nat) (examples : Int) (readings : Nat) (memory : σ) :
    ¬ (run plan n (start plan examples readings memory)).IsViolation := by
  rintro ⟨text, context, violated⟩
  obtain ⟨made, history, _, conclusion⟩ :=
    exists_history_of_satisfies (settled_run plan n examples readings memory)
  generalize failed : (Outcome.failed _) = outcome at violated
  cases conclusion outcome violated with
  | broken last _ =>
      obtain rfl := Outcome.failed.inj failed
      obtain ⟨_, _, operational⟩ := history.operational_of_broken operates last
      cases operational
  | troubled _ trouble _ =>
      exact ne_invariant_of_trouble trouble text context (Outcome.failed.inj failed).symm
  | _ => cases failed

end Search

/-! ### Exact filling -/

namespace Term

/-- The filling of a program goes through if its dependent holes have goals that can be
compared with the types in the context.

Whenever it goes through, it counts the dependent holes for which there is a filling, and it
gives a program unless there is none for one of them. Then all dependent holes were counted,
and nothing but these is replaced. There is a filling if the context has something for the
goal; it is a variable or a literal, of a type below the goal if the literals there are
scalars. So the search never finds another number of fillings than of dependent holes. -/
theorem fillDependent_exact (query : Query) (names : (query.env.map Prod.fst).Nodup) :
    (∀ t : Term, (∀ binding ∈ query.env, binding.2.isHashable = true) →
      t.HasComparableGoals → ∃ result, t.fillDependent query = .ok result) ∧
    (∀ (t : Term) resolved filled, t.fillDependent query = .ok (resolved, filled) →
      filled = t.walk.countP (isFillable query) ∧
      (resolved = none ↔ ∃ goal, .hole goal true ∈ t.walk ∧ query.hasFilling goal = false) ∧
      ∀ u, resolved = some u → filled = t.dependentHoles ∧ IsResolution query t u) ∧
    (∀ goal : Ty, ((∀ binding ∈ query.env, binding.2.isHashable = true) →
      goal.isHashable = true → query.hasFilling goal = query.canFill goal) ∧
      ∀ filling, query.filling? goal = .ok (some filling) → query.IsFitting goal filling) ∧
    ∀ (σ : Type) (plan : Search.Plan σ), plan.query = query →
      (∀ t state, ¬ (Search.resolve plan t state).IsViolation) ∧
      (plan.tester.BreaksOperationally → ∀ n examples readings memory,
        ¬ (Search.run plan n (Search.start plan examples readings memory)).IsViolation) := by
  refine ⟨fun t env goals => ?_, fun t resolved filled filling => ?_, fun goal => ⟨?_, ?_⟩,
    fun σ plan _ => ⟨?_, ?_⟩⟩
  · obtain ⟨result, ran⟩ := exists_run_fillHole env goals
    rw [fillDependent, ran]
    exact ⟨_, rfl⟩
  · obtain ⟨counted, missing⟩ := fillDependent_eq_ok filling
    refine ⟨counted, missing, ?_⟩
    rintro u rfl
    obtain ⟨replaced, all⟩ := replaced_of_fillDependent filling
    exact ⟨all, replaced.isResolution⟩
  · exact fun env hashable => Query.hasFilling_eq_canFill env hashable
  · exact fun filling => Query.isFitting_of_filling? names
  · exact Search.not_isViolation_resolve plan
  · exact Search.not_isViolation_run plan

/-- A hole takes the variable of its type and another one the text in its goal, for which the
context has nothing, and the hole to be expanded stays. -/
theorem fillDependent_exact_carried :
    let query : Query :=
      { env := [("x", .integer)], goal := .integer, pools := ⟨[.str "-"], [.int 1]⟩ }
    let t : Term := .array [.hole .integer true, .hole (.text "k") true, .hole .integer false]
    let u : Term := .array [.var "x", Term.str "k", .hole .integer false]
    let tester : Search.Tester Unit := ⟨fun memory _ => (.rejected, memory)⟩
    t.fillDependent query = .ok (some u, 2) ∧ t.dependentHoles = 2 ∧ IsResolution query t u ∧
      query.hasFilling .integer = query.canFill .integer ∧
      query.IsFitting .integer (.var "x") ∧
      ¬ (Search.run ⟨query, .standard {}, tester, .stopped, .none⟩ 3
          (Search.start ⟨query, .standard {}, tester, .stopped, .none⟩ 0 0 ())).IsViolation := by
  intro query t u tester
  have env : ∀ binding ∈ query.env, binding.2.isHashable = true := by decide
  have goals : t.HasComparableGoals := by
    intro goal inside
    have walked : t.walk =
      [t, .hole .integer true, .hole (.text "k") true, .hole .integer false] := rfl
    obtain rfl | rfl : goal = .integer ∨ goal = .text "k" := by simpa [walked, t] using inside
    · rfl
    · rfl
  obtain ⟨goesThrough, exact, fittings, passed⟩ := fillDependent_exact query (by decide)
  obtain ⟨⟨resolved, filled⟩, filling⟩ := goesThrough t env goals
  have known : t.fillDependent query = .ok (some u, 2) := by rfl
  obtain ⟨_, _, resolution⟩ := exact t (some u) 2 known
  obtain ⟨all, same⟩ := resolution u rfl
  obtain ⟨something, fitting⟩ := fittings .integer
  refine ⟨known, all.symm, same, something env rfl, fitting _ rfl, ?_⟩
  refine (passed Unit ⟨query, .standard {}, tester, .stopped, .none⟩ rfl).2 ?_ 3 0 0 ()
  intro memory t problem broken
  cases broken

/-- The filling of a hole breaks off if the goal has a member that no set can have and the type
of a variable is a union. -/
theorem not_fillDependent_of_unhashable :
    let query : Query := { env := [("x", .union [.integer, .string])], goal := .integer }
    let t : Term := .hole (.union [.literal (.list [.int 1]), .integer]) true
    (query.env.map Prod.fst).Nodup ∧ t.fillDependent query = .error Ty.incomparable := by
  intro query t
  exact ⟨by decide, rfl⟩

end Term

end FunctionSynthesis
