import FunctionSynthesis.Proofs.Grammar.Layering
import FunctionSynthesis.Proofs.Search.Exactness

/-!
# The queue holds programs that fit

A candidate is compared with the goal before its dependent holes are filled, and it is not
compared again. The standard search for a well-formed query makes layered candidates
(`Plan.Derivable.isLayered`), of which filling narrows the type, so whatever waits in the
queue fits the goal, and it has holes to be expanded or no holes at all (`fits_of_run`).
-/

namespace FunctionSynthesis

open Term (Everywhere IsPlainNode IsLayered)

/-! ### Fillings from the context -/

namespace Query

variable {query : Query} {goal : Ty} {filling : Term}

/-- The literal that a goal carries is what its values are. -/
theorem exists_value_of_carriedLiteral? (goalOrdinary : goal.isOrdinary = true)
    (carried : carriedLiteral? goal = some filling) :
    ∃ value : Value, value.isAtom = true ∧ Ty.ofValue value = goal ∧ filling = .literal value := by
  cases goal with
  | literal value =>
      rw [Ty.isOrdinary_literal] at goalOrdinary
      refine ⟨value, Value.isAtom_of_isScalar goalOrdinary, ?_, (Option.some.inj carried).symm⟩
      cases value <;> first | rfl | exact absurd goalOrdinary Bool.false_ne_true
  | text s => exact ⟨.str s, rfl, rfl, (Option.some.inj carried).symm⟩
  | _ => cases carried

/-- A hole is filled with a variable or a literal whose type is below the goal. -/
theorem IsWellFormed.filling?_cases (wellFormed : query.IsWellFormed)
    (goalWellFormed : goal.IsWellFormed) (filled : query.filling? goal = .ok (some filling)) :
    (∃ binding ∈ query.env, binding.2.IsWellBelow goal ∧ filling = .var binding.1) ∨
      ∃ value : Value, value.isAtom = true ∧ (Ty.ofValue value).IsWellBelow goal ∧
        filling = .literal value := by
  have below {type : Ty} (left : type.IsWellFormed) (fits : type.checkedLe goal = .ok true) :
      type.IsWellBelow goal := by
    rw [Ty.checkedLe_of_isOrdinary left.ordinary goalWellFormed.ordinary, Except.ok.injEq] at fits
    exact ⟨left, goalWellFormed, fits⟩
  rcases Query.filling?_cases filled with ⟨binding, member, fits, rfl⟩ |
    ⟨value, member, fits, rfl⟩ | carried
  · exact Or.inl ⟨binding, member, below (wellFormed.env binding member) fits, rfl⟩
  · have atom := wellFormed.pools value member
    exact Or.inr ⟨value, atom, below (Ty.isWellFormed_ofValue atom) fits, rfl⟩
  · obtain ⟨value, atom, rfl, rfl⟩ :=
      exists_value_of_carriedLiteral? goalWellFormed.ordinary carried
    exact Or.inr ⟨value, atom, .refl goalWellFormed, rfl⟩

theorem IsWellFormed.isPlain_of_filling? (wellFormed : query.IsWellFormed)
    (goalWellFormed : goal.IsWellFormed) (filled : query.filling? goal = .ok (some filling)) :
    Everywhere IsPlainNode filling := by
  rcases wellFormed.filling?_cases goalWellFormed filled with ⟨_, _, _, rfl⟩ | ⟨_, atom, _, rfl⟩
  · exact (Term.everywhere_var _).2 trivial
  · exact (Term.everywhere_literal _).2 atom

theorem IsWellFormed.exists_type_of_filling? (wellFormed : query.IsWellFormed)
    (goalWellFormed : goal.IsWellFormed) (filled : query.filling? goal = .ok (some filling)) :
    ∃ type, filling.typeIn Catalog.standard query.env = .ok type ∧ type.IsWellBelow goal := by
  rcases wellFormed.filling?_cases goalWellFormed filled with
    ⟨binding, member, below, rfl⟩ | ⟨value, _, below, rfl⟩
  · exact ⟨binding.2, Term.typeIn_var_eq_ok_iff.2
      (Environment.typeOf?_of_mem wellFormed.names member), below⟩
  · exact ⟨_, rfl, below⟩

end Query

/-! ### Layers -/

namespace Term

variable {query : Query} {limits : Limits} {t u : Term}

theorem isProposed_of_mem_fillings (ordinary : query.IsOrdinary) {goal : Ty}
    (goalOrdinary : goal.isOrdinary = true) :
    ∀ v ∈ fillings (.standard limits) query goal, Rule.IsProposed query goal v := by
  unfold fillings
  split
  next ts listed => exact Expander.isProposed_of_standard ordinary goalOrdinary listed
  next => exact fun _ member => absurd member List.not_mem_nil

/-- Refinements of layered programs are layered. -/
theorem IsLayered.of_mem_refinements (layered : IsLayered query.env t)
    (wellFormed : query.IsWellFormed)
    (refined : u ∈ t.refinements (fillings (.standard limits) query)) :
    IsLayered query.env u := by
  have proposed {goal : Ty} (goalWellFormed : goal.IsWellFormed) {v : Term}
      (member : v ∈ fillings (.standard limits) query goal) : Rule.IsProposed query goal v :=
    isProposed_of_mem_fillings wellFormed.isOrdinary goalWellFormed.ordinary v member
  refine layered.of_replaced (replaced_of_mem_refinements refined)
    (fun leaf v notRegular _ put => ?_) (fun goal dependent v goalWellFormed put => ?_)
    fun goal v goalWellFormed isClass put => ?_
  · rcases put with ⟨goal, rfl, _⟩ | ⟨_, same⟩
    · cases notRegular
    · exact same
  · rcases put with ⟨goal', same, member⟩ | ⟨_, rfl⟩
    · cases same
      exact (proposed goalWellFormed member).isLayered wellFormed goalWellFormed
    · exact .hole dependent goalWellFormed
  · rcases put with ⟨goal', same, member⟩ | ⟨notRegular, _⟩
    · cases same
      exact (proposed goalWellFormed member).isPlain wellFormed isClass
    · cases notRegular

/-- Filling from the context keeps a program layered. -/
theorem IsLayered.of_fills (layered : IsLayered query.env t) (wellFormed : query.IsWellFormed)
    (replaced : Replaced (Fills query) t u) : IsLayered query.env u := by
  refine layered.of_replaced replaced (fun leaf v _ notDependent put => ?_)
    (fun goal dependent v goalWellFormed put => ?_) fun goal v goalWellFormed isClass put => ?_
  · rcases put with ⟨goal, rfl, _⟩ | ⟨_, same⟩
    · cases notDependent
    · exact same
  · rcases put with ⟨goal', same, filled⟩ | ⟨_, rfl⟩
    · cases same
      exact .plain (wellFormed.isPlain_of_filling? goalWellFormed filled)
    · exact .hole dependent goalWellFormed
  · rcases put with ⟨goal', same, _⟩ | ⟨_, rfl⟩
    · cases same
    · exact (everywhere_hole goal false).2 ⟨rfl, goalWellFormed, isClass⟩

/-- Filling from the context narrows the type of a layered program. -/
theorem IsLayered.exists_type_of_fills (layered : IsLayered query.env t)
    (wellFormed : query.IsWellFormed) (replaced : Replaced (Fills query) t u) {type : Ty}
    (typed : t.typeIn Catalog.standard query.env = .ok type) :
    ∃ type', u.typeIn Catalog.standard query.env = .ok type' ∧ type'.IsWellBelow type := by
  refine layered.exists_isWellBelow wellFormed.env replaced (fun leaf v notDependent put => ?_)
    (fun goal v goalWellFormed put => ?_) typed
  · rcases put with ⟨goal, rfl, _⟩ | ⟨_, same⟩
    · cases notDependent
    · exact same
  · rcases put with ⟨goal', same, filled⟩ | ⟨notDependent, _⟩
    · cases same
      exact wellFormed.exists_type_of_filling? goalWellFormed filled
    · cases notDependent

theorem IsLayered.isUnfilled {env : Environment} (layered : IsLayered env t) :
    Everywhere (fun node => node.isUnfilled = true) t := by
  refine layered.everywhere (fun _ _ _ => rfl) (fun node finished => ?_) (fun node plain => ?_)
    (fun _ => rfl) fun _ _ => rfl
  · cases node <;> first | rfl | exact finished.elim
  · cases node <;> first | rfl | exact plain.elim

end Term

/-! ### The search -/

namespace Search

variable {σ : Type} {plan : Plan σ} {limits : Limits} {program : Term}

/-- The programs of the standard search for a well-formed query are layered. -/
theorem Plan.Derivable.isLayered (standard : plan.expander = .standard limits)
    (wellFormed : plan.query.IsWellFormed) (derivable : plan.Derivable program) :
    IsLayered plan.query.env program := by
  induction derivable with
  | start => exact .hole false wellFormed.goal
  | step _ _ refined yields ih =>
      rw [Plan.refinements, standard] at refined
      have layered := ih.of_mem_refinements wellFormed refined
      cases yields.prepared with
      | kept _ => exact layered
      | resolved _ resolution =>
          exact layered.of_fills wellFormed (Term.replaced_of_fillDependent resolution).1

theorem Plan.staysUnfilled_of_standard (standard : plan.expander = .standard limits)
    (wellFormed : plan.query.IsWellFormed) : plan.StaysUnfilled :=
  fun _ derivable => (derivable.isLayered standard wellFormed).isUnfilled

/-- The programs of the standard search for a well-formed query fit the goal, also those that
were compared with it before they were filled. -/
theorem Plan.Derivable.exists_type (standard : plan.expander = .standard limits)
    (wellFormed : plan.query.IsWellFormed) (derivable : plan.Derivable program) :
    ∃ type, program.typeIn plan.query.catalog plan.query.env = .ok type ∧
      type.IsWellBelow plan.query.goal := by
  cases derivable with
  | start => exact ⟨plan.query.goal, rfl, .refl wellFormed.goal⟩
  | step earlier _ refined yields =>
      rw [Plan.refinements, standard] at refined
      have layered :=
        (earlier.isLayered standard wellFormed).of_mem_refinements wellFormed refined
      obtain ⟨type, typed, fits⟩ := Attempt.bind_eq_ok_iff.1 yields.fits
      rw [Term.liftM_eq_ok_iff] at fits
      rw [wellFormed.catalog] at typed ⊢
      have typeWellFormed := Term.isWellFormed_of_typeIn wellFormed.env layered.isTidy typed
      rw [Ty.checkedLe_of_isOrdinary typeWellFormed.ordinary wellFormed.goal.ordinary,
        Except.ok.injEq] at fits
      have below : type.IsWellBelow plan.query.goal := ⟨typeWellFormed, wellFormed.goal, fits⟩
      cases yields.prepared with
      | kept _ => exact ⟨type, typed, below⟩
      | resolved _ resolution =>
          obtain ⟨type', typed', narrower⟩ := layered.exists_type_of_fills wellFormed
            (Term.replaced_of_fillDependent resolution).1 typed
          exact ⟨type', typed', narrower.trans below⟩

/-- Every program that has been in the queue, whether it was taken from it or still waits,
fits the goal, and it has holes to be expanded or no holes at all. -/
theorem fits_of_run (plan : Plan σ) (limits : Limits)
    (standard : plan.expander = .standard limits) (wellFormed : plan.query.IsWellFormed)
    (n : Nat) (examples : Int) (readings : Nat) (memory : σ) :
    let s := (run plan n (start plan examples readings memory)).state
    ∀ program ∈ s.poppedPrograms ++ s.waitingPrograms,
      (∃ type, program.typeIn plan.query.catalog plan.query.env = .ok type ∧
        type.checkedLe plan.query.goal = .ok true) ∧
      (program.regularHoles ≠ 0 ∨ program.isClosed = true) := by
  intro s program known
  obtain ⟨made, history, initial, _⟩ :=
    exists_history_of_satisfies (settled_run plan n examples readings memory)
  have derivable := history.derivable_of_mem
    (Plan.staysUnfilled_of_standard standard wellFormed) initial known
  obtain ⟨type, typed, below⟩ := derivable.exists_type standard wellFormed
  refine ⟨⟨type, typed, ?_⟩, derivable.regularHoles_ne_zero_or_isClosed⟩
  rw [Ty.checkedLe_of_isOrdinary below.left.ordinary below.right.ordinary, below.below]

/-- A record whose field was split into cases and filled after it had been compared with
the goal. The other case cannot be filled, so the record waits alone. -/
theorem fits_of_run_case_split :
    let plan : Plan Unit :=
      { query :=
          { env := [("flag", .nominal "bool")]
            goal := .record [("a", .union [.text "x", .integer])], maxSize := .int 3 }
        expander := .standard {}
        tester := ⟨fun _ _ => (.rejected, ())⟩ }
    let s := (run plan 2 (start plan 1 0 ())).state
    let program : Term := .record [(.str "a", .str "x")]
    s.waitingPrograms = [program] ∧
      ∃ type, program.typeIn plan.query.catalog plan.query.env = .ok type ∧
        type.checkedLe plan.query.goal = .ok true := by
  intro plan s program
  have canonical : Ty.IsCanonicalUnion (.union [.text "x", .integer]) := by
    simp [Ty.IsCanonicalUnion, Ty.IsSimple, Ty.integer, Ty.equal, Ty.isTop, Ty.isBottom,
      Ty.isUnion]
  have wellFormed : plan.query.IsWellFormed :=
    { env := by simp [Environment.IsWellFormed, plan, Ty.isWellFormed_nominal]
      names := by decide
      goal := by
        refine Ty.isWellFormed_record.2 ⟨by decide, ?_⟩
        rw [List.forall_mem_singleton, Ty.isWellFormed_union]
        refine ⟨canonical, List.forall_mem_cons.2 ⟨?_, ?_⟩⟩
        · exact Ty.isWellFormed_of_leaf rfl rfl trivial trivial
        · exact List.forall_mem_singleton.2 (Ty.isWellFormed_nominal _)
      pools := by decide
      catalog := rfl }
  have waiting : s.waitingPrograms = [program] := by rfl
  have known : program ∈ s.poppedPrograms ++ s.waitingPrograms := by
    rw [waiting]
    exact List.mem_append_right _ List.mem_cons_self
  exact ⟨waiting, (fits_of_run plan {} rfl wellFormed 2 1 0 () program known).1⟩

end Search

end FunctionSynthesis
