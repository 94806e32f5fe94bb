import FunctionSynthesis.Proofs.Term.Replacement
import FunctionSynthesis.Search.Filling

/-!
# Filled programs

Filling replaces every dependent hole of a program by a variable or a literal, and
counts all of them, when it gives a program at all (`replaced_of_fillDependent`). A
program without regular holes is closed after that.
-/

namespace FunctionSynthesis

namespace Query

/-- What a dependent hole may be filled with. -/
inductive Offers (query : Query) (goal : Ty) : Term → Prop
  | variable {name : String} {type : Ty} :
      (name, type) ∈ query.env → Offers query goal (.var name)
  | pooled {value : Value} :
      value ∈ query.pools.all → Offers query goal (.literal value)
  | carried {filling : Term} :
      carriedLiteral? goal = some filling → Offers query goal filling

/-- A hole is filled with a variable or a literal that fits, or with the literal that its
goal carries. -/
theorem filling?_cases {query : Query} {goal : Ty} {filling : Term}
    (filled : query.filling? goal = .ok (some filling)) :
    (∃ binding ∈ query.env, binding.2.checkedLe goal = .ok true ∧ filling = .var binding.1) ∨
      (∃ value ∈ query.pools.all, value.fits goal = .ok true ∧ filling = .literal value) ∨
      carriedLiteral? goal = some filling := by
  unfold filling? at filled
  obtain ⟨binding, found, rest⟩ := Attempt.bind_eq_ok_iff.1 filled
  cases binding with
  | some binding =>
      obtain ⟨member, fits⟩ := Attempt.mem_of_findM? found
      exact Or.inl ⟨binding, member, fits,
        (Option.some.inj (Attempt.pure_eq_ok_iff.1 rest)).symm⟩
  | none =>
      obtain ⟨value, pooled, rest⟩ := Attempt.bind_eq_ok_iff.1 rest
      cases value with
      | some value =>
          obtain ⟨member, fits⟩ := Attempt.mem_of_findM? pooled
          exact Or.inr (Or.inl ⟨value, member, fits,
            (Option.some.inj (Attempt.pure_eq_ok_iff.1 rest)).symm⟩)
      | none => exact Or.inr (Or.inr (Attempt.pure_eq_ok_iff.1 rest))

theorem offers_of_filling? {query : Query} {goal : Ty} {filling : Term}
    (filled : query.filling? goal = .ok (some filling)) : query.Offers goal filling := by
  rcases filling?_cases filled with ⟨_, member, _, rfl⟩ | ⟨_, member, _, rfl⟩ | carried
  · exact .variable member
  · exact .pooled member
  · exact .carried carried

/-- What a hole is filled with is a variable or a literal. -/
theorem Offers.cases {query : Query} {goal : Ty} {filling : Term}
    (offers : query.Offers goal filling) :
    (∃ name, filling = .var name) ∨ ∃ value, filling = .literal value := by
  cases offers with
  | «variable» _ => exact Or.inl ⟨_, rfl⟩
  | pooled _ => exact Or.inr ⟨_, rfl⟩
  | carried carried =>
      unfold carriedLiteral? at carried
      split at carried
      · exact Or.inr ⟨_, (Option.some.inj carried).symm⟩
      · exact Or.inr ⟨_, (Option.some.inj carried).symm⟩
      · simp at carried

end Query

namespace Term

/-- Whether a leaf is filled with a term: a dependent hole with what the query offers
for it, any other leaf with itself. -/
def Fills (query : Query) (leaf u : Term) : Prop :=
  (∃ goal, leaf = .hole goal true ∧ query.filling? goal = .ok (some u)) ∨
    (leaf.isDependentHole = false ∧ u = leaf)

variable {query : Query} {t u : Term} {filled : Nat}

theorem passes_fillHole {node : Term} (notHole : node.isDependentHole = false) :
    Passes (fillHole query) node := by
  intro s
  cases node with
  | hole goal dependent =>
      cases dependent with
      | true => simp [isDependentHole] at notHole
      | false => rfl
  | _ => rfl

/-- The filling of a dependent hole, with what is recorded. -/
theorem run_fillHole (goal : Ty) (s : FillingState) :
    (fillHole query (.hole goal true)).run s =
      (query.filling? goal).map fun found =>
        match found with
        | some filling => (some filling, { s with filled := s.filled + 1 })
        | none => (some (.hole goal true), { s with unresolved := true }) := by
  cases filling : query.filling? goal with
  | error fault =>
      simp [fillHole, filling]
      rfl
  | ok found =>
      cases found <;> simp [fillHole, filling] <;> rfl

/-- Filling a leaf, unless that leaves a hole. -/
theorem fills_of_run {leaf : Term} (isLeaf : leaf.isLeaf = true) {s s' : FillingState}
    (ran : (rewriteM (fillHole query) leaf).run s = .ok (u, s'))
    (done : s'.unresolved = false) :
    s.unresolved = false ∧ Fills query leaf u ∧
      s'.filled = s.filled + [leaf].countP isDependentHole := by
  cases isHole : leaf.isDependentHole with
  | false =>
      obtain ⟨rfl, rfl⟩ := (run_rewriteM_leaf_of_passes isLeaf (passes_fillHole isHole)).1 ran
      exact ⟨done, Or.inr ⟨isHole, rfl⟩, by simp [isHole]⟩
  | true =>
      match leaf, isHole with
      | .hole goal true, _ =>
          have holes : [Term.hole goal true].countP isDependentHole = 1 := rfl
          rw [run_rewriteM_leaf_iff isLeaf, run_fillHole] at ran
          cases filling : query.filling? goal with
          | error fault => simp [filling, Except.map] at ran
          | ok found =>
              cases found with
              | none =>
                  obtain ⟨_, rfl⟩ : Term.hole goal true = u ∧
                      { s with unresolved := true } = s' := by
                    simpa [filling, Except.map] using ran
                  simp at done
              | some v =>
                  obtain ⟨rfl, rfl⟩ : v = u ∧ { s with filled := s.filled + 1 } = s' := by
                    simpa [filling, Except.map] using ran
                  exact ⟨done, Or.inl ⟨goal, rfl, filling⟩, by rw [holes]⟩

/-- A program that comes of filling is the program with its dependent holes
replaced, all of which are counted. -/
theorem replaced_of_fillDependent
    (resolved : t.fillDependent query = .ok (some u, filled)) :
    Replaced (Fills query) t u ∧ filled = t.dependentHoles := by
  unfold fillDependent at resolved
  obtain ⟨⟨v, state⟩, ran, given⟩ := Attempt.bind_eq_ok_iff.1 resolved
  cases unresolved : state.unresolved with
  | true => simp [unresolved, pure, Except.pure] at given
  | false =>
      obtain ⟨rfl, rfl⟩ : v = u ∧ state.filled = filled := by
        simpa [unresolved, pure, Except.pure] using given
      obtain ⟨_, replaced, counted⟩ :=
        replaced_of_run_rewriteM (fun s : FillingState => s.unresolved = false)
          FillingState.filled
          (fun node inner => passes_fillHole (isDependentHole_of_inner inner))
          (fun node => isDependentHole_of_inner)
          (fun leaf _ isLeaf s u s' => fills_of_run isLeaf) ran unresolved
      refine ⟨replaced, counted.trans ?_⟩
      exact Nat.zero_add _

end Term

end FunctionSynthesis
