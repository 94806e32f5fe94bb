import FunctionSynthesis.Proofs.Attempt
import FunctionSynthesis.Proofs.Term.Children

/-!
# Rewriting with a state

What a rewriting from the top down gives, node by node, when the replacements
depend on a state and may fail: the direct subterms of a node that is not replaced
are rewritten from left to right (`run_rewriteM_of_passes_iff`).
-/

namespace FunctionSynthesis.Term

/-! ### Rewriting by direct subterms -/

section Equations

variable {m : Type → Type} [Monad m] [LawfulMonad m] (replace : Term → m (Option Term))

theorem rewriteAllM_eq_mapM (ts : List Term) :
    rewriteAllM replace ts = ts.mapM (rewriteM replace) := by
  induction ts with
  | nil => rfl
  | cons t ts inductionHypothesis =>
      rw [rewriteAllM, List.mapM_cons, inductionHypothesis]

theorem mapM_flattenEntries (es : List (Term × Term)) :
    (flattenEntries es).mapM (rewriteM replace) =
      flattenEntries <$> rewriteEntriesM replace es := by
  induction es with
  | nil => simp [flattenEntries, rewriteEntriesM]
  | cons entry es inductionHypothesis =>
      simp [flattenEntries, rewriteEntriesM, List.mapM_cons, inductionHypothesis, monad_norm]

/-- A node is replaced, or else its direct subterms are rewritten from left to right. -/
theorem rewriteM_eq (t : Term) :
    rewriteM replace t = replacedOr (replace t) fun _ =>
      t.withChildren <$> t.children.mapM (rewriteM replace) := by
  cases t with
  | call r name as =>
      simp only [rewriteM, children, List.mapM_cons, rewriteAllM_eq_mapM]
      congr 1
      funext _
      simp [withChildren, withChildren?]
  | field r name as =>
      simp only [rewriteM, children, List.mapM_cons, rewriteAllM_eq_mapM]
      congr 1
      funext _
      simp [withChildren, withChildren?]
  | array ts =>
      simp only [rewriteM, children, rewriteAllM_eq_mapM]
      congr 1
      funext _
      have rebuilt : (array ts).withChildren = array := rfl
      simp [rebuilt]
  | record es =>
      have rebuilt (fs : List (Term × Term)) :
          (record es).withChildren (flattenEntries fs) = record fs := by
        simp [withChildren, withChildren?, pairEntries?_flattenEntries]
      simp only [rewriteM, children, mapM_flattenEntries]
      congr 1
      funext _
      simp [rebuilt]
  | slice r a b step =>
      simp only [rewriteM, children, List.mapM_cons]
      congr 1
      funext _
      cases step <;> simp [withChildren, withChildren?, rewriteStepM]
  | literal v => simp [rewriteM, children, withChildren, withChildren?]
  | var name => simp [rewriteM, children, withChildren, withChildren?]
  | hole g d => simp [rewriteM, children, withChildren, withChildren?]
  | filled g cs => simp [rewriteM, children, withChildren, withChildren?]
  | foreign => simp [rewriteM, children, withChildren, withChildren?]

end Equations

/-! ### Runs -/

variable {σ : Type}

theorem run_bind_eq_ok_iff {α β : Type} {first : StateT σ (Except Fault) α}
    {next : α → StateT σ (Except Fault) β} {s : σ} {result : β × σ} :
    (first >>= next).run s = .ok result ↔
      ∃ a s', first.run s = .ok (a, s') ∧ (next a).run s' = .ok result := by
  rw [StateT.run_bind, Attempt.bind_eq_ok_iff, Prod.exists]

theorem run_pure_eq_ok_iff {α : Type} {a b : α} {s s' : σ} :
    (pure a : StateT σ (Except Fault) α).run s = .ok (b, s') ↔ a = b ∧ s = s' := by
  rw [StateT.run_pure, Attempt.pure_eq_ok_iff, Prod.mk.injEq]

variable {replace : Term → StateT σ (Except Fault) (Option Term)}

/-- Whether a node is left to its parts. -/
def Passes (replace : Term → StateT σ (Except Fault) (Option Term)) (t : Term) : Prop :=
  ∀ s, (replace t).run s = .ok (none, s)

theorem run_replacedOr_of_passes {t : Term} (passes : Passes replace t)
    (descend : Unit → StateT σ (Except Fault) Term) (s : σ) :
    (replacedOr (replace t) descend).run s = (descend ()).run s := by
  unfold replacedOr
  rw [StateT.run_bind, passes s]
  rfl

variable {s s' : σ} {u : Term}

/-- A node without parts is replaced or left as it is. -/
theorem run_rewriteM_leaf_iff {t : Term} (leaf : t.isLeaf = true) :
    (rewriteM replace t).run s = .ok (u, s') ↔
      (replace t).run s = .ok (some u, s') ∨
        (replace t).run s = .ok (none, s') ∧ t = u := by
  have unfolded : rewriteM replace t = replacedOr (replace t) fun _ => pure t := by
    cases t <;> first | rfl | simp [isLeaf] at leaf
  rw [unfolded, replacedOr, run_bind_eq_ok_iff]
  constructor
  · rintro ⟨replacement, s₁, replaced, rest⟩
    cases replacement with
    | none =>
        obtain ⟨rfl, rfl⟩ := run_pure_eq_ok_iff.1 rest
        exact Or.inr ⟨replaced, rfl⟩
    | some v =>
        obtain ⟨rfl, rfl⟩ := run_pure_eq_ok_iff.1 rest
        exact Or.inl replaced
  · rintro (replaced | ⟨passed, rfl⟩)
    · exact ⟨some u, s', replaced, run_pure_eq_ok_iff.2 ⟨rfl, rfl⟩⟩
    · exact ⟨none, s', passed, run_pure_eq_ok_iff.2 ⟨rfl, rfl⟩⟩

theorem run_rewriteM_leaf_of_passes {t : Term} (leaf : t.isLeaf = true)
    (passes : Passes replace t) :
    (rewriteM replace t).run s = .ok (u, s') ↔ t = u ∧ s = s' := by
  rw [run_rewriteM_leaf_iff leaf, passes s]
  simp [and_comm]

theorem run_rewriteAllM_nil_iff {ts' : List Term} :
    (rewriteAllM replace []).run s = .ok (ts', s') ↔ [] = ts' ∧ s = s' := by
  rw [rewriteAllM, run_pure_eq_ok_iff]

theorem run_rewriteAllM_cons_iff {t : Term} {ts us : List Term} :
    (rewriteAllM replace (t :: ts)).run s = .ok (us, s') ↔
      ∃ t' s₁ ts', (rewriteM replace t).run s = .ok (t', s₁) ∧
        (rewriteAllM replace ts).run s₁ = .ok (ts', s') ∧ t' :: ts' = us := by
  rw [rewriteAllM]
  simp only [run_bind_eq_ok_iff, run_pure_eq_ok_iff]
  constructor
  · rintro ⟨t', s₁, first, ts', s₂, rest, rfl, rfl⟩
    exact ⟨t', s₁, ts', first, rest, rfl⟩
  · rintro ⟨t', s₁, ts', first, rest, rfl⟩
    exact ⟨t', s₁, first, ts', s', rest, rfl, rfl⟩

theorem length_of_run_rewriteAllM {ts us : List Term}
    (ran : (rewriteAllM replace ts).run s = .ok (us, s')) : us.length = ts.length := by
  induction ts generalizing us s with
  | nil => rw [(run_rewriteAllM_nil_iff.1 ran).1]
  | cons t ts ih =>
      obtain ⟨t', s₁, ts', _, rest, rfl⟩ := run_rewriteAllM_cons_iff.1 ran
      rw [List.length_cons, List.length_cons, ih rest]

/-- The direct subterms of a node that is not replaced are rewritten in turn. -/
theorem run_rewriteM_of_passes_iff {t : Term} (passes : Passes replace t) :
    (rewriteM replace t).run s = .ok (u, s') ↔
      ∃ parts, (rewriteAllM replace t.children).run s = .ok (parts, s') ∧
        t.withChildren parts = u := by
  rw [rewriteM_eq, run_replacedOr_of_passes passes, rewriteAllM_eq_mapM, map_eq_pure_bind]
  simp only [run_bind_eq_ok_iff, run_pure_eq_ok_iff]
  constructor
  · rintro ⟨parts, s₁, all, rfl, rfl⟩
    exact ⟨parts, all, rfl⟩
  · rintro ⟨parts, all, rfl⟩
    exact ⟨parts, s', all, rfl, rfl⟩

end FunctionSynthesis.Term
