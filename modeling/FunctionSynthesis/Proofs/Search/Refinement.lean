import Mathlib.Data.List.ProdSigma
import FunctionSynthesis.Proofs.Search.Steps
import FunctionSynthesis.Proofs.Term.Replacement

/-!
# Refinements of a program

`Term.refinements` lists what comes of a program when every regular hole is
replaced by one of the fillings for its goal. Expanding the holes of a program and
choosing among the fillings gives the same programs in the same order
(`attempts_eq_map_refinements`).
-/

namespace FunctionSynthesis

namespace Search

theorem selections_append (first second : List Nat) :
    selections (first ++ second) =
      ((selections first).product (selections second)).map fun both =>
        both.1 ++ both.2 := by
  induction first with
  | nil => simp [selections, List.product, Function.comp_def]
  | cons count first ih =>
      simp only [List.cons_append, selections, ih, List.product, List.flatMap_assoc,
        List.flatMap_map, List.map_flatMap, List.map_map]
      rfl

end Search

namespace Term

/-! ### Refinements -/

mutual

/-- The programs that come of a term when each regular hole is replaced by one of
the fillings for its goal. -/
def refinements (fillings : Ty → List Term) : Term → List Term
  | .hole goal false => fillings goal
  | .call r m as =>
      ((refinements fillings r).product (refinementsOfAll fillings as)).map fun parts =>
        .call parts.1 m parts.2
  | .field r name as =>
      ((refinements fillings r).product (refinementsOfAll fillings as)).map fun parts =>
        .field parts.1 name parts.2
  | .array ts => (refinementsOfAll fillings ts).map .array
  | .record es => (refinementsOfEntries fillings es).map .record
  | .slice r a b step =>
      ((refinements fillings r).product ((refinements fillings a).product
        ((refinements fillings b).product (refinementsOfStep fillings step)))).map
        fun parts => .slice parts.1 parts.2.1 parts.2.2.1 parts.2.2.2
  | t => [t]
termination_by structural t => t

def refinementsOfAll (fillings : Ty → List Term) : List Term → List (List Term)
  | [] => [[]]
  | t :: ts =>
      ((refinements fillings t).product (refinementsOfAll fillings ts)).map fun parts =>
        parts.1 :: parts.2
termination_by structural ts => ts

def refinementsOfEntries (fillings : Ty → List Term) :
    List (Term × Term) → List (List (Term × Term))
  | [] => [[]]
  | (k, v) :: es =>
      ((refinements fillings k).product ((refinements fillings v).product
        (refinementsOfEntries fillings es))).map fun parts =>
        (parts.1, parts.2.1) :: parts.2.2
termination_by structural es => es

def refinementsOfStep (fillings : Ty → List Term) : Option Term → List (Option Term)
  | none => [none]
  | some s => (refinements fillings s).map some
termination_by structural s => s

end

/-- Whether a node lists no candidates. -/
def isUnfilled : Term → Bool
  | .filled _ _ => false
  | _ => true

theorem isUnfilled_of_inner {t : Term} (inner : t.isLeaf = false) :
    t.isUnfilled = true := by
  cases t <;> first | rfl | simp [isLeaf] at inner

theorem regularHoles_of_inner {t : Term} (inner : t.isLeaf = false) :
    t.regularHoles = (t.children.map regularHoles).sum := by
  rw [regularHoles, countP_walk, isRegularHole_of_inner inner]
  exact Nat.zero_add _

theorem regularHoles_of_leaf {t : Term} (leaf : t.isLeaf = true)
    (notHole : t.isRegularHole = false) : t.regularHoles = 0 := by
  rw [regularHoles, walk_of_isLeaf leaf, List.countP_singleton, notHole]
  rfl

/-- A leaf that is not a regular hole has itself as its only refinement. -/
theorem refinements_of_leaf {t : Term} (leaf : t.isLeaf = true)
    (noHole : t.isRegularHole = false) (fillings : Ty → List Term) :
    t.refinements fillings = [t] := by
  cases t with
  | hole goal dependent =>
      cases dependent with
      | false => simp [isRegularHole] at noHole
      | true => rfl
  | _ => first | rfl | simp [isLeaf] at leaf

/-! ### Expansion and choice -/

variable {expander : Expander} {query : Query}

/-- The fillings of a hole, as far as it can be expanded. -/
def fillings (expander : Expander) (query : Query) (goal : Ty) : List Term :=
  match expander query goal with
  | .ok ts => ts
  | .error _ => []

theorem passes_expandHole {t : Term} (notHole : ∀ goal dependent, t ≠ .hole goal dependent) :
    Passes (expandHole expander query) t := by
  intro s
  cases t with
  | hole goal dependent => exact absurd rfl (notHole goal dependent)
  | _ => rfl

theorem passes_pick {t : Term} (unfilled : t.isUnfilled = true) : Passes pick t := by
  intro s
  cases t with
  | filled goal candidates => exact absurd unfilled Bool.false_ne_true
  | _ => rfl

/-- Whether the selections for some counts choose the results, in their order. -/
def Chooses {α : Type} (choice : StateT (List Int) (Except Fault) α)
    (counts : List Nat) (results : List α) : Prop :=
  List.Forall₂ (fun selection result =>
    ∀ rest, choice.run (selection ++ rest) = .ok (result, rest))
    (Search.selections counts) results

/-- Whether expanding something with so many regular holes, and then choosing for
each of them, gives the results in their order. -/
def Refines {α : Type} (expansion : StateT (List Nat) (Except Fault) α)
    (choice : α → StateT (List Int) (Except Fault) α) (holes : Nat)
    (results : List α) : Prop :=
  ∀ before expanded after, expansion.run before = .ok (expanded, after) →
    ∃ counts, after = before ++ counts ∧ counts.length = holes ∧
      Chooses (choice expanded) counts results

/-- Two steps with a pair as the result. -/
def both {σ α β : Type} (first : StateT σ (Except Fault) α)
    (second : StateT σ (Except Fault) β) : StateT σ (Except Fault) (α × β) := do
  return (← first, ← second)

theorem run_both_iff {σ α β : Type} {first : StateT σ (Except Fault) α}
    {second : StateT σ (Except Fault) β} {s s' : σ} {result : α × β} :
    (both first second).run s = .ok (result, s') ↔
      ∃ s₁, first.run s = .ok (result.1, s₁) ∧ second.run s₁ = .ok (result.2, s') := by
  obtain ⟨a, b⟩ := result
  simp only [both, run_bind_eq_ok_iff, run_pure_eq_ok_iff, Prod.mk.injEq]
  constructor
  · rintro ⟨a', s₁, here, b', s₂, there, ⟨rfl, rfl⟩, rfl⟩
    exact ⟨s₁, here, there⟩
  · rintro ⟨s₁, here, there⟩
    exact ⟨a, s₁, here, b, s', there, ⟨rfl, rfl⟩, rfl⟩

theorem refines_both {α β : Type} {first : StateT (List Nat) (Except Fault) α}
    {second : StateT (List Nat) (Except Fault) β}
    {choice : α → StateT (List Int) (Except Fault) α}
    {choice' : β → StateT (List Int) (Except Fault) β} {m n : Nat}
    {results : List α} {results' : List β} (left : Refines first choice m results)
    (right : Refines second choice' n results') :
    Refines (both first second) (fun expanded => both (choice expanded.1) (choice' expanded.2))
      (m + n) (results.product results') := by
  intro before expanded after ran
  obtain ⟨between, ranFirst, ranSecond⟩ := run_both_iff.1 ran
  obtain ⟨counts, rfl, rfl, chosen⟩ := left _ _ _ ranFirst
  obtain ⟨counts', rfl, rfl, chosen'⟩ := right _ _ _ ranSecond
  refine ⟨counts ++ counts', List.append_assoc _ _ _, List.length_append, ?_⟩
  unfold Chooses
  rw [Search.selections_append, List.forall₂_map_left_iff]
  refine List.rel_flatMap chosen fun selection a here => ?_
  rw [List.forall₂_map_left_iff, List.forall₂_map_right_iff]
  refine chosen'.imp fun selection' b there rest => ?_
  rw [List.append_assoc]
  exact run_both_iff.2 ⟨_, here _, there rest⟩

/-- What is made of parts is refined as they are. -/
theorem refines_map {α β : Type} {parts : StateT (List Nat) (Except Fault) α}
    {whole : StateT (List Nat) (Except Fault) β}
    {choice : α → StateT (List Int) (Except Fault) α}
    {choice' : β → StateT (List Int) (Except Fault) β} {n : Nat} {results : List α}
    (make : α → β)
    (taken : ∀ s u s', whole.run s = .ok (u, s') →
      ∃ a, parts.run s = .ok (a, s') ∧ make a = u)
    (chosen : ∀ before a after, parts.run before = .ok (a, after) →
      ∀ s b s', (choice a).run s = .ok (b, s') →
        (choice' (make a)).run s = .ok (make b, s'))
    (refines : Refines parts choice n results) :
    Refines whole choice' n (results.map make) := by
  intro before expanded after ran
  obtain ⟨a, ranParts, rfl⟩ := taken _ _ _ ran
  obtain ⟨counts, rfl, length, chooses⟩ := refines _ _ _ ranParts
  refine ⟨counts, rfl, length, ?_⟩
  unfold Chooses at chooses ⊢
  rw [List.forall₂_map_right_iff]
  exact chooses.imp fun selection b here rest =>
    chosen _ _ _ ranParts _ _ _ (here rest)

/-- What is not expanded has one refinement. -/
theorem refines_of_passes {α : Type} {expansion : StateT (List Nat) (Except Fault) α}
    {choice : α → StateT (List Int) (Except Fault) α} {a : α}
    (expands : ∀ s u s', expansion.run s = .ok (u, s') → a = u ∧ s = s')
    (chosen : ∀ s, (choice a).run s = .ok (a, s)) : Refines expansion choice 0 [a] := by
  intro before expanded after ran
  obtain ⟨rfl, rfl⟩ := expands _ _ _ ran
  exact ⟨[], (List.append_nil _).symm, rfl, .cons (fun rest => chosen rest) .nil⟩

theorem forall₂_range_getElem? {α : Type} (items : List α) :
    List.Forall₂ (fun i item => items[i]? = some item) (List.range items.length) items := by
  refine List.forall₂_iff_get.2 ⟨List.length_range, fun i below here => ?_⟩
  simp [List.getElem?_eq_getElem here]

theorem run_pick_filled (goal : Ty) {candidates : List Term} {candidate : Term}
    {position : Int} (picked : itemAt? candidates position = some candidate)
    (rest : List Int) :
    (pick (.filled goal candidates)).run (position :: rest) =
      .ok (some candidate, rest) := by
  simp only [pick, run_bind_eq_ok_iff]
  refine ⟨position :: rest, position :: rest, rfl, ?_⟩
  dsimp only
  rw [picked]
  rfl

/-- A regular hole is refined to its fillings. -/
theorem refines_hole (goal : Ty) :
    Refines (rewriteM (expandHole expander query) (.hole goal false)) (rewriteM pick) 1
      (fillings expander query goal) := by
  intro before expanded after ran
  have expands : (expandHole expander query (.hole goal false)).run before =
      (expander query goal).map fun candidates =>
        (some (.filled goal candidates), before ++ [candidates.length]) := by
    cases found : expander query goal <;> simp [expandHole, found] <;> rfl
  rw [run_rewriteM_leaf_iff rfl, expands] at ran
  unfold fillings
  cases found : expander query goal with
  | error fault => simp [found, Except.map] at ran
  | ok candidates =>
      obtain ⟨rfl, rfl⟩ : Term.filled goal candidates = expanded ∧
          before ++ [candidates.length] = after := by
        simpa [found, Except.map] using ran
      refine ⟨[candidates.length], rfl, rfl, ?_⟩
      unfold Chooses
      have numbers : Search.selections [candidates.length] =
          (List.range candidates.length).map fun (i : Nat) => [Int.ofNat i] := by
        simp [Search.selections, List.map_eq_flatMap]
      rw [numbers, List.forall₂_map_left_iff]
      refine (forall₂_range_getElem? candidates).imp fun i candidate here rest => ?_
      have picked : itemAt? candidates (Int.ofNat i) = some candidate := by
        have nonnegative : ¬ (i : Int) < 0 := by omega
        simp [itemAt?, nonnegative, here]
      rw [run_rewriteM_leaf_iff rfl]
      exact Or.inl (run_pick_filled goal picked rest)

/-! ### Terms -/

/-- Whether the refinements of a term are what expansion and choice give. -/
def IsRefined (expander : Expander) (query : Query) (t : Term) : Prop :=
  Refines (rewriteM (expandHole expander query) t) (rewriteM pick) t.regularHoles
    (t.refinements (fillings expander query))

theorem refines_rewriteAllM {ts : List Term}
    (each : ∀ t ∈ ts, IsRefined expander query t) :
    Refines (rewriteAllM (expandHole expander query) ts) (rewriteAllM pick)
      (ts.map regularHoles).sum (refinementsOfAll (fillings expander query) ts) := by
  induction ts with
  | nil =>
      exact refines_of_passes (fun _ _ _ => run_rewriteAllM_nil_iff.1)
        fun _ => run_rewriteAllM_nil_iff.2 ⟨rfl, rfl⟩
  | cons t ts ih =>
      obtain ⟨here, rest⟩ := List.forall_mem_cons.1 each
      refine refines_map (fun parts => parts.1 :: parts.2) ?_ ?_
        (refines_both here (ih rest))
      · intro s u s' ran
        obtain ⟨t', s₁, ts', first, second, rfl⟩ := run_rewriteAllM_cons_iff.1 ran
        exact ⟨(t', ts'), run_both_iff.2 ⟨s₁, first, second⟩, rfl⟩
      · intro _ parts _ _ s chosen s' ran
        obtain ⟨s₁, first, second⟩ := run_both_iff.1 ran
        exact run_rewriteAllM_cons_iff.2 ⟨_, s₁, _, first, second, rfl⟩

theorem run_expandHole_of_leaf {leaf : Term} (isLeaf : leaf.isLeaf = true)
    (notHole : leaf.isRegularHole = false) (s : List Nat) :
    (rewriteM (expandHole expander query) leaf).run s = .ok (leaf, s) := by
  cases leaf with
  | hole goal dependent =>
      cases dependent with
      | false => simp [isRegularHole] at notHole
      | true => rfl
  | _ => first | rfl | simp [Term.isLeaf] at isLeaf

theorem refines_leaf {t : Term} (leaf : t.isLeaf = true)
    (unfilled : t.isUnfilled = true) (noHole : t.isRegularHole = false) :
    IsRefined expander query t := by
  unfold IsRefined
  rw [regularHoles_of_leaf leaf noHole, refinements_of_leaf leaf noHole]
  refine refines_of_passes (fun s u s' ran => ?_) fun s => ?_
  · rw [run_expandHole_of_leaf leaf noHole] at ran
    exact Prod.mk.inj (Except.ok.inj ran)
  · rw [run_rewriteM_leaf_iff leaf]
    exact Or.inr ⟨passes_pick unfilled s, rfl⟩

/-- The refinements of a node with subterms are made of those of the subterms. -/
theorem refinements_of_inner {t : Term} (inner : t.isLeaf = false)
    (fillings : Ty → List Term) :
    t.refinements fillings = (refinementsOfAll fillings t.children).map t.withChildren := by
  have entries (es : List (Term × Term)) :
      refinementsOfAll fillings (flattenEntries es) =
        (refinementsOfEntries fillings es).map flattenEntries := by
    induction es with
    | nil => rfl
    | cons entry es ih =>
        obtain ⟨k, v⟩ := entry
        simp [flattenEntries, refinementsOfAll, refinementsOfEntries, ih, List.product,
          List.map_flatMap, Function.comp_def]
  cases t with
  | call r m as =>
      simp [refinements, children, refinementsOfAll, withChildren, withChildren?,
        Function.comp_def]
  | field r name as =>
      simp [refinements, children, refinementsOfAll, withChildren, withChildren?,
        Function.comp_def]
  | array ts =>
      simp [refinements, children, withChildren, withChildren?]
  | record es =>
      simp [refinements, children, entries, withChildren, withChildren?,
        pairEntries?_flattenEntries, Function.comp_def]
  | slice r a b step =>
      cases step with
      | none =>
          simp [refinements, children, refinementsOfAll, refinementsOfStep, withChildren,
            withChildren?, List.product, List.map_flatMap]
      | some last =>
          simp [refinements, children, refinementsOfAll, refinementsOfStep, withChildren,
            withChildren?, List.product, List.map_flatMap, Function.comp_def]
          simp only [List.map_eq_flatMap]
  | _ => simp [isLeaf] at inner

/-- Expanding the holes of a term and choosing among their fillings gives its
refinements. -/
theorem refines_rewriteM (t : Term)
    (unfilled : t.Everywhere fun node => node.isUnfilled = true) :
    IsRefined expander query t := by
  induction t using inductionOnChildren with
  | node t ih =>
      rw [everywhere_iff_children] at unfilled
      cases leaf : t.isLeaf with
      | true =>
          cases isHole : t.isRegularHole with
          | false => exact refines_leaf leaf unfilled.1 isHole
          | true =>
              match t, isHole with
              | .hole goal false, _ => exact refines_hole goal
      | false =>
          have passes : Passes (expandHole expander query) t :=
            passes_expandHole fun goal dependent same => by
              rw [same] at leaf
              simp [isLeaf] at leaf
          unfold IsRefined
          rw [regularHoles_of_inner leaf, refinements_of_inner leaf]
          refine refines_map t.withChildren ?_ ?_
            (refines_rewriteAllM fun part inside => ih part inside (unfilled.2 part inside))
          · intro s u s' ran
            exact (run_rewriteM_of_passes_iff passes).1 ran
          · intro _ parts _ expanded s chosen s' ran
            have length := length_of_run_rewriteAllM expanded
            have inner : (t.withChildren parts).isLeaf = false := by
              rw [isLeaf_withChildren, leaf]
            have passes : Passes pick (t.withChildren parts) :=
              passes_pick (isUnfilled_of_inner inner)
            rw [run_rewriteM_of_passes_iff passes, children_withChildren length]
            exact ⟨chosen, ran, withChildren_withChildren length
              ((length_of_run_rewriteAllM ran).trans length)⟩

/-! ### Refinements as replacements -/

/-- Whether a leaf is refined to a term: a regular hole to one of its fillings, any
other leaf to itself. -/
def Refills (fillings : Ty → List Term) (leaf u : Term) : Prop :=
  (∃ goal, leaf = .hole goal false ∧ u ∈ fillings goal) ∨
    (leaf.isRegularHole = false ∧ u = leaf)

theorem mem_refinementsOfAll {fillings : Ty → List Term} {ts us : List Term} :
    us ∈ refinementsOfAll fillings ts ↔
      List.Forall₂ (fun t u => u ∈ t.refinements fillings) ts us := by
  induction ts generalizing us with
  | nil => simp [refinementsOfAll]
  | cons t ts ih =>
      simp only [refinementsOfAll, List.mem_map, Prod.exists, List.pair_mem_product,
        List.forall₂_cons_left_iff, ← ih]
      constructor
      · rintro ⟨u, us, ⟨here, rest⟩, rfl⟩
        exact ⟨u, us, here, rest, rfl⟩
      · rintro ⟨u, us, here, rest, rfl⟩
        exact ⟨u, us, ⟨here, rest⟩, rfl⟩

/-- A refinement of a term is the term with its regular holes replaced. -/
theorem replaced_of_mem_refinements {fillings : Ty → List Term} {t u : Term}
    (refined : u ∈ t.refinements fillings) : Replaced (Refills fillings) t u := by
  induction t using inductionOnChildren generalizing u with
  | node t ih =>
      cases leaf : t.isLeaf with
      | true =>
          refine .leaf leaf ?_
          cases isHole : t.isRegularHole with
          | true =>
              match t, isHole with
              | .hole goal false, _ => exact Or.inl ⟨goal, rfl, refined⟩
          | false =>
              rw [refinements_of_leaf leaf isHole, List.mem_singleton] at refined
              exact Or.inr ⟨isHole, refined⟩
      | false =>
          rw [refinements_of_inner leaf, List.mem_map] at refined
          obtain ⟨parts, inside, rfl⟩ := refined
          refine .inner leaf (List.forall₂_iff_get.2 ?_)
          have pairs := mem_refinementsOfAll.1 inside
          exact ⟨pairs.length_eq, fun i here there =>
            ih _ (List.get_mem _ _) (pairs.get here there)⟩

/-- A term without regular holes has itself as its only refinement. -/
theorem refinements_of_regularHoles_eq_zero {t : Term} (none : t.regularHoles = 0)
    (fillings : Ty → List Term) : t.refinements fillings = [t] := by
  induction t using inductionOnChildren with
  | node t ih =>
      rw [regularHoles, countP_walk, Nat.add_eq_zero_iff, List.sum_eq_zero_iff] at none
      cases leaf : t.isLeaf with
      | true =>
          refine refinements_of_leaf leaf ?_ fillings
          simpa using none.1
      | false =>
          have each : ∀ part ∈ t.children, part.refinements fillings = [part] :=
            fun part inside => ih part inside (none.2 _ (List.mem_map_of_mem inside))
          have all : ∀ ts : List Term, (∀ part ∈ ts, part.refinements fillings = [part]) →
              refinementsOfAll fillings ts = [ts] := by
            intro ts
            induction ts with
            | nil => exact fun _ => rfl
            | cons part ts ih =>
                intro each
                obtain ⟨here, rest⟩ := List.forall_mem_cons.1 each
                rw [refinementsOfAll, here, ih rest]
                rfl
          rw [refinements_of_inner leaf, all t.children each, List.map_singleton,
            withChildren_children]

end Term

namespace Search

variable {σ : Type} {plan : Plan σ}

/-- The candidates that come of a program whose holes can be expanded are its
refinements. -/
theorem attempts_eq_map_refinements {program : Term} {expansion : Term × List Nat}
    (unfilled : program.Everywhere fun node => node.isUnfilled = true)
    (expanded : program.expandHoles plan.expander plan.query = .ok expansion) :
    plan.attempts program =
      (program.refinements (Term.fillings plan.expander plan.query)).map .ok := by
  obtain ⟨counts, same, holes, chosen⟩ :=
    Term.refines_rewriteM program unfilled [] _ _ expanded
  rw [List.nil_append] at same
  unfold Plan.attempts
  rw [expanded]
  dsimp only
  rw [same]
  cases counts with
  | nil =>
      rw [Term.refinements_of_regularHoles_eq_zero holes.symm]
      rfl
  | cons count counts =>
      rw [if_neg (by simp), ← List.forall₂_eq_eq_eq, List.forall₂_map_left_iff,
        List.forall₂_map_right_iff]
      refine chosen.imp fun selection candidate picked => ?_
      have run := picked []
      rw [List.append_nil] at run
      unfold Term.materialize
      change Prod.fst <$> (Term.rewriteM Term.pick expansion.1).run selection = _
      rw [run]
      rfl

/-- A program with a candidate that could be made has holes that can be expanded. -/
theorem exists_expansion_of_mem_attempts {program candidate : Term}
    (made : .ok candidate ∈ plan.attempts program) :
    ∃ expansion, program.expandHoles plan.expander plan.query = .ok expansion := by
  unfold Plan.attempts at made
  split at made
  next fault _ => simp at made
  next expanded => exact ⟨_, expanded⟩

end Search

end FunctionSynthesis
