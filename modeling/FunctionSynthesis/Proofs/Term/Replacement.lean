import Mathlib.Algebra.Order.BigOperators.Group.List
import Mathlib.Algebra.Order.Group.Nat
import FunctionSynthesis.Proofs.Term.Rewriting

/-!
# Replacement of leaves

Expansion, choice and filling put other terms in the place of some leaves of a
program and leave the nodes above as they are (`Replaced`). What holds of the nodes
and of all that is put in holds of the result, and numbers of nodes can be compared
leaf by leaf. A rewriting that leaves all nodes with subterms alone is such a
replacement, and what it counts at the leaves adds up (`replaced_of_run_rewriteM`).
-/

namespace FunctionSynthesis.Term

/-- Whether a term is another one with its leaves replaced, each by a term that is
related to it. -/
inductive Replaced (related : Term → Term → Prop) : Term → Term → Prop
  | leaf {t u : Term} : t.isLeaf = true → related t u → Replaced related t u
  | inner {t : Term} {parts : List Term} :
      t.isLeaf = false → List.Forall₂ (Replaced related) t.children parts →
      Replaced related t (t.withChildren parts)

/-- Terms are related to the parts of entries in turn when they are the parts of related
entries. -/
theorem forall₂_flattenEntries_iff {related : Term → Term → Prop} {es : List (Term × Term)}
    {parts : List Term} :
    List.Forall₂ related (flattenEntries es) parts ↔
      ∃ fs, parts = flattenEntries fs ∧ List.Forall₂ (fun entry entry' =>
        related entry.1 entry'.1 ∧ related entry.2 entry'.2) es fs := by
  constructor
  · intro pairs
    induction es generalizing parts with
    | nil =>
        obtain rfl := List.forall₂_nil_left_iff.1 pairs
        exact ⟨[], rfl, .nil⟩
    | cons entry es ih =>
        obtain ⟨key, others, ofKey, values, rfl⟩ := List.forall₂_cons_left_iff.1 pairs
        obtain ⟨value, rest, ofValue, below, rfl⟩ := List.forall₂_cons_left_iff.1 values
        obtain ⟨fs, rfl, paired⟩ := ih below
        exact ⟨(key, value) :: fs, rfl, .cons ⟨ofKey, ofValue⟩ paired⟩
  · rintro ⟨fs, rfl, paired⟩
    induction paired with
    | nil => exact .nil
    | cons here _ ih => exact .cons here.1 (.cons here.2 ih)

theorem mem_walk_of_mem_children {t part node : Term} (inside : part ∈ t.children)
    (below : node ∈ part.walk) : node ∈ t.walk := by
  rw [walk_eq_cons t]
  exact List.mem_cons_of_mem t (List.mem_flatMap_of_mem inside below)

namespace Replaced

variable {related : Term → Term → Prop} {t u : Term}

/-- What comes of a node with subterms. -/
theorem exists_parts (replaced : Replaced related t u) (inner : t.isLeaf = false) :
    ∃ parts, List.Forall₂ (Replaced related) t.children parts ∧
      u.isLeaf = false ∧ u.children = parts ∧ t.withChildren parts = u := by
  cases replaced with
  | leaf leaf _ => exact absurd leaf (by simp [inner])
  | inner _ pairs =>
      exact ⟨_, pairs, (isLeaf_withChildren t _).trans inner,
        children_withChildren pairs.length_eq.symm, rfl⟩

theorem related_of_leaf (replaced : Replaced related t u) (leaf : t.isLeaf = true) :
    related t u := by
  cases replaced with
  | leaf _ here => exact here
  | inner inner _ => exact absurd leaf (by simp [inner])

theorem call_iff {r : Term} {m : String} {as : List Term} :
    Replaced related (.call r m as) u ↔
      ∃ r' as', u = .call r' m as' ∧ Replaced related r r' ∧
        List.Forall₂ (Replaced related) as as' := by
  constructor
  · intro replaced
    obtain ⟨parts, pairs, _, _, rfl⟩ := replaced.exists_parts rfl
    obtain ⟨r', as', here, rest, rfl⟩ := List.forall₂_cons_left_iff.1 pairs
    exact ⟨r', as', rfl, here, rest⟩
  · rintro ⟨r', as', rfl, here, rest⟩
    have pairs : List.Forall₂ (Replaced related) (Term.call r m as).children (r' :: as') :=
      .cons here rest
    exact inner rfl pairs

theorem field_iff {r : Term} {name : String} {as : List Term} :
    Replaced related (.field r name as) u ↔
      ∃ r' as', u = .field r' name as' ∧ Replaced related r r' ∧
        List.Forall₂ (Replaced related) as as' := by
  constructor
  · intro replaced
    obtain ⟨parts, pairs, _, _, rfl⟩ := replaced.exists_parts rfl
    obtain ⟨r', as', here, rest, rfl⟩ := List.forall₂_cons_left_iff.1 pairs
    exact ⟨r', as', rfl, here, rest⟩
  · rintro ⟨r', as', rfl, here, rest⟩
    have pairs : List.Forall₂ (Replaced related) (Term.field r name as).children (r' :: as') :=
      .cons here rest
    exact inner rfl pairs

theorem array_iff {ts : List Term} :
    Replaced related (.array ts) u ↔
      ∃ us, u = .array us ∧ List.Forall₂ (Replaced related) ts us := by
  constructor
  · intro replaced
    obtain ⟨parts, pairs, _, _, rfl⟩ := replaced.exists_parts rfl
    exact ⟨parts, rfl, pairs⟩
  · rintro ⟨us, rfl, pairs⟩
    exact inner rfl pairs

theorem record_iff {es : List (Term × Term)} :
    Replaced related (.record es) u ↔
      ∃ fs, u = .record fs ∧ List.Forall₂ (fun entry entry' =>
        Replaced related entry.1 entry'.1 ∧ Replaced related entry.2 entry'.2) es fs := by
  have rebuilt (fs : List (Term × Term)) :
      (Term.record es).withChildren (flattenEntries fs) = .record fs := by
    simp [withChildren, withChildren?, pairEntries?_flattenEntries]
  constructor
  · intro replaced
    obtain ⟨parts, pairs, _, _, rfl⟩ := replaced.exists_parts rfl
    obtain ⟨fs, rfl, paired⟩ := forall₂_flattenEntries_iff.1 pairs
    exact ⟨fs, rebuilt fs, paired⟩
  · rintro ⟨fs, rfl, paired⟩
    rw [← rebuilt fs]
    exact inner rfl (forall₂_flattenEntries_iff.2 ⟨fs, rfl, paired⟩)

theorem slice_iff {r a b : Term} {step : Option Term} :
    Replaced related (.slice r a b step) u ↔
      ∃ r' a' b' step', u = .slice r' a' b' step' ∧ Replaced related r r' ∧
        Replaced related a a' ∧ Replaced related b b' ∧
        List.Forall₂ (Replaced related) step.toList step'.toList := by
  constructor
  · intro replaced
    obtain ⟨parts, pairs, _, _, rfl⟩ := replaced.exists_parts rfl
    obtain ⟨r', bounds, ofReceiver, pairs', rfl⟩ := List.forall₂_cons_left_iff.1 pairs
    obtain ⟨a', others, ofStart, pairs'', rfl⟩ := List.forall₂_cons_left_iff.1 pairs'
    obtain ⟨b', rest, ofStop, ofStep, rfl⟩ := List.forall₂_cons_left_iff.1 pairs''
    refine ⟨r', a', b', rest.head?, rfl, ofReceiver, ofStart, ofStop, ?_⟩
    match step, rest, ofStep with
    | none, [], _ => exact .nil
    | some _, [_], .cons here _ => exact .cons here .nil
  · rintro ⟨r', a', b', step', rfl, ofReceiver, ofStart, ofStop, ofStep⟩
    have pairs : List.Forall₂ (Replaced related) (Term.slice r a b step).children
        (r' :: a' :: b' :: step'.toList) :=
      .cons ofReceiver (.cons ofStart (.cons ofStop ofStep))
    have rebuilt : (Term.slice r a b step).withChildren (r' :: a' :: b' :: step'.toList) =
        .slice r' a' b' step' := by
      cases step' <;> rfl
    rw [← rebuilt]
    exact inner rfl pairs

/-- A term of which no leaf is replaced by another term stays as it is. -/
theorem eq_self (replaced : Replaced related t u)
    (leaves : ∀ leaf ∈ t.walk, leaf.isLeaf = true → ∀ v, related leaf v → v = leaf) :
    u = t := by
  induction t using inductionOnChildren generalizing u with
  | node t ih =>
      cases isLeaf : t.isLeaf with
      | true =>
          exact leaves t (by simp [walk_eq_cons t]) isLeaf u (replaced.related_of_leaf isLeaf)
      | false =>
          obtain ⟨parts, pairs, _, _, rfl⟩ := replaced.exists_parts isLeaf
          have same : parts = t.children := by
            rw [← List.forall₂_eq_eq_eq]
            refine List.forall₂_iff_get.2 ⟨pairs.length_eq.symm, fun i there here => ?_⟩
            have member : t.children.get ⟨i, here⟩ ∈ t.children := List.get_mem _ _
            exact ih _ member (pairs.get here there) fun leaf below =>
              leaves leaf (mem_walk_of_mem_children member below)
          rw [same, withChildren_children]

/-- A condition that holds everywhere in a term becomes one that holds everywhere in the
result if every node with subterms meets that after its subterms are exchanged, and so does
all that is put in. -/
theorem everywhere_of_everywhere {before after : Term → Prop} (replaced : Replaced related t u)
    (inner : ∀ node parts, node.isLeaf = false → before node → after (node.withChildren parts))
    (leaves : ∀ leaf, leaf.isLeaf = true → before leaf → ∀ v, related leaf v →
      Everywhere after v)
    (everywhere : Everywhere before t) : Everywhere after u := by
  induction t using inductionOnChildren generalizing u with
  | node t ih =>
      obtain ⟨here, below⟩ := (everywhere_iff_children t).1 everywhere
      cases isLeaf : t.isLeaf with
      | true => exact leaves t isLeaf here u (replaced.related_of_leaf isLeaf)
      | false =>
          obtain ⟨parts, pairs, _, children, rfl⟩ := replaced.exists_parts isLeaf
          rw [everywhere_iff_children, children]
          refine ⟨inner t parts isLeaf here, fun part inside => ?_⟩
          obtain ⟨old, member, replacement⟩ := Attempt.exists_of_mem_right pairs inside
          exact ih old member replacement (below old member)

/-- What holds of all nodes with subterms and of all that is put in holds everywhere
in the result. -/
theorem everywhere {condition : Term → Prop} (replaced : Replaced related t u)
    (inner : ∀ node, node.isLeaf = false → condition node)
    (leaves : ∀ leaf ∈ t.walk, leaf.isLeaf = true → ∀ v, related leaf v →
      Everywhere condition v) :
    Everywhere condition u := by
  have inside : Everywhere (fun node => node ∈ t.walk) t := fun _ => id
  refine replaced.everywhere_of_everywhere (fun node parts isInner _ => ?_)
    (fun leaf isLeaf member v => leaves leaf member isLeaf v) inside
  exact inner _ ((isLeaf_withChildren node parts).trans isInner)

/-- The nodes of one kind are no more than those of another kind in the result, if
they are so at every leaf and all nodes with subterms are of the other kind. -/
theorem countP_le {before after : Term → Bool} (replaced : Replaced related t u)
    (inner : ∀ node, node.isLeaf = false → after node = true)
    (leaves : ∀ leaf ∈ t.walk, leaf.isLeaf = true → ∀ v, related leaf v →
      [leaf].countP before ≤ v.walk.countP after) :
    t.walk.countP before ≤ u.walk.countP after := by
  induction t using inductionOnChildren generalizing u with
  | node t ih =>
      have self : t ∈ t.walk := by simp [walk_eq_cons t]
      cases isLeaf : t.isLeaf with
      | true =>
          rw [walk_of_isLeaf isLeaf]
          exact leaves t self isLeaf u (replaced.related_of_leaf isLeaf)
      | false =>
          obtain ⟨parts, pairs, innerNode, children, _⟩ := replaced.exists_parts isLeaf
          have below : (t.children.map fun part => part.walk.countP before).sum ≤
              (parts.map fun part => part.walk.countP after).sum := by
            refine List.Forall₂.sum_le_sum ?_
            rw [List.forall₂_map_left_iff, List.forall₂_map_right_iff]
            refine List.forall₂_iff_get.2 ⟨pairs.length_eq, fun i here there => ?_⟩
            have member : t.children.get ⟨i, here⟩ ∈ t.children := List.get_mem _ _
            exact ih _ member (pairs.get here there) fun leaf inside =>
              leaves leaf (mem_walk_of_mem_children member inside)
          rw [countP_walk before t, countP_walk after u, children, inner u innerNode]
          refine Nat.add_le_add ?_ below
          split <;> simp

/-- Every leaf is replaced by something. -/
theorem exists_related (replaced : Replaced related t u) {leaf : Term} (inside : leaf ∈ t.walk)
    (isLeaf : leaf.isLeaf = true) : ∃ v, related leaf v := by
  induction t using inductionOnChildren generalizing u with
  | node t ih =>
      rw [walk_eq_cons t] at inside
      rcases List.mem_cons.1 inside with rfl | below
      · exact ⟨u, replaced.related_of_leaf isLeaf⟩
      · obtain ⟨part, member, below⟩ := List.mem_flatMap.1 below
        cases here : t.isLeaf with
        | true => exact absurd (children_of_isLeaf here ▸ member) List.not_mem_nil
        | false =>
            obtain ⟨parts, pairs, _⟩ := replaced.exists_parts here
            obtain ⟨part', _, replaced⟩ := Attempt.exists_of_mem_right pairs.flip member
            exact ih part member replaced below

/-- The nodes of the result, seen in a way in which other subterms and the replacements of
leaves, which are leaves, make no difference. -/
theorem map_walk {α : Type} {view : Term → α} (replaced : Replaced related t u)
    (inner : ∀ node parts, node.isLeaf = false → view (node.withChildren parts) = view node)
    (leaves : ∀ leaf v, leaf.isLeaf = true → related leaf v →
      v.isLeaf = true ∧ view v = view leaf) :
    u.walk.map view = t.walk.map view := by
  induction t using inductionOnChildren generalizing u with
  | node t ih =>
      cases isLeaf : t.isLeaf with
      | true =>
          obtain ⟨isLeaf', same⟩ := leaves t u isLeaf (replaced.related_of_leaf isLeaf)
          rw [walk_of_isLeaf isLeaf, walk_of_isLeaf isLeaf', List.map_singleton,
            List.map_singleton, same]
      | false =>
          obtain ⟨parts, pairs, _, children, rfl⟩ := replaced.exists_parts isLeaf
          have below : parts.map (fun part => part.walk.map view) =
              t.children.map fun part => part.walk.map view := by
            rw [← List.forall₂_eq_eq_eq, List.forall₂_map_left_iff, List.forall₂_map_right_iff]
            exact Attempt.forall₂_imp_of_mem pairs.flip fun part _ old member =>
              ih old member
          rw [walk_eq_cons, walk_eq_cons t, children, List.map_cons, List.map_cons,
            inner t parts isLeaf, List.map_flatMap, List.map_flatMap, List.flatMap_def,
            List.flatMap_def, below]

end Replaced

/-! ### Rewriting -/

variable {σ : Type} {replace : Term → StateT σ (Except Fault) (Option Term)}
  {related : Term → Term → Prop} (finished : σ → Prop) (count : σ → Nat)
  {counted : Term → Bool} {s s' : σ}

/-- The same as `replaced_of_run_rewriteM` for terms in turn. -/
theorem replaced_of_run_rewriteAllM {ts us : List Term}
    (each : ∀ t ∈ ts, ∀ s u s', (rewriteM replace t).run s = .ok (u, s') →
      finished s' → finished s ∧ Replaced related t u ∧
        count s' = count s + t.walk.countP counted)
    (ran : (rewriteAllM replace ts).run s = .ok (us, s')) (done : finished s') :
    finished s ∧ List.Forall₂ (Replaced related) ts us ∧
      count s' = count s + (ts.map fun t => t.walk.countP counted).sum := by
  induction ts generalizing s us with
  | nil =>
      obtain ⟨rfl, rfl⟩ := run_rewriteAllM_nil_iff.1 ran
      exact ⟨done, .nil, rfl⟩
  | cons t ts ih =>
      obtain ⟨here, rest⟩ := List.forall_mem_cons.1 each
      obtain ⟨u, s₁, us', first, others, rfl⟩ := run_rewriteAllM_cons_iff.1 ran
      obtain ⟨between, pairs, later⟩ := ih rest others
      obtain ⟨begun, replaced, now⟩ := here s u s₁ first between
      refine ⟨begun, .cons replaced pairs, ?_⟩
      rw [later, now, List.map_cons, List.sum_cons, Nat.add_assoc]

/-- A rewriting that leaves nodes with subterms alone replaces leaves. What is true
when it is finished and says that every leaf was replaced as it should be was true
from the beginning, and what is counted is the number of leaves of one kind. -/
theorem replaced_of_run_rewriteM {t u : Term}
    (passes : ∀ node, node.isLeaf = false → Passes replace node)
    (uncounted : ∀ node, node.isLeaf = false → counted node = false)
    (leaves : ∀ leaf ∈ t.walk, leaf.isLeaf = true → ∀ s u s',
      (rewriteM replace leaf).run s = .ok (u, s') → finished s' →
        finished s ∧ related leaf u ∧ count s' = count s + [leaf].countP counted)
    (ran : (rewriteM replace t).run s = .ok (u, s')) (done : finished s') :
    finished s ∧ Replaced related t u ∧
      count s' = count s + t.walk.countP counted := by
  induction t using inductionOnChildren generalizing s u s' with
  | node t ih =>
      cases isLeaf : t.isLeaf with
      | true =>
          have self : t ∈ t.walk := by simp [walk_eq_cons t]
          obtain ⟨begun, here, now⟩ := leaves t self isLeaf s u s' ran done
          exact ⟨begun, .leaf isLeaf here, by rw [walk_of_isLeaf isLeaf, now]⟩
      | false =>
          obtain ⟨parts, all, rfl⟩ := (run_rewriteM_of_passes_iff (passes t isLeaf)).1 ran
          obtain ⟨begun, pairs, now⟩ := replaced_of_run_rewriteAllM finished count
            (fun part inside s u s' ran done => ih part inside
              (fun leaf below => leaves leaf (mem_walk_of_mem_children inside below)) ran done)
            all done
          refine ⟨begun, .inner isLeaf pairs, ?_⟩
          rw [now, countP_walk, uncounted t isLeaf]
          simp

/-- A rewriting whose replacements never fail at a leaf does not fail. -/
theorem exists_run_rewriteM {t : Term}
    (passes : ∀ node, node.isLeaf = false → Passes replace node)
    (leaves : ∀ leaf ∈ t.walk, leaf.isLeaf = true → ∀ s, ∃ result,
      (replace leaf).run s = .ok result) (s : σ) :
    ∃ result, (rewriteM replace t).run s = .ok result := by
  induction t using inductionOnChildren generalizing s with
  | node t ih =>
      cases isLeaf : t.isLeaf with
      | true =>
          obtain ⟨⟨replacement, s'⟩, replaced⟩ :=
            leaves t (by simp [walk_eq_cons t]) isLeaf s
          cases replacement with
          | none => exact ⟨(t, s'), (run_rewriteM_leaf_iff isLeaf).2 (Or.inr ⟨replaced, rfl⟩)⟩
          | some u => exact ⟨(u, s'), (run_rewriteM_leaf_iff isLeaf).2 (Or.inl replaced)⟩
      | false =>
          have each : ∀ part ∈ t.children, ∀ s, ∃ result,
              (rewriteM replace part).run s = .ok result := by
            intro part inside
            exact ih part inside fun leaf below =>
              leaves leaf (mem_walk_of_mem_children inside below)
          have all (ts : List Term) (each : ∀ part ∈ ts, ∀ s, ∃ result,
              (rewriteM replace part).run s = .ok result) (s : σ) :
              ∃ parts s', (rewriteAllM replace ts).run s = .ok (parts, s') := by
            induction ts generalizing s with
            | nil => exact ⟨[], s, run_rewriteAllM_nil_iff.2 ⟨rfl, rfl⟩⟩
            | cons part ts ih =>
                obtain ⟨here, rest⟩ := List.forall_mem_cons.1 each
                obtain ⟨⟨u, s₁⟩, first⟩ := here s
                obtain ⟨us, s₂, others⟩ := ih rest s₁
                exact ⟨u :: us, s₂, run_rewriteAllM_cons_iff.2 ⟨u, s₁, us, first, others, rfl⟩⟩
          obtain ⟨parts, s', ran⟩ := all t.children each s
          exact ⟨(t.withChildren parts, s'),
            (run_rewriteM_of_passes_iff (passes t isLeaf)).2 ⟨parts, ran, rfl⟩⟩

end FunctionSynthesis.Term
