import Mathlib.Algebra.GroupWithZero.Nat
import FunctionSynthesis.Proofs.Term.Structure

/-!
# Terms by their direct subterms

Nodes that have a place for subterms are alike in most respects: what matters is
the list of their direct subterms (`Term.children`) and that it can be exchanged
for another list of the same length (`Term.withChildren`).
-/

namespace FunctionSynthesis.Term

/-- Whether a node is one that has no place for subterms. -/
def isLeaf : Term → Bool
  | .literal _ => true
  | .var _ => true
  | .hole _ _ => true
  | .filled _ _ => true
  | .foreign => true
  | _ => false

attribute [local simp] isLeaf walk children flattenEntries withChildren?

theorem children_of_isLeaf {t : Term} (leaf : t.isLeaf = true) : t.children = [] := by
  cases t <;> first | rfl | simp at leaf

theorem isDependentHole_of_inner {node : Term} (inner : node.isLeaf = false) :
    node.isDependentHole = false := by
  cases node <;> first | rfl | simp at inner

theorem isRegularHole_of_inner {node : Term} (inner : node.isLeaf = false) :
    node.isRegularHole = false := by
  cases node <;> first | rfl | simp at inner

theorem flattenEntries_eq_flatMap (es : List (Term × Term)) :
    flattenEntries es = es.flatMap fun entry => [entry.1, entry.2] := by
  induction es with
  | nil => rfl
  | cons entry es ih => simp [ih]

/-- Induction on terms in which all direct subterms are treated alike. -/
theorem inductionOnChildren {motive : Term → Prop}
    (node : ∀ t, (∀ part ∈ t.children, motive part) → motive t) (t : Term) :
    motive t := by
  induction t with
  | call r m as ihReceiver ihArgs =>
      exact node _ (List.forall_mem_cons.2 ⟨ihReceiver, ihArgs⟩)
  | field r name as ihReceiver ihArgs =>
      exact node _ (List.forall_mem_cons.2 ⟨ihReceiver, ihArgs⟩)
  | array ts ih => exact node _ ih
  | record es ih =>
      refine node _ fun part inside => ?_
      rw [children, flattenEntries_eq_flatMap, List.mem_flatMap] at inside
      obtain ⟨entry, member, place⟩ := inside
      rcases List.mem_cons.1 place with rfl | last
      · exact (ih entry member).1
      · rw [List.mem_singleton.1 last]
        exact (ih entry member).2
  | slice r a b step ihReceiver ihStart ihStop ihStep =>
      refine node _ (List.forall_mem_cons.2 ⟨ihReceiver, List.forall_mem_cons.2
        ⟨ihStart, List.forall_mem_cons.2 ⟨ihStop, fun part inside => ?_⟩⟩⟩)
      exact ihStep part (Option.mem_toList.1 inside)
  | _ => exact node _ fun part inside => absurd inside List.not_mem_nil

/-- The nodes of a term are itself and those of its direct subterms. -/
theorem walk_eq_cons (t : Term) : t.walk = t :: t.children.flatMap walk := by
  cases t with
  | call r m as => simp [walkAll_eq_flatMap]
  | field r name as => simp [walkAll_eq_flatMap]
  | array ts => simp [walkAll_eq_flatMap]
  | record es =>
      simp [walkEntries_eq_flatMap, flattenEntries_eq_flatMap, List.flatMap_assoc]
  | slice r a b step => cases step <;> simp [walkStep]
  | _ => rfl

theorem walk_of_isLeaf {t : Term} (leaf : t.isLeaf = true) : t.walk = [t] := by
  rw [walk_eq_cons, children_of_isLeaf leaf, List.flatMap_nil]

theorem everywhere_iff_children {condition : Term → Prop} (t : Term) :
    Everywhere condition t ↔
      condition t ∧ ∀ part ∈ t.children, Everywhere condition part := by
  unfold Everywhere
  rw [walk_eq_cons, List.forall_mem_cons, List.forall_mem_flatMap]

theorem countP_walk (test : Term → Bool) (t : Term) :
    t.walk.countP test = (if test t then 1 else 0) +
      (t.children.map fun part => part.walk.countP test).sum := by
  rw [walk_eq_cons, List.countP_cons, List.countP_flatMap, Nat.add_comm]
  rfl

/-! ### Other subterms -/

theorem pairEntries?_flattenEntries (es : List (Term × Term)) :
    pairEntries? (flattenEntries es) = some es := by
  induction es with
  | nil => rfl
  | cons entry es ih => simp [pairEntries?, ih]

/-- A list as long as that of the parts of entries is that of other entries. -/
theorem exists_flattenEntries {es : List (Term × Term)} {parts : List Term}
    (length : parts.length = (flattenEntries es).length) :
    ∃ es', parts = flattenEntries es' := by
  induction es generalizing parts with
  | nil => exact ⟨[], List.length_eq_zero_iff.1 length⟩
  | cons entry es ih =>
      match parts with
      | k :: v :: rest =>
          obtain ⟨es', rfl⟩ := ih (by simpa using length)
          exact ⟨(k, v) :: es', rfl⟩
      | [_] => simp at length
      | [] => simp at length

/-- The same node with other direct subterms. -/
def withChildren (t : Term) (parts : List Term) : Term :=
  (t.withChildren? parts).getD t

/-- Direct subterms can be exchanged for as many others. -/
theorem children_withChildren {t : Term} {parts : List Term}
    (length : parts.length = t.children.length) :
    (t.withChildren parts).children = parts := by
  unfold withChildren
  cases t with
  | call r m as =>
      match parts with
      | r' :: as' => rfl
  | field r name as =>
      match parts with
      | r' :: as' => rfl
  | array ts => rfl
  | record es =>
      obtain ⟨es', rfl⟩ := exists_flattenEntries length
      simp [pairEntries?_flattenEntries]
  | slice r a b step =>
      match parts, step with
      | [r', a', b'], none => rfl
      | [r', a', b', step'], some _ => rfl
  | _ => exact (List.length_eq_zero_iff.1 length).symm

theorem isLeaf_withChildren (t : Term) (parts : List Term) :
    (t.withChildren parts).isLeaf = t.isLeaf := by
  unfold withChildren
  cases t with
  | call r m as => cases parts <;> rfl
  | field r name as => cases parts <;> rfl
  | record es => cases paired : pairEntries? parts <;> simp [paired]
  | slice r a b step =>
      match parts with
      | [] => rfl
      | [_] => rfl
      | [_, _] => rfl
      | _ :: _ :: _ :: _ => rfl
  | _ => rfl

@[simp]
theorem withChildren_children (t : Term) : t.withChildren t.children = t := by
  unfold withChildren
  cases t with
  | record es => simp [pairEntries?_flattenEntries]
  | slice r a b step => cases step <;> rfl
  | _ => rfl

/-- Of subterms that are exchanged twice the last ones count. -/
theorem withChildren_withChildren {t : Term} {parts others : List Term}
    (length : parts.length = t.children.length)
    (length' : others.length = t.children.length) :
    (t.withChildren parts).withChildren others = t.withChildren others := by
  unfold withChildren
  cases t with
  | call r m as =>
      match parts, others with
      | _ :: _, _ :: _ => rfl
  | field r name as =>
      match parts, others with
      | _ :: _, _ :: _ => rfl
  | array ts => rfl
  | record es =>
      obtain ⟨es', rfl⟩ := exists_flattenEntries length
      obtain ⟨es'', rfl⟩ := exists_flattenEntries length'
      simp [pairEntries?_flattenEntries]
  | slice r a b step =>
      match parts, others, step with
      | [_, _, _], [_, _, _], none => rfl
      | [_, _, _, _], [_, _, _, _], some _ => rfl
  | _ => rfl

end FunctionSynthesis.Term
