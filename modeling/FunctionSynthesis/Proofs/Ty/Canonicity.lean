import FunctionSynthesis.Proofs.Occurrence
import FunctionSynthesis.Proofs.Ty.Join

/-!
# Canonical unions

What types are joined to is made of the first occurrences of their alternatives
(`isJoin_unionOf`), so that a union among the types can be replaced by its members
(`unionOf_splice`). Joining is associative and idempotent to the letter, and commutative up to
equality (`checkedUnion_isSemilattice`).
-/

namespace FunctionSynthesis.Ty

/-! ### First alternatives -/

/-- The alternatives of types that are not empty, each where an equal one occurs first. -/
def firstAlternatives (types : List Ty) : List Ty :=
  firstOccurrences equal ((alternativesOf types).filter fun t => !t.isBottom)

/-- What types are joined to: the greatest type if it is among the alternatives, and otherwise
the least type, a single alternative or the union of several, in the order in which they occur
first. -/
inductive IsJoin (types : List Ty) : Ty → Prop
  | top (unbounded : .top ∈ alternativesOf types) : IsJoin types .top
  | bottom (bounded : .top ∉ alternativesOf types) (empty : firstAlternatives types = []) :
      IsJoin types .bottom
  | alone {t : Ty} (bounded : .top ∉ alternativesOf types)
      (single : firstAlternatives types = [t]) (simple : t.IsSimple) : IsJoin types t
  | union {members : List Ty} (bounded : .top ∉ alternativesOf types)
      (several : firstAlternatives types = members) (two : 2 ≤ members.length)
      (distinct : members.Pairwise fun t u => equal t u = false ∧ equal u t = false)
      (simple : ∀ t ∈ members, t.IsSimple) : IsJoin types (.union members)

theorem alternativesOf_append (ts us : List Ty) :
    alternativesOf (ts ++ us) = alternativesOf ts ++ alternativesOf us := by
  simp [alternativesOf_eq_flatMap]

theorem any_isTop_iff {types : List Ty} : types.any isTop = true ↔ .top ∈ types := by
  simp [List.any_eq_true, isTop_iff]

theorem isTransitiveOn_equal {types : List Ty} (hashable : ∀ t ∈ types, t.isHashable = true) :
    IsTransitiveOn equal types :=
  fun _ _ t member => equal_trans (hashable t member)

/-- Adding members one by one collects the types that are not empty. -/
theorem distinctMembers_eq_firstOccurrences {types : List Ty}
    (hashable : ∀ t ∈ types, t.isHashable = true) :
    distinctMembers types = firstOccurrences equal (types.filter fun t => !t.isBottom) := by
  have step : addMember =
      fun members t => if (!t.isBottom) = true then keep equal members t else members := by
    funext members t
    unfold addMember keep
    change (if (t.isBottom || members.any (equal t)) = true then _ else _) = _
    by_cases empty : t.isBottom = true <;> simp [empty]
  have kept : ∀ t ∈ types.filter fun t => !t.isBottom, t.isHashable = true :=
    fun t member => hashable t (List.mem_filter.1 member).1
  rw [← foldl_keep (isTransitiveOn_equal kept), List.foldl_filter, distinctMembers, step]

theorem isSimple_of_mem_firstAlternatives {types : List Ty}
    (bounded : .top ∉ alternativesOf types) :
    ∀ t ∈ firstAlternatives types, t.IsSimple := by
  intro t member
  obtain ⟨alternative, inhabited⟩ := List.mem_filter.1 (mem_of_mem_firstOccurrences member)
  obtain ⟨whole, _, alternative'⟩ := mem_alternativesOf.1 alternative
  refine ⟨?_, by simpa using inhabited, (alternatives_of_mem_alternatives alternative').2⟩
  rw [← Bool.not_eq_true, isTop_iff]
  rintro rfl
  exact bounded alternative

theorem ofDistinct_of_two_le {ts : List Ty} (two : 2 ≤ ts.length) : ofDistinct ts = .union ts := by
  rcases ts with _ | ⟨t, _ | ⟨u, rest⟩⟩
  · exact absurd two (by decide)
  · exact absurd two (by simp)
  · rfl

theorem unionOf_of_unbounded {types : List Ty} (unbounded : .top ∈ alternativesOf types) :
    unionOf types = .top := by
  simp [unionOf, any_isTop_iff.2 unbounded]

section

variable {types : List Ty} (regular : ∀ t ∈ types, t.IsRegular)

include regular

theorem isHashable_of_isAlternative :
    ∀ t ∈ (alternativesOf types).filter fun t => !t.isBottom, t.isHashable = true :=
  fun t member =>
    (isRegular_of_mem_alternativesOf regular t (List.mem_filter.1 member).1).hashable

theorem unionOf_of_bounded (bounded : .top ∉ alternativesOf types) :
    unionOf types = ofDistinct (firstAlternatives types) := by
  rw [← any_isTop_iff, Bool.not_eq_true] at bounded
  rw [unionOf_eq_ofDistinct bounded, distinctMembers_eq_firstOccurrences fun t member =>
    (isRegular_of_mem_alternativesOf regular t member).hashable]
  rfl

theorem isJoin_unionOf : IsJoin types (unionOf types) := by
  by_cases unbounded : .top ∈ alternativesOf types
  · rw [unionOf_of_unbounded unbounded]
    exact .top unbounded
  · have simple := isSimple_of_mem_firstAlternatives unbounded
    rw [unionOf_of_bounded regular unbounded]
    by_cases two : 2 ≤ (firstAlternatives types).length
    · rw [ofDistinct_of_two_le two]
      apply IsJoin.union unbounded rfl two ?_ simple
      apply (pairwise_firstOccurrences _).imp_of_mem
      intro t u _ member apart
      refine ⟨?_, apart⟩
      rw [← Bool.not_eq_true] at apart ⊢
      intro same
      have hashable := isHashable_of_isAlternative regular u (mem_of_mem_firstOccurrences member)
      exact apart (equal_symm hashable same)
    · rcases kept : firstAlternatives types with _ | ⟨t, _ | ⟨u, rest⟩⟩
      · exact .bottom unbounded kept
      · exact .alone unbounded kept (simple t (by simp [kept]))
      · exact absurd (by simp [kept]) two

/-- The alternatives of a join that are not empty are the first ones of what is joined. -/
theorem filter_alternatives_unionOf (bounded : .top ∉ alternativesOf types) :
    ((unionOf types).alternatives.filter fun t => !t.isBottom) = firstAlternatives types := by
  have simple := isSimple_of_mem_firstAlternatives bounded
  have kept : (firstAlternatives types).filter (fun t => !t.isBottom) = firstAlternatives types :=
    List.filter_eq_self.2 fun t member => by simp [(simple t member).2.1]
  rw [unionOf_of_bounded regular bounded]
  by_cases two : 2 ≤ (firstAlternatives types).length
  · rw [ofDistinct_of_two_le two]
    exact (congrArg _ (alternativesOf_eq_self fun t member => (simple t member).2.2)).trans kept
  · rcases found : firstAlternatives types with _ | ⟨t, _ | ⟨u, rest⟩⟩
    · rfl
    · rw [found] at kept simple
      have alone := alternatives_eq_singleton (simple t (by simp)).2.2
      rwa [ofDistinct, alone]
    · exact absurd (by simp [found]) two

theorem top_notMem_alternatives_unionOf (bounded : .top ∉ alternativesOf types) :
    .top ∉ (unionOf types).alternatives := by
  intro member
  have kept : .top ∈ firstAlternatives types := by
    rw [← filter_alternatives_unionOf regular bounded]
    exact List.mem_filter.2 ⟨member, rfl⟩
  exact Bool.noConfusion (isSimple_of_mem_firstAlternatives bounded _ kept).1

end

/-! ### Laws -/

/-- A join depends on whether the greatest type is there and on the first alternatives. -/
theorem unionOf_congr {ts us : List Ty} (ht : ∀ t ∈ ts, t.IsRegular) (hu : ∀ u ∈ us, u.IsRegular)
    (greatest : .top ∈ alternativesOf ts ↔ .top ∈ alternativesOf us)
    (firsts : firstAlternatives ts = firstAlternatives us) : unionOf ts = unionOf us := by
  by_cases unbounded : .top ∈ alternativesOf ts
  · rw [unionOf_of_unbounded unbounded, unionOf_of_unbounded (greatest.1 unbounded)]
  · rw [unionOf_of_bounded ht unbounded, unionOf_of_bounded hu (mt greatest.2 unbounded), firsts]

/-- Types can be joined before they are joined with what stands before and after them. -/
theorem unionOf_splice (before types after : List Ty)
    (regular : ∀ t ∈ before ++ types ++ after, t.IsRegular) :
    unionOf (before ++ unionOf types :: after) = unionOf (before ++ types ++ after) := by
  have inner : ∀ t ∈ types, t.IsRegular := fun t member => regular t (by simp [member])
  have outer : ∀ t ∈ before ++ unionOf types :: after, t.IsRegular := by
    intro t member
    rcases List.mem_append.1 member with earlier | later
    · exact regular t (by simp [earlier])
    · rcases List.mem_cons.1 later with rfl | later
      · exact isRegular_unionOf inner
      · exact regular t (by simp [later])
  have flat : alternativesOf (before ++ unionOf types :: after) =
      alternativesOf before ++ (unionOf types).alternatives ++ alternativesOf after := by
    simp [alternativesOf_eq_flatMap]
  by_cases unbounded : .top ∈ alternativesOf types
  · rw [unionOf_of_unbounded, unionOf_of_unbounded]
    · simp [alternativesOf_append, unbounded]
    · rw [flat, unionOf_of_unbounded unbounded]
      simp [alternatives]
  · apply unionOf_congr outer regular
    · have bounded := top_notMem_alternatives_unionOf inner unbounded
      simp [flat, alternativesOf_append, bounded, unbounded]
    · have transitive := isTransitiveOn_equal (isHashable_of_isAlternative inner)
      unfold firstAlternatives
      rw [flat, alternativesOf_append, alternativesOf_append]
      simp only [List.filter_append]
      rw [filter_alternatives_unionOf inner unbounded]
      exact firstOccurrences_append_middle _ _ transitive

/-- Joining types with themselves makes no difference. -/
theorem unionOf_append_self {types : List Ty} (regular : ∀ t ∈ types, t.IsRegular) :
    unionOf (types ++ types) = unionOf types := by
  have twice : ∀ t ∈ types ++ types, t.IsRegular := fun t member =>
    regular t (by simpa using member)
  apply unionOf_congr twice regular
  · simp [alternativesOf_append]
  · unfold firstAlternatives
    rw [alternativesOf_append, List.filter_append]
    apply firstOccurrences_append_of_any
    intro t member
    have hashable := isHashable_of_isAlternative regular t member
    exact List.any_eq_true.2 ⟨t, member, equal_refl hashable⟩

/-- The order of types matters to their join only up to equality. -/
theorem equal_unionOf_of_perm {ts us : List Ty} (regular : ∀ u ∈ us, u.IsRegular)
    (rearranged : ts.Perm us) : equal (unionOf ts) (unionOf us) = true := by
  have regular' : ∀ t ∈ ts, t.IsRegular := fun t member => regular t (rearranged.mem_iff.1 member)
  have alike : AreAlike (alternativesOf us) (alternativesOf us) :=
    AreAlike.refl fun u member => (isRegular_of_mem_alternativesOf regular u member).hashable
  have sameMembers (t : Ty) : t ∈ alternativesOf ts ↔ t ∈ alternativesOf us := by
    simp only [mem_alternativesOf, rearranged.mem_iff]
  apply equal_unionOf regular' regular
  constructor
  · intro t member
    exact alike.left t ((sameMembers t).1 member)
  · intro u member inhabited
    obtain ⟨t, member', same⟩ := alike.right u member inhabited
    exact ⟨t, (sameMembers t).2 member', same⟩

/-- Any types of which the literals are scalars and the records give each name once can be
joined, whatever their unions look like. The result is in canonical form, and joining is
associative and idempotent to the letter and commutative up to equality. -/
theorem checkedUnion_isSemilattice (xs ys : List Ty) (regular : ∀ t ∈ xs ++ ys, t.IsRegular) :
    ∃ left right whole, checkedUnion xs = .ok left ∧ checkedUnion ys = .ok right ∧
      checkedUnion (xs ++ ys) = .ok whole ∧ IsJoin xs left ∧
      checkedUnion (left :: ys) = .ok whole ∧ checkedUnion (xs ++ [right]) = .ok whole ∧
      checkedUnion (xs ++ xs) = .ok left ∧
      ∀ zs : List Ty, zs.Perm xs →
        ∃ other, checkedUnion zs = .ok other ∧ other.checkedEqual left = .ok true := by
  have joined {types : List Ty} (regular : ∀ t ∈ types, t.IsRegular) :
      checkedUnion types = .ok (unionOf types) :=
    checkedUnion_of_isOrdinary fun t member => (regular t member).ordinary
  have hx : ∀ t ∈ xs, t.IsRegular := fun t member => regular t (List.mem_append_left _ member)
  have hy : ∀ t ∈ ys, t.IsRegular := fun t member => regular t (List.mem_append_right _ member)
  have left := isRegular_unionOf hx
  have right := isRegular_unionOf hy
  refine ⟨unionOf xs, unionOf ys, unionOf (xs ++ ys), joined hx, joined hy, joined regular,
    isJoin_unionOf hx, ?_, ?_, ?_, fun zs rearranged => ⟨unionOf zs, ?_, ?_⟩⟩
  · rw [joined (List.forall_mem_cons.2 ⟨left, hy⟩)]
    exact congrArg _ (unionOf_splice [] xs ys regular)
  · have spliced := unionOf_splice xs ys [] (by simpa using regular)
    rw [joined, spliced, List.append_nil]
    exact List.forall_mem_append.2 ⟨hx, by simpa using right⟩
  · rw [joined (List.forall_mem_append.2 ⟨hx, hx⟩), unionOf_append_self hx]
  · exact joined fun t member => hx t (rearranged.mem_iff.1 member)
  · have hz : ∀ t ∈ zs, t.IsRegular := fun t member => hx t (rearranged.mem_iff.1 member)
    rw [checkedEqual_of_isOrdinary (isRegular_unionOf hz).ordinary left.ordinary]
    exact congrArg _ (equal_unionOf_of_perm hx rearranged)

/-- Nested unions, one of them empty, with repeated and empty members, and a record whose fields
come in another order later. -/
theorem checkedUnion_isSemilattice_nested :
    let record : Ty := .record [("k", .integer), ("l", .string)]
    let xs : List Ty :=
      [.union [.integer, .union [.text "a", .bottom], .union []], record, .union [.text "a"]]
    let ys : List Ty := [.record [("l", .string), ("k", .integer)], .literal (.int 1)]
    let left : Ty := .union [.integer, .text "a", record]
    let whole : Ty := .union [.integer, .text "a", record, .literal (.int 1)]
    checkedUnion xs = .ok left ∧ IsJoin xs left ∧ checkedUnion (xs ++ ys) = .ok whole ∧
      checkedUnion (left :: ys) = .ok whole ∧ checkedUnion (xs ++ xs) = .ok left ∧
      ∃ other, checkedUnion xs.reverse = .ok other ∧ other.checkedEqual left = .ok true := by
  intro record xs ys left whole
  have regular : ∀ t ∈ xs ++ ys, t.IsRegular := by
    simp only [xs, ys, record, List.cons_append, List.nil_append, List.forall_mem_cons]
    refine ⟨⟨rfl, ?_⟩, ⟨rfl, ?_⟩, ⟨rfl, ?_⟩, ⟨rfl, ?_⟩, ⟨rfl, ?_⟩, by simp⟩ <;>
      simp [Everywhere, parts, partsOfAll, partsOfFields, HasDistinctNames, integer, string]
  obtain ⟨left', right', whole', joined, -, both, isJoin, before, -, twice, rearranged⟩ :=
    checkedUnion_isSemilattice xs ys regular
  obtain rfl : left = left' := Except.ok.inj ((rfl : checkedUnion xs = .ok left).symm.trans joined)
  obtain rfl : whole = whole' :=
    Except.ok.inj ((rfl : checkedUnion (xs ++ ys) = .ok whole).symm.trans both)
  exact ⟨joined, isJoin, both, before, twice, rearranged _ (List.reverse_perm xs)⟩

end FunctionSynthesis.Ty
