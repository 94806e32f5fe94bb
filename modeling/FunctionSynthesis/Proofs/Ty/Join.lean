import FunctionSynthesis.Proofs.Ty.Antisymmetry
import FunctionSynthesis.Proofs.Ty.Soundness

/-!
# Joins

The canonical union of well-formed types is their least upper bound
(`unionOf_isLeastUpperBound`). What is below a type is told by the alternatives
(`IsWellFormed.le_iff_forall_alternatives`), and of each alternative that is not empty
the union keeps an equal one. Unions of types with equal alternatives are equal
(`equal_unionOf`).
-/

namespace FunctionSynthesis.Ty

theorem le_refl {t : Ty} (ordinary : t.isOrdinary = true) : t.le t = true :=
  le_of_equal (equal_refl (isHashable_of_isOrdinary ordinary))

theorem checkedUnion_of_isOrdinary {types : List Ty}
    (ordinary : ∀ t ∈ types, t.isOrdinary = true) :
    checkedUnion types = .ok (unionOf types) := by
  simp [checkedUnion, unionFails_of_isOrdinary ordinary, pure, Except.pure]

/-! ### Alternatives -/

/-- Types that are no unions are their own alternatives. -/
theorem alternativesOf_eq_self {ts : List Ty} (alone : ∀ t ∈ ts, t.isUnion = false) :
    alternativesOf ts = ts := by
  induction ts with
  | nil => rfl
  | cons t ts ih =>
      obtain ⟨here, rest⟩ := List.forall_mem_cons.1 alone
      rw [alternativesOf, alternatives_eq_singleton here, ih rest]
      rfl

theorem IsCanonicalUnion.alternatives_eq {ts : List Ty}
    (canonical : IsCanonicalUnion (.union ts)) : (Ty.union ts).alternatives = ts :=
  alternativesOf_eq_self fun t member => (canonical.2.2 t member).2.2

/-- A type is below another when all its alternatives are. -/
theorem IsWellFormed.le_iff_forall_alternatives {a b : Ty} (ha : a.IsWellFormed) :
    a.le b = true ↔ ∀ t ∈ a.alternatives, t.le b = true := by
  cases a with
  | union ts =>
      have canonical : IsCanonicalUnion (.union ts) := ha.unions.here
      have simple := canonical.2.2
      rw [canonical.alternatives_eq, union_le_iff]
      constructor
      · rintro (same | rfl | ⟨-, all⟩) t member
        · have alternative : t ∈ (Ty.union ts).alternatives := by
            rwa [canonical.alternatives_eq]
          obtain ⟨w, alternative', same⟩ := exists_alternative_of_equal same alternative
          exact (le_iff_exists_alternative (simple t member)).2
            ⟨w, alternative', le_of_equal same⟩
        · exact le_top t
        · exact all t member
      · intro all
        refine Or.inr (Or.inr ⟨?_, all⟩)
        rintro rfl
        obtain ⟨t, member⟩ := List.exists_mem_of_length_pos (Nat.zero_lt_of_lt canonical.1)
        have regular := ha.toIsRegular.of_mem_union member
        have none := (simple t member).not_le_bottom regular
        exact Bool.noConfusion (none.symm.trans (all t member))
  | _ => simp [alternatives]

theorem mem_alternativesOf {types : List Ty} {u : Ty} :
    u ∈ alternativesOf types ↔ ∃ t ∈ types, u ∈ t.alternatives := by
  rw [alternativesOf_eq_flatMap, List.mem_flatMap]

theorem isRegular_of_mem_alternativesOf {types : List Ty} (regular : ∀ t ∈ types, t.IsRegular) :
    ∀ u ∈ alternativesOf types, u.IsRegular := by
  intro u alternative
  obtain ⟨t, member, alternative⟩ := mem_alternativesOf.1 alternative
  exact (regular t member).of_mem_alternatives alternative

theorem isWellFormed_of_mem_alternativesOf {types : List Ty}
    (wellFormed : ∀ t ∈ types, t.IsWellFormed) :
    ∀ u ∈ alternativesOf types, u.IsWellFormed := by
  intro u alternative
  obtain ⟨t, member, alternative⟩ := mem_alternativesOf.1 alternative
  exact (wellFormed t member).of_mem_parts (mem_parts_of_mem_alternatives alternative)

/-- What distinct types that are neither empty nor the greatest one are joined to. -/
def ofDistinct : List Ty → Ty
  | [] => .bottom
  | [t] => t
  | ts => .union ts

theorem unionOf_eq_ofDistinct {types : List Ty}
    (bounded : (alternativesOf types).any isTop = false) :
    unionOf types = ofDistinct (distinctMembers (alternativesOf types)) := by
  simp only [unionOf, bounded, Bool.false_eq_true, if_false]
  rcases distinctMembers (alternativesOf types) with _ | ⟨t, _ | ⟨u, rest⟩⟩ <;> rfl

/-- Without the greatest type the alternatives of a join are the distinct ones of what
is joined. -/
theorem alternatives_unionOf {types : List Ty}
    (bounded : (alternativesOf types).any isTop = false) :
    (unionOf types).alternatives = distinctMembers (alternativesOf types) ∨
      distinctMembers (alternativesOf types) = [] ∧ unionOf types = .bottom := by
  have alone : ∀ u ∈ distinctMembers (alternativesOf types), u.isUnion = false := by
    intro u kept
    obtain ⟨t, _, alternative⟩ := mem_alternativesOf.1 (mem_of_mem_distinctMembers kept)
    exact (alternatives_of_mem_alternatives alternative).2
  rw [unionOf_eq_ofDistinct bounded]
  generalize distinctMembers (alternativesOf types) = kept at alone
  rcases kept with _ | ⟨t, _ | ⟨u, rest⟩⟩
  · exact Or.inr ⟨rfl, rfl⟩
  · exact Or.inl (alternatives_eq_singleton (alone t List.mem_cons_self))
  · exact Or.inl (alternativesOf_eq_self alone)

/-! ### The least upper bound -/

theorem unionOf_le_iff {types : List Ty} {b : Ty}
    (wellFormed : ∀ t ∈ types, t.IsWellFormed) (hb : b.IsRegular) :
    (unionOf types).le b = true ↔ ∀ t ∈ types, t.le b = true := by
  have flat : (∀ t ∈ types, t.le b = true) ↔ ∀ u ∈ alternativesOf types, u.le b = true := by
    constructor
    · intro all u alternative
      obtain ⟨t, member, alternative⟩ := mem_alternativesOf.1 alternative
      exact (wellFormed t member).le_iff_forall_alternatives.1 (all t member) u alternative
    · intro all t member
      refine (wellFormed t member).le_iff_forall_alternatives.2 fun u alternative => ?_
      exact all u (mem_alternativesOf.2 ⟨t, member, alternative⟩)
  have regular : ∀ u ∈ alternativesOf types, u.IsRegular := fun u alternative =>
    (isWellFormed_of_mem_alternativesOf wellFormed u alternative).toIsRegular
  have kept : (∀ u ∈ alternativesOf types, u.le b = true) ↔
      ∀ u ∈ distinctMembers (alternativesOf types), u.le b = true := by
    refine ⟨fun all u member => all u (mem_of_mem_distinctMembers member), ?_⟩
    intro all u alternative
    rcases empty : u.isBottom with _ | _
    · obtain ⟨w, member, same⟩ : ∃ w ∈ distinctMembers (alternativesOf types),
          u = w ∨ equal u w = true := exists_mem_foldl_addMember alternative empty
      rcases same with rfl | same
      · exact all u member
      · exact le_trans (regular u alternative)
          (regular w (mem_of_mem_distinctMembers member)) hb (le_of_equal same)
          (all w member)
    · rw [isBottom_iff.1 empty]
      exact bottom_le b
  rw [flat]
  rcases greatest : (alternativesOf types).any isTop with _ | _
  · rw [kept, (isWellFormed_unionOf wellFormed).le_iff_forall_alternatives]
    rcases alternatives_unionOf greatest with same | ⟨empty, joined⟩
    · rw [same]
    · simp [empty, joined, alternatives, bottom_le]
  · obtain ⟨u, alternative, isTop⟩ := List.any_eq_true.1 greatest
    have joined : unionOf types = .top := by
      simp [unionOf, greatest]
    rw [joined, top_le_iff]
    constructor
    · rintro rfl u _
      exact le_top u
    · intro all
      rw [isTop_iff.1 isTop] at alternative
      exact (top_le_iff b).1 (all .top alternative)

/-- Every type is below the join. -/
theorem le_unionOf {types : List Ty} (wellFormed : ∀ t ∈ types, t.IsWellFormed) :
    ∀ t ∈ types, t.le (unionOf types) = true := by
  have joined := (isWellFormed_unionOf wellFormed).toIsRegular
  exact (unionOf_le_iff wellFormed joined).1 (le_refl joined.ordinary)

/-- Well-formed types can be joined, and the join is their least upper bound among the
well-formed types. -/
theorem unionOf_isLeastUpperBound (types : List Ty)
    (wellFormed : ∀ t ∈ types, t.IsWellFormed) :
    ∃ join, checkedUnion types = .ok join ∧ join.IsWellFormed ∧
      (∀ t ∈ types, t.checkedLe join = .ok true) ∧
      ∀ b : Ty, b.IsWellFormed →
        (join.checkedLe b = .ok true ↔ ∀ t ∈ types, t.checkedLe b = .ok true) ∧
        ∃ below, join.checkedLe b = .ok below := by
  have ordinary := fun t (member : t ∈ types) => (wellFormed t member).ordinary
  have joined := isWellFormed_unionOf wellFormed
  refine ⟨unionOf types, checkedUnion_of_isOrdinary ordinary, joined, ?_, ?_⟩
  · intro t member
    rw [checkedLe_of_isOrdinary (ordinary t member) joined.ordinary,
      le_unionOf wellFormed t member]
  · intro b hb
    have decided := checkedLe_of_isOrdinary joined.ordinary hb.ordinary
    refine ⟨?_, _, decided⟩
    rw [decided, Except.ok.injEq, unionOf_le_iff wellFormed hb.toIsRegular]
    refine forall₂_congr fun t member => ?_
    rw [checkedLe_of_isOrdinary (ordinary t member) hb.ordinary, Except.ok.injEq]

/-- The empty type, two unions and a union of both in another order, with a text
widened. -/
theorem unionOf_isLeastUpperBound_unions :
    let types : List Ty :=
      [.bottom, .union [.integer, .text "a"], .union [.generic "list" .top, .integer]]
    let wide : Ty := .union [.string, .generic "list" .top, .integer]
    ∃ join, checkedUnion types = .ok join ∧
      (∀ t ∈ types, t.checkedLe join = .ok true) ∧ join.checkedLe wide = .ok true := by
  intro types wide
  have wellFormed : ∀ t ∈ wide :: types, t.IsWellFormed := by
    simp only [types, wide, List.forall_mem_cons]
    refine ⟨⟨⟨rfl, ?_⟩, ?_⟩, isWellFormed_of_leaf rfl rfl trivial trivial,
      ⟨⟨rfl, ?_⟩, ?_⟩, ⟨⟨rfl, ?_⟩, ?_⟩, by simp⟩ <;>
      simp [Everywhere, parts, partsOfAll, HasDistinctNames, IsCanonicalUnion, IsSimple,
        equal, isTop, isBottom, isUnion, integer, string]
  obtain ⟨hw, ht⟩ := List.forall_mem_cons.1 wellFormed
  obtain ⟨join, joined, -, above, least⟩ := unionOf_isLeastUpperBound types ht
  refine ⟨join, joined, above, (least wide hw).1.2 ?_⟩
  simp only [types, List.forall_mem_cons]
  exact ⟨rfl, rfl, rfl, by simp⟩

/-! ### Equal joins -/

/-- Whether of every type of either list that is not empty the other has an equal
one. -/
structure AreAlike (ts us : List Ty) : Prop where
  left : ∀ t ∈ ts, t.isBottom = false → ∃ u ∈ us, equal t u = true
  right : ∀ u ∈ us, u.isBottom = false → ∃ t ∈ ts, equal t u = true

theorem isBottom_eq_of_equal {a b : Ty} (same : equal a b = true) :
    a.isBottom = b.isBottom := by
  cases a <;> cases b <;> first | rfl | cases same

theorem AreAlike.refl {ts : List Ty} (hashable : ∀ t ∈ ts, t.isHashable = true) :
    AreAlike ts ts :=
  ⟨fun t member _ => ⟨t, member, equal_refl (hashable t member)⟩,
    fun t member _ => ⟨t, member, equal_refl (hashable t member)⟩⟩

theorem AreAlike.symm {ts us : List Ty} (alike : AreAlike ts us)
    (hashable : ∀ u ∈ us, u.isHashable = true) : AreAlike us ts := by
  constructor
  · intro u member inhabited
    obtain ⟨t, member', same⟩ := alike.right u member inhabited
    exact ⟨t, member', equal_symm (hashable u member) same⟩
  · intro t member inhabited
    obtain ⟨u, member', same⟩ := alike.left t member inhabited
    exact ⟨u, member', equal_symm (hashable u member') same⟩

theorem AreAlike.trans {ts us vs : List Ty} (first : AreAlike ts us)
    (second : AreAlike us vs) (hashable : ∀ v ∈ vs, v.isHashable = true) :
    AreAlike ts vs := by
  constructor
  · intro t member inhabited
    obtain ⟨u, member', same⟩ := first.left t member inhabited
    rw [isBottom_eq_of_equal same] at inhabited
    obtain ⟨v, member'', same'⟩ := second.left u member' inhabited
    exact ⟨v, member'', equal_trans (hashable v member'') same same'⟩
  · intro v member inhabited
    obtain ⟨u, member', same'⟩ := second.right v member inhabited
    rw [← isBottom_eq_of_equal same'] at inhabited
    obtain ⟨t, member'', same⟩ := first.right u member' inhabited
    exact ⟨t, member'', equal_trans (hashable v member) same same'⟩

theorem areAlike_distinctMembers {types : List Ty}
    (hashable : ∀ t ∈ types, t.isHashable = true) :
    AreAlike types (distinctMembers types) := by
  constructor
  · intro t member inhabited
    obtain ⟨u, kept, same⟩ : ∃ u ∈ distinctMembers types, t = u ∨ equal t u = true :=
      exists_mem_foldl_addMember member inhabited
    rcases same with rfl | same
    · exact ⟨t, kept, equal_refl (hashable t member)⟩
    · exact ⟨u, kept, same⟩
  · intro u kept _
    have member := mem_of_mem_distinctMembers kept
    exact ⟨u, member, equal_refl (hashable u member)⟩

theorem AreAlike.any_isTop {ts us : List Ty} (alike : AreAlike ts us) :
    ts.any isTop = us.any isTop := by
  rw [Bool.eq_iff_iff, List.any_eq_true, List.any_eq_true]
  constructor
  · rintro ⟨t, member, greatest⟩
    obtain rfl := isTop_iff.1 greatest
    obtain ⟨u, member', same⟩ := alike.left .top member rfl
    exact ⟨u, member', isTop_iff.2 ((top_le_iff u).1 (le_of_equal same))⟩
  · rintro ⟨u, member, greatest⟩
    obtain rfl := isTop_iff.1 greatest
    obtain ⟨t, member', same⟩ := alike.right .top member rfl
    have same := equal_symm rfl same
    exact ⟨t, member', isTop_iff.2 ((top_le_iff t).1 (le_of_equal same))⟩

/-- Distinct types that are alike a single type are one type, which equals it. -/
theorem AreAlike.eq_singleton {t : Ty} {us : List Ty} (alike : AreAlike [t] us)
    (inhabited : t.isBottom = false) (hashable : ∀ u ∈ us, u.isHashable = true)
    (inhabited' : ∀ u ∈ us, u.isBottom = false)
    (distinct : us.Pairwise fun u v => equal v u = false) :
    ∃ u, us = [u] ∧ equal t u = true := by
  have same : ∀ u ∈ us, equal t u = true := by
    intro u member
    obtain ⟨t', alone, same⟩ := alike.right u member (inhabited' u member)
    exact List.mem_singleton.1 alone ▸ same
  rcases us with _ | ⟨u, _ | ⟨v, rest⟩⟩
  · obtain ⟨u, impossible, _⟩ := alike.left t (List.mem_singleton_self t) inhabited
    exact absurd impossible List.not_mem_nil
  · exact ⟨u, rfl, same u List.mem_cons_self⟩
  · have first := same u List.mem_cons_self
    have second := same v (by simp)
    have apart := (List.pairwise_cons.1 distinct).1 v List.mem_cons_self
    have joined := equal_trans (hashable u List.mem_cons_self)
      (equal_symm (hashable v (by simp)) second) first
    exact absurd (apart.symm.trans joined) Bool.noConfusion

theorem AreAlike.equal_ofDistinct {ts us : List Ty} (alike : AreAlike ts us)
    (ht : ∀ t ∈ ts, t.IsRegular) (hu : ∀ u ∈ us, u.IsRegular)
    (inhabited : ∀ t ∈ ts, t.isBottom = false) (inhabited' : ∀ u ∈ us, u.isBottom = false)
    (distinct : ts.Pairwise fun t u => equal u t = false)
    (distinct' : us.Pairwise fun t u => equal u t = false) :
    equal (ofDistinct ts) (ofDistinct us) = true := by
  have hashable := fun t member => (ht t member).hashable
  have hashable' := fun u member => (hu u member).hashable
  rcases ts with _ | ⟨t, _ | ⟨t', rest⟩⟩
  · rcases us with _ | ⟨u, rest⟩
    · rfl
    · obtain ⟨t, impossible, _⟩ :=
        alike.right u List.mem_cons_self (inhabited' u List.mem_cons_self)
      exact absurd impossible List.not_mem_nil
  · obtain ⟨u, rfl, same⟩ := alike.eq_singleton (inhabited t List.mem_cons_self) hashable'
      inhabited' distinct'
    exact same
  · rcases us with _ | ⟨u, _ | ⟨u', rest'⟩⟩
    · obtain ⟨u, impossible, _⟩ :=
        alike.left t List.mem_cons_self (inhabited t List.mem_cons_self)
      exact absurd impossible List.not_mem_nil
    · obtain ⟨t, alone, _⟩ := (alike.symm hashable').eq_singleton
        (inhabited' u List.mem_cons_self) hashable inhabited distinct
      simp at alone
    · rw [ofDistinct, ofDistinct, equal_union_iff]
      · constructor
        · intro t member
          obtain ⟨u, member', same⟩ := alike.left t member (inhabited t member)
          exact ⟨u, member',
            isWrittenLike_of_equal (ht t member) (hu u member') same, same⟩
        · intro u member
          obtain ⟨t, member', same⟩ := alike.right u member (inhabited' u member)
          exact ⟨t, member',
            isWrittenLike_of_equal (ht t member') (hu u member) same, same⟩
      all_goals simp

/-- Lists whose alternatives are alike have equal joins. -/
theorem equal_unionOf {ts us : List Ty} (ht : ∀ t ∈ ts, t.IsRegular)
    (hu : ∀ u ∈ us, u.IsRegular)
    (alike : AreAlike (alternativesOf ts) (alternativesOf us)) :
    equal (unionOf ts) (unionOf us) = true := by
  have left := isRegular_of_mem_alternativesOf ht
  have right := isRegular_of_mem_alternativesOf hu
  have greatest := alike.any_isTop
  rcases bounded : (alternativesOf us).any isTop with _ | _
  · have kept : ∀ t ∈ distinctMembers (alternativesOf ts),
        t.IsRegular ∧ t.isBottom = false := fun t member =>
      ⟨left t (mem_of_mem_distinctMembers member),
        isBottom_of_mem_distinctMembers (by simp) t member⟩
    have kept' : ∀ u ∈ distinctMembers (alternativesOf us),
        u.IsRegular ∧ u.isBottom = false := fun u member =>
      ⟨right u (mem_of_mem_distinctMembers member),
        isBottom_of_mem_distinctMembers (by simp) u member⟩
    have same : AreAlike (distinctMembers (alternativesOf ts))
        (distinctMembers (alternativesOf us)) := by
      have hashable := fun t member => (left t member).hashable
      have hashable' := fun u member => (right u member).hashable
      have before := (areAlike_distinctMembers hashable).symm
        fun t member => (kept t member).1.hashable
      exact (before.trans alike hashable').trans (areAlike_distinctMembers hashable')
        fun u member => (kept' u member).1.hashable
    rw [unionOf_eq_ofDistinct (greatest.trans bounded), unionOf_eq_ofDistinct bounded]
    exact same.equal_ofDistinct (fun t member => (kept t member).1)
      (fun u member => (kept' u member).1) (fun t member => (kept t member).2)
      (fun u member => (kept' u member).2) (pairwise_foldl_addMember .nil)
      (pairwise_foldl_addMember .nil)
  · have joined : unionOf ts = .top := by simp [unionOf, greatest.trans bounded]
    have joined' : unionOf us = .top := by simp [unionOf, bounded]
    rw [joined, joined']
    rfl

/-! ### Alternatives up to equality -/

theorem areAlike_alternatives_unionOf {types : List Ty}
    (ordinary : ∀ t ∈ types, t.isOrdinary = true)
    (bounded : (alternativesOf types).any isTop = false) :
    AreAlike (unionOf types).alternatives (alternativesOf types) := by
  have flat := fun u member => isHashable_of_isOrdinary
    (isOrdinary_of_mem_alternativesOf ordinary u member)
  have alike := areAlike_distinctMembers flat
  rcases alternatives_unionOf bounded with same | ⟨empty, joined⟩
  · rw [same]
    refine alike.symm fun u member => flat u (mem_of_mem_distinctMembers member)
  · rw [empty] at alike
    rw [joined]
    refine ⟨fun t alternative inhabited => ?_, fun u member inhabited => ?_⟩
    · rw [List.eq_of_mem_singleton alternative] at inhabited
      exact Bool.noConfusion inhabited
    · obtain ⟨_, impossible, _⟩ := alike.left u member inhabited
      exact absurd impossible List.not_mem_nil

theorem foldl_addMember_eq_append {types members : List Ty}
    (inhabited : ∀ t ∈ types, t.isBottom = false)
    (distinct : (members ++ types).Pairwise fun t u => equal u t = false) :
    types.foldl addMember members = members ++ types := by
  induction types generalizing members with
  | nil => simp
  | cons t types ih =>
      have here := inhabited t List.mem_cons_self
      have apart : ∀ m ∈ members, equal t m = false := fun m member =>
        (List.pairwise_append.1 distinct).2.2 m member t List.mem_cons_self
      have added : addMember members t = members ++ [t] := by
        have fresh : (members.any fun m => t == m) = false :=
          List.any_eq_false.2 fun m member same =>
            Bool.noConfusion ((apart m member).symm.trans same)
        simp only [addMember, here, fresh, Bool.or_false, Bool.false_eq_true, if_false]
      rw [List.foldl_cons, added, ih (fun u member => inhabited u (List.mem_cons_of_mem t member))]
      · simp
      · simpa using distinct

theorem unionOf_singleton {t : Ty} (wellFormed : t.IsWellFormed) : unionOf [t] = t := by
  cases t with
  | union ts =>
      have canonical : IsCanonicalUnion (.union ts) := wellFormed.unions.here
      have flat : alternativesOf [.union ts] = ts := by
        rw [alternativesOf, canonical.alternatives_eq]
        exact List.append_nil ts
      have bounded : (alternativesOf [.union ts]).any isTop = false := by
        rw [flat, List.any_eq_false]
        intro t member
        simp [(canonical.2.2 t member).1]
      have distinct : distinctMembers ts = ts :=
        foldl_addMember_eq_append (fun t member => (canonical.2.2 t member).2.1) canonical.2.1
      rw [unionOf_eq_ofDistinct bounded, flat, distinct]
      rcases ts with _ | ⟨t, _ | ⟨u, rest⟩⟩
      · exact absurd canonical.1 (by decide)
      · exact absurd canonical.1 (by simp)
      · rfl
  | _ => rfl

/-- Well-formed types with equal alternatives are equal. -/
theorem equal_of_areAlike {a b : Ty} (ha : a.IsWellFormed) (hb : b.IsWellFormed)
    (alike : AreAlike a.alternatives b.alternatives) : equal a b = true := by
  rw [← unionOf_singleton ha, ← unionOf_singleton hb]
  refine equal_unionOf (by simpa using ha.toIsRegular) (by simpa using hb.toIsRegular) ?_
  simpa [alternativesOf] using alike

theorem areAlike_flatMap {ts : List Ty} {f g : Ty → List Ty}
    (alike : ∀ t ∈ ts, AreAlike (f t) (g t)) : AreAlike (ts.flatMap f) (ts.flatMap g) := by
  constructor
  · intro u inside inhabited
    obtain ⟨t, member, inside⟩ := List.mem_flatMap.1 inside
    obtain ⟨v, inside', same⟩ := (alike t member).left u inside inhabited
    exact ⟨v, List.mem_flatMap.2 ⟨t, member, inside'⟩, same⟩
  · intro u inside inhabited
    obtain ⟨t, member, inside⟩ := List.mem_flatMap.1 inside
    obtain ⟨v, inside', same⟩ := (alike t member).right u inside inhabited
    exact ⟨v, List.mem_flatMap.2 ⟨t, member, inside'⟩, same⟩

end FunctionSynthesis.Ty
