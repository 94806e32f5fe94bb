import FunctionSynthesis.Proofs.Ty.Join

/-!
# Widening is a closure operator

`promote` gives a type above its argument, keeps the order of types, changes nothing
the second time and commutes with joins (`promote_isClosureOperator`). The last two
hold up to equality, since the members of a union that is widened may come in another
order and fall together.
-/

namespace FunctionSynthesis.Ty

/-! ### Shapes -/

@[simp]
theorem promote_text (s : String) : (text s).promote = string :=
  rfl

@[simp]
theorem promote_top : top.promote = .top :=
  rfl

@[simp]
theorem promote_bottom : bottom.promote = .bottom :=
  rfl

@[simp]
theorem promote_nominal (name : String) : (nominal name).promote = .nominal name :=
  rfl

@[simp]
theorem promote_generic (base : String) (param : Ty) :
    (generic base param).promote = .generic base param.promote :=
  rfl

theorem promote_literal {v : Value} (scalar : v.isScalar = true) :
    (literal v).promote = .nominal v.className :=
  generalType_of_isScalar scalar

theorem promote_union (ts : List Ty) : (union ts).promote = unionOf (ts.map promote) :=
  congrArg unionOf (promoteAllWith_eq_map _ ts)

theorem promote_record (fields : List (String × Ty)) :
    (record fields).promote = .record (fields.map fun field => (field.1, field.2.promote)) :=
  congrArg record (promoteFieldsWith_eq_map _ fields)

theorem isUnion_promote {t : Ty} (ordinary : t.isOrdinary = true)
    (alone : t.isUnion = false) : t.promote.isUnion = false := by
  cases t with
  | literal v => rw [promote_literal (by simpa using ordinary)]; rfl
  | union ts => exact absurd alone Bool.noConfusion
  | _ => rfl

theorem IsSimple.promote {t : Ty} (simple : t.IsSimple) (ordinary : t.isOrdinary = true) :
    t.promote.IsSimple := by
  cases t with
  | literal v => rw [promote_literal (by simpa using ordinary)]; exact ⟨rfl, rfl, rfl⟩
  | top => exact absurd simple.1 Bool.noConfusion
  | bottom => exact absurd simple.2.1 Bool.noConfusion
  | union ts => exact absurd simple.2.2 Bool.noConfusion
  | _ => exact ⟨rfl, rfl, rfl⟩

theorem isWellFormed_promote {t : Ty} (wellFormed : t.IsWellFormed) :
    t.promote.IsWellFormed := by
  induction t with
  | literal v =>
      rw [promote_literal (by simpa using wellFormed.ordinary)]
      exact isWellFormed_of_leaf rfl rfl trivial trivial
  | text s => exact isWellFormed_of_leaf rfl rfl trivial trivial
  | generic base param ih =>
      rw [isWellFormed_generic] at wellFormed
      exact isWellFormed_generic.2 (ih wellFormed)
  | union ts ih =>
      rw [promote_union]
      refine isWellFormed_unionOf (List.forall_mem_map.2 fun t member => ?_)
      exact ih t member (wellFormed.of_mem_parts (mem_parts_of_member member))
  | record fields ih =>
      rw [isWellFormed_record] at wellFormed
      rw [promote_record, isWellFormed_record, List.map_map]
      exact ⟨wellFormed.1, List.forall_mem_map.2 fun field member =>
        ih field member (wellFormed.2 field member)⟩
  | _ => exact wellFormed

/-! ### The order -/

theorem le_promote {t : Ty} (wellFormed : t.IsWellFormed) : t.le t.promote = true := by
  induction t with
  | literal v =>
      have scalar : v.isScalar = true := by simpa using wellFormed.ordinary
      have wide := isWellFormed_promote wellFormed
      rw [promote_literal scalar] at wide ⊢
      rw [le_iff_of_isSimple wellFormed.ordinary wide.toIsRegular ⟨rfl, rfl, rfl⟩ rfl]
      exact Or.inr (Or.inr rfl)
  | text s => rfl
  | generic base param ih =>
      rw [promote_generic, generic_le_generic_iff]
      exact ⟨Or.inl rfl, ih (isWellFormed_generic.1 wellFormed)⟩
  | union ts ih =>
      have wide := isWellFormed_promote wellFormed
      obtain ⟨canonical, inner⟩ := isWellFormed_union.1 wellFormed
      rw [wellFormed.le_iff_forall_alternatives, canonical.alternatives_eq]
      intro t member
      have widened : ∀ u ∈ ts.map promote, u.IsWellFormed :=
        List.forall_mem_map.2 fun u member => isWellFormed_promote (inner u member)
      rw [promote_union] at wide ⊢
      exact le_trans (inner t member).toIsRegular
        (isWellFormed_promote (inner t member)).toIsRegular wide.toIsRegular
        (ih t member (inner t member)) (le_unionOf widened _ (List.mem_map_of_mem member))
  | record fields ih =>
      have wide := isWellFormed_promote wellFormed
      rw [promote_record] at wide ⊢
      rw [record_le_record_iff _ wide.toIsRegular]
      refine List.forall_mem_map.2 fun field member => ?_
      refine ⟨field.2, wellFormed.toIsRegular.lastField?_of_mem member, ?_⟩
      exact ih field member ((isWellFormed_record.1 wellFormed).2 field member)
  | _ => exact le_refl rfl

theorem promote_le_promote_of_mem_alternatives {t u : Ty} (wellFormed : t.IsWellFormed)
    (alternative : u ∈ t.alternatives) : u.promote.le t.promote = true := by
  cases t with
  | union ts =>
      obtain ⟨canonical, inner⟩ := isWellFormed_union.1 wellFormed
      rw [canonical.alternatives_eq] at alternative
      rw [promote_union]
      refine le_unionOf ?_ _ (List.mem_map_of_mem alternative)
      exact List.forall_mem_map.2 fun t member => isWellFormed_promote (inner t member)
  | _ =>
      rw [List.eq_of_mem_singleton alternative]
      exact le_refl (isOrdinary_promote wellFormed.ordinary)

/-- Widening keeps the order from a simple type on if it does so where the order is
settled by the shapes of two simple types. -/
theorem IsSimple.promote_le_promote {a b : Ty} (simple : a.IsSimple) (ha : a.IsWellFormed)
    (hb : b.IsWellFormed)
    (narrower : ∀ u : Ty, u.IsWellFormed → IsNarrower a u →
      IsNarrower a.promote u.promote ∧ u.promote.isUnion = false)
    (below : a.le b = true) : a.promote.le b.promote = true := by
  obtain ⟨u, alternative, below⟩ := (le_iff_exists_alternative simple).1 below
  have hu := hb.of_mem_parts (mem_parts_of_mem_alternatives alternative)
  have alone := (alternatives_of_mem_alternatives alternative).2
  have wide := (isWellFormed_promote ha).toIsRegular
  have wide' := (isWellFormed_promote hu).toIsRegular
  have simple' := simple.promote ha.ordinary
  have step : a.promote.le u.promote = true := by
    rcases extreme_or_isSimple alone with rfl | rfl | notExtreme
    · exact le_top _
    · exact absurd ((simple.not_le_bottom ha.toIsRegular).symm.trans below) Bool.noConfusion
    · rw [le_iff_of_isSimple ha.ordinary hu.toIsRegular simple alone] at below
      rcases below with rfl | rfl | reason
      · exact le_top _
      · exact (le_iff_of_isSimple wide.ordinary wide' simple' rfl).2 (Or.inr (Or.inl rfl))
      · obtain ⟨reason, alone'⟩ := narrower u hu reason
        exact (le_iff_of_isSimple wide.ordinary wide' simple' alone').2 (Or.inr (Or.inr reason))
  exact Ty.le_trans wide wide' (isWellFormed_promote hb).toIsRegular step
    (promote_le_promote_of_mem_alternatives hb alternative)

theorem promote_le_promote {a b : Ty} (ha : a.IsWellFormed) (hb : b.IsWellFormed)
    (below : a.le b = true) : a.promote.le b.promote = true := by
  induction a generalizing b with
  | top =>
      rw [(top_le_iff b).1 below]
      rfl
  | bottom => exact bottom_le _
  | union ts ih =>
      obtain ⟨canonical, inner⟩ := isWellFormed_union.1 ha
      rw [ha.le_iff_forall_alternatives, canonical.alternatives_eq] at below
      have widened : ∀ u ∈ ts.map promote, u.IsWellFormed :=
        List.forall_mem_map.2 fun u member => isWellFormed_promote (inner u member)
      rw [promote_union, unionOf_le_iff widened (isWellFormed_promote hb).toIsRegular]
      exact List.forall_mem_map.2 fun t member =>
        ih t member (inner t member) hb (below t member)
  | literal v =>
      refine IsSimple.promote_le_promote ⟨rfl, rfl, rfl⟩ ha hb (fun u hu reason => ?_) below
      rw [promote_literal (by simpa using ha.ordinary)]
      cases u with
      | literal w =>
          have scalar : w.isScalar = true := by simpa using hu.ordinary
          rw [promote_literal scalar]
          exact ⟨Value.className_eq_of_sameLiteral reason, rfl⟩
      | nominal name => exact ⟨reason, rfl⟩
      | _ => exact reason.elim
  | text s =>
      refine IsSimple.promote_le_promote ⟨rfl, rfl, rfl⟩ ha hb (fun u _ reason => ?_) below
      cases u with
      | text r => exact ⟨rfl, rfl⟩
      | nominal name => exact ⟨reason, rfl⟩
      | _ => exact reason.elim
  | generic base param ih =>
      refine IsSimple.promote_le_promote ⟨rfl, rfl, rfl⟩ ha hb (fun u hu reason => ?_) below
      cases u with
      | generic base' param' =>
          exact ⟨⟨reason.1, ih (isWellFormed_generic.1 ha) (isWellFormed_generic.1 hu)
            reason.2⟩, rfl⟩
      | nominal name => exact ⟨reason, rfl⟩
      | _ => exact reason.elim
  | record fs ih =>
      refine IsSimple.promote_le_promote ⟨rfl, rfl, rfl⟩ ha hb (fun u hu reason => ?_) below
      rw [promote_record]
      cases u with
      | record gs =>
          rw [promote_record]
          refine ⟨List.forall_mem_map.2 fun g member => ?_, rfl⟩
          obtain ⟨t, found, below⟩ := reason g member
          have inside := mem_of_lastField? found
          refine ⟨t.promote, by rw [lastField?_map, found]; rfl, ?_⟩
          exact ih _ inside ((isWellFormed_record.1 ha).2 _ inside)
            ((isWellFormed_record.1 hu).2 g member) below
      | nominal name => exact ⟨reason, rfl⟩
      | _ => exact reason.elim
  | nominal name =>
      refine IsSimple.promote_le_promote ⟨rfl, rfl, rfl⟩ ha hb (fun u _ reason => ?_) below
      rw [eq_of_isNarrower_nominal reason]
      exact ⟨rfl, rfl⟩
  | _ =>
      refine IsSimple.promote_le_promote ⟨rfl, rfl, rfl⟩ ha hb (fun u _ reason => ?_) below
      cases u <;> first | exact ⟨reason, rfl⟩ | exact reason.elim

/-! ### Equality and joins -/

theorem AreAlike.map_promote {ts us : List Ty} (alike : AreAlike ts us)
    (preserved : ∀ t ∈ ts, ∀ u ∈ us, equal t u = true →
      equal t.promote u.promote = true) :
    AreAlike (ts.map promote) (us.map promote) := by
  have inhabited : ∀ t : Ty, t.promote.isBottom = false → t.isBottom = false := by
    intro t inhabited
    rw [← Bool.not_eq_true]
    intro empty
    rw [isBottom_iff.1 empty] at inhabited
    exact Bool.noConfusion inhabited
  constructor
  · refine List.forall_mem_map.2 fun t member notEmpty => ?_
    obtain ⟨u, member', same⟩ := alike.left t member (inhabited t notEmpty)
    exact ⟨u.promote, List.mem_map_of_mem member', preserved t member u member' same⟩
  · refine List.forall_mem_map.2 fun u member notEmpty => ?_
    obtain ⟨t, member', same⟩ := alike.right u member (inhabited u notEmpty)
    exact ⟨t.promote, List.mem_map_of_mem member', preserved t member' u member same⟩

/-- No simple type becomes a union when it is widened. -/
theorem alternativesOf_map_promote {ts : List Ty} (simple : ∀ t ∈ ts, t.IsSimple)
    (ordinary : ∀ t ∈ ts, t.isOrdinary = true) :
    alternativesOf (ts.map promote) = ts.map promote :=
  alternativesOf_eq_self <| List.forall_mem_map.2 fun t member =>
    ((simple t member).promote (ordinary t member)).2.2

theorem equal_promote {a b : Ty} (ha : a.IsWellFormed) (hb : b.IsWellFormed)
    (same : equal a b = true) : equal a.promote b.promote = true := by
  induction a generalizing b with
  | literal v =>
      cases b with
      | literal w =>
          have scalar : w.isScalar = true := by simpa using hb.ordinary
          rw [promote_literal (by simpa using ha.ordinary), promote_literal scalar,
            Value.className_eq_of_sameLiteral same]
          exact equal_refl rfl
      | _ => simp [equal] at same
  | generic base param ih =>
      cases b with
      | generic base' param' =>
          rw [equal, Bool.and_eq_true] at same
          rw [promote_generic, promote_generic, equal, Bool.and_eq_true]
          exact ⟨same.1, ih (isWellFormed_generic.1 ha) (isWellFormed_generic.1 hb) same.2⟩
      | _ => simp [equal] at same
  | union ts ih =>
      cases b with
      | union us =>
          obtain ⟨canonical, left⟩ := isWellFormed_union.1 ha
          obtain ⟨canonical', right⟩ := isWellFormed_union.1 hb
          have alike : AreAlike ts us := by
            rw [equal_union_iff] at same
            constructor
            · intro t member _
              obtain ⟨u, member', _, same⟩ := same.1 t member
              exact ⟨u, member', same⟩
            · intro u member _
              obtain ⟨t, member', _, same⟩ := same.2 u member
              exact ⟨t, member', same⟩
          rw [promote_union, promote_union]
          refine equal_unionOf ?_ ?_ ?_
          · exact List.forall_mem_map.2 fun t member =>
              (isWellFormed_promote (left t member)).toIsRegular
          · exact List.forall_mem_map.2 fun u member =>
              (isWellFormed_promote (right u member)).toIsRegular
          · rw [alternativesOf_map_promote canonical.2.2 fun t member => (left t member).ordinary,
              alternativesOf_map_promote canonical'.2.2 fun u member => (right u member).ordinary]
            exact alike.map_promote fun t member u member' same =>
              ih t member (left t member) (right u member') same
      | _ => simp [equal] at same
  | record fs ih =>
      cases b with
      | record gs =>
          obtain ⟨matched, covered⟩ := (equal_record_iff fs gs).1 same
          rw [promote_record, promote_record, equal_record_iff]
          constructor
          · intro key t found
            rw [lastField?_map, Option.map_eq_some_iff] at found
            obtain ⟨t, found, rfl⟩ := found
            obtain ⟨u, found', same⟩ := matched key t found
            refine ⟨u.promote, by rw [lastField?_map, found']; rfl, ?_⟩
            have inside := mem_of_lastField? found
            exact ih _ inside ((isWellFormed_record.1 ha).2 _ inside)
              ((isWellFormed_record.1 hb).2 _ (mem_of_lastField? found')) same
          · refine List.forall_mem_map.2 fun g member => ?_
            obtain ⟨t, found⟩ := covered g member
            exact ⟨t.promote, by rw [lastField?_map, found]; rfl⟩
      | _ => simp [equal] at same
  | text s => cases b <;> first | rfl | simp [equal] at same
  | _ => cases b <;> first | exact same | simp [equal] at same

/-- Widening a type widens its alternatives. -/
theorem areAlike_alternatives_promote {t : Ty} (wellFormed : t.IsWellFormed) :
    AreAlike t.promote.alternatives (t.alternatives.map promote) := by
  rcases alone : t.isUnion with _ | _
  · rw [alternatives_eq_singleton alone, List.map_singleton,
      alternatives_eq_singleton (isUnion_promote wellFormed.ordinary alone)]
    exact .refl (by simpa using (isWellFormed_promote wellFormed).hashable)
  · cases t with
    | union ts =>
        obtain ⟨canonical, inner⟩ := isWellFormed_union.1 wellFormed
        have ordinary := fun t member => (inner t member).ordinary
        have flat := alternativesOf_map_promote canonical.2.2 ordinary
        have bounded : (alternativesOf (ts.map promote)).any isTop = false := by
          rw [flat, List.any_map, List.any_eq_false]
          intro t member greatest
          have simple := (canonical.2.2 t member).promote (ordinary t member)
          exact absurd (simple.1.symm.trans greatest) Bool.noConfusion
        have widened : ∀ u ∈ ts.map promote, u.isOrdinary = true :=
          List.forall_mem_map.2 fun t member => isOrdinary_promote (ordinary t member)
        have alike := areAlike_alternatives_unionOf widened bounded
        rw [promote_union, canonical.alternatives_eq]
        rwa [flat] at alike
    | _ => cases alone

theorem isTop_promote {t : Ty} (ordinary : t.isOrdinary = true)
    (alone : t.isUnion = false) : t.promote.isTop = t.isTop := by
  rcases extreme_or_isSimple alone with rfl | rfl | simple
  · rfl
  · rfl
  · rw [(simple.promote ordinary).1, simple.1]

theorem promote_unionOf {ts : List Ty} (wellFormed : ∀ t ∈ ts, t.IsWellFormed) :
    equal (unionOf ts).promote (unionOf (ts.map promote)) = true := by
  have joined := isWellFormed_unionOf wellFormed
  have widened : ∀ u ∈ ts.map promote, u.IsWellFormed :=
    List.forall_mem_map.2 fun t member => isWellFormed_promote (wellFormed t member)
  have flat := isWellFormed_of_mem_alternativesOf wellFormed
  have flat' := isWellFormed_of_mem_alternativesOf widened
  have alike : AreAlike ((alternativesOf ts).map promote)
      (alternativesOf (ts.map promote)) := by
    rw [alternativesOf_eq_flatMap, alternativesOf_eq_flatMap, List.flatMap_map, List.map_flatMap]
    refine areAlike_flatMap fun t member => ?_
    refine (areAlike_alternatives_promote (wellFormed t member)).symm ?_
    refine List.forall_mem_map.2 fun u alternative => IsRegular.hashable ?_
    exact (isWellFormed_promote ((wellFormed t member).of_mem_parts
      (mem_parts_of_mem_alternatives alternative))).toIsRegular
  have greatest : (alternativesOf ts).any isTop = (alternativesOf (ts.map promote)).any isTop := by
    rw [← alike.any_isTop, List.any_map, Bool.eq_iff_iff, List.any_eq_true, List.any_eq_true]
    refine exists_congr fun t => and_congr_right fun alternative => ?_
    obtain ⟨_, _, alternative'⟩ := mem_alternativesOf.1 alternative
    rw [Function.comp, isTop_promote (flat t alternative).ordinary
      (alternatives_of_mem_alternatives alternative').2]
  rcases bounded : (alternativesOf ts).any isTop with _ | _
  · have kept := (areAlike_alternatives_unionOf (fun t member => (wellFormed t member).ordinary)
      bounded).map_promote fun t inside u inside' same => equal_promote
        (joined.of_mem_parts (mem_parts_of_mem_alternatives inside)) (flat u inside') same
    have kept' := areAlike_alternatives_unionOf (fun t member => (widened t member).ordinary)
      (greatest.symm.trans bounded)
    have wide := isWellFormed_unionOf widened
    refine equal_of_areAlike (isWellFormed_promote joined) wide ?_
    refine (areAlike_alternatives_promote joined).trans (kept.trans (alike.trans ?_ ?_) ?_) ?_
    · exact kept'.symm fun u member => (flat' u member).hashable
    all_goals exact fun u member => (wide.of_mem_alternatives member).hashable
  · have joined : unionOf ts = .top := by simp [unionOf, bounded]
    have joined' : unionOf (ts.map promote) = .top := by
      simp [unionOf, greatest.symm.trans bounded]
    rw [joined, joined']
    rfl

/-- Nothing is left to widen in a widened type. -/
theorem promote_promote {t : Ty} (wellFormed : t.IsWellFormed) :
    equal t.promote.promote t.promote = true := by
  induction t with
  | literal v =>
      rw [promote_literal (by simpa using wellFormed.ordinary)]
      exact equal_refl rfl
  | generic base param ih =>
      rw [promote_generic, promote_generic, equal, ih (isWellFormed_generic.1 wellFormed)]
      simp
  | union ts ih =>
      obtain ⟨canonical, inner⟩ := isWellFormed_union.1 wellFormed
      have widened : ∀ u ∈ ts.map promote, u.IsWellFormed :=
        List.forall_mem_map.2 fun t member => isWellFormed_promote (inner t member)
      have widened' : ∀ u ∈ (ts.map promote).map promote, u.IsWellFormed :=
        List.forall_mem_map.2 fun u member => isWellFormed_promote (widened u member)
      rw [promote_union]
      refine equal_trans (isWellFormed_unionOf widened).hashable (promote_unionOf widened) ?_
      have simple : ∀ u ∈ ts.map promote, u.IsSimple := List.forall_mem_map.2 fun t member =>
        (canonical.2.2 t member).promote (inner t member).ordinary
      have again : AreAlike ((ts.map promote).map promote) (ts.map promote) := by
        rw [List.map_map]
        constructor
        · refine List.forall_mem_map.2 fun t member _ => ?_
          exact ⟨t.promote, List.mem_map_of_mem member, ih t member (inner t member)⟩
        · refine List.forall_mem_map.2 fun t member _ => ?_
          exact ⟨t.promote.promote, List.mem_map_of_mem member, ih t member (inner t member)⟩
      refine equal_unionOf (fun u member => (widened' u member).toIsRegular)
        (fun u member => (widened u member).toIsRegular) ?_
      rwa [alternativesOf_map_promote simple fun u member => (widened u member).ordinary,
        alternativesOf_eq_self fun u member => (simple u member).2.2]
  | record fields ih =>
      rw [promote_record, promote_record, equal_record_iff]
      constructor
      · intro key again found
        rw [lastField?_map, lastField?_map, Option.map_map, Option.map_eq_some_iff] at found
        obtain ⟨t, found, rfl⟩ := found
        refine ⟨t.promote, by rw [lastField?_map, found]; rfl, ?_⟩
        have inside := mem_of_lastField? found
        exact ih _ inside ((isWellFormed_record.1 wellFormed).2 _ inside)
      · refine List.forall_mem_map.2 fun field member => ?_
        have found := wellFormed.toIsRegular.lastField?_of_mem member
        exact ⟨field.2.promote.promote, by rw [lastField?_map, lastField?_map, found]; rfl⟩
  | _ => exact equal_refl rfl

/-! ### The laws -/

/-- Widening is a closure operator on the well-formed types, ordered by subtyping, and
commutes with joins. None of the comparisons and joins fails. -/
theorem promote_isClosureOperator :
    (∀ t : Ty, t.IsWellFormed → t.checkedLe t.promote = .ok true) ∧
    (∀ a b : Ty, a.IsWellFormed → b.IsWellFormed → a.checkedLe b = .ok true →
      a.promote.checkedLe b.promote = .ok true) ∧
    (∀ t : Ty, t.IsWellFormed → t.promote.promote.checkedEqual t.promote = .ok true) ∧
    ∀ ts : List Ty, (∀ t ∈ ts, t.IsWellFormed) →
      ∃ join wide, checkedUnion ts = .ok join ∧ checkedUnion (ts.map promote) = .ok wide ∧
        join.promote.checkedEqual wide = .ok true := by
  have widened : ∀ t : Ty, t.IsWellFormed → t.promote.isOrdinary = true :=
    fun t wellFormed => isOrdinary_promote wellFormed.ordinary
  refine ⟨fun t ht => ?_, fun a b ha hb below => ?_, fun t ht => ?_, fun ts ht => ?_⟩
  · rw [checkedLe_of_isOrdinary ht.ordinary (widened t ht), le_promote ht]
  · rw [checkedLe_of_isOrdinary ha.ordinary hb.ordinary, Except.ok.injEq] at below
    rw [checkedLe_of_isOrdinary (widened a ha) (widened b hb), promote_le_promote ha hb below]
  · rw [checkedEqual_of_isOrdinary (isOrdinary_promote (widened t ht)) (widened t ht),
      Except.ok.injEq]
    exact promote_promote ht
  · have ordinary := fun t member => (ht t member).ordinary
    have ordinary' : ∀ u ∈ ts.map promote, u.isOrdinary = true :=
      List.forall_mem_map.2 fun t member => widened t (ht t member)
    refine ⟨_, _, checkedUnion_of_isOrdinary ordinary, checkedUnion_of_isOrdinary ordinary', ?_⟩
    rw [checkedEqual_of_isOrdinary (isOrdinary_promote (isOrdinary_unionOf ordinary))
      (isOrdinary_unionOf ordinary'), Except.ok.injEq]
    exact promote_unionOf ht

/-- A union of two numbers and a text, which widens to one of two classes, and a list
of types that is joined in another order after it is widened. -/
theorem promote_isClosureOperator_unions :
    let narrow : Ty := .union [.literal (.int 1), .literal (.int 2), .text "a"]
    let middle : Ty := .union [.text "a", .literal (.int 2), .literal (.int 1), .integer]
    let types : List Ty := [.generic "list" narrow, narrow, .record [("x", middle)]]
    narrow.checkedLe narrow.promote = .ok true ∧
    (narrow.checkedLe middle = .ok true ∧
      narrow.promote.checkedLe middle.promote = .ok true) ∧
    middle.promote.promote.checkedEqual middle.promote = .ok true ∧
    ∃ join wide, checkedUnion types = .ok join ∧ checkedUnion (types.map promote) = .ok wide ∧
      join.promote.checkedEqual wide = .ok true := by
  intro narrow middle types
  have wellFormed : narrow.IsWellFormed ∧ middle.IsWellFormed := by
    refine ⟨⟨⟨rfl, ?_⟩, ?_⟩, ⟨⟨rfl, ?_⟩, ?_⟩⟩ <;>
      simp [Everywhere, parts, partsOfAll, HasDistinctNames, IsCanonicalUnion, IsSimple,
        equal, isTop, isBottom, isUnion, narrow, middle, integer] <;>
      decide
  obtain ⟨hn, hm⟩ := wellFormed
  have ht : ∀ t ∈ types, t.IsWellFormed := by
    simp only [types, List.forall_mem_cons]
    refine ⟨isWellFormed_generic.2 hn, hn, isWellFormed_record.2 ⟨by simp, ?_⟩, by simp⟩
    simpa using hm
  have below : narrow.checkedLe middle = .ok true := by rfl
  obtain ⟨extensive, monotone, idempotent, joins⟩ := promote_isClosureOperator
  exact ⟨extensive narrow hn, ⟨below, monotone narrow middle hn hm below⟩, idempotent middle hm,
    joins types ht⟩

end FunctionSynthesis.Ty
