import Mathlib.Data.List.Pairwise
import FunctionSynthesis.Proofs.Ty.Order

/-!
# Subtyping is a partial order

Types are well-formed when their unions are canonical, as those that `unionOf`
builds are (`isWellFormed_unionOf`). On well-formed types without redundant members
of unions subtyping is antisymmetric up to equality, so that it is a partial order
(`le_partialOrder`).
-/

namespace FunctionSynthesis.Ty

/-! ### Well-formed types -/

/-- Whether a type, if it is a union, has at least two members, which are distinct
and neither unions nor extreme types. -/
def IsCanonicalUnion : Ty → Prop
  | .union ts =>
      2 ≤ ts.length ∧ (ts.Pairwise fun t u => equal u t = false) ∧ ∀ t ∈ ts, t.IsSimple
  | _ => True

/-- Whether a type is regular and its unions are canonical. -/
structure IsWellFormed (t : Ty) : Prop extends t.IsRegular where
  unions : t.Everywhere IsCanonicalUnion

/-- Whether no member of a type, if it is a union, is below another one. -/
def IsIrredundant : Ty → Prop
  | .union ts => ts.Pairwise fun t u => t.le u = false ∧ u.le t = false
  | _ => True

theorem IsWellFormed.of_mem_parts {t u : Ty} (wellFormed : t.IsWellFormed)
    (part : u ∈ t.parts) : u.IsWellFormed :=
  ⟨wellFormed.toIsRegular.of_mem_parts part, wellFormed.unions.of_mem_parts part⟩

theorem isWellFormed_of_leaf {t : Ty} (leaf : t.parts = [t]) (ordinary : t.isOrdinary = true)
    (names : HasDistinctNames t) (canonical : IsCanonicalUnion t) : t.IsWellFormed := by
  refine ⟨⟨ordinary, ?_⟩, ?_⟩ <;> rw [Everywhere, leaf, List.forall_mem_singleton]
  · exact names
  · exact canonical

theorem isWellFormed_generic {base : String} {param : Ty} :
    (generic base param).IsWellFormed ↔ param.IsWellFormed := by
  refine ⟨fun wellFormed => wellFormed.of_mem_parts ?_, fun inner => ⟨⟨?_, ?_⟩, ?_⟩⟩
  · exact List.mem_cons_of_mem _ param.mem_parts_self
  · exact (isOrdinary_generic base param).trans inner.ordinary
  · exact (everywhere_generic base param).2 ⟨trivial, inner.names⟩
  · exact (everywhere_generic base param).2 ⟨trivial, inner.unions⟩

theorem isWellFormed_union {ts : List Ty} :
    (union ts).IsWellFormed ↔
      IsCanonicalUnion (.union ts) ∧ ∀ t ∈ ts, t.IsWellFormed := by
  constructor
  · intro wellFormed
    exact ⟨wellFormed.unions.here, fun t member =>
      wellFormed.of_mem_parts (mem_parts_of_member member)⟩
  · rintro ⟨canonical, inner⟩
    refine ⟨⟨?_, ?_⟩, ?_⟩
    · exact (isOrdinary_union ts).2 fun t member => (inner t member).ordinary
    · exact (everywhere_union ts).2 ⟨trivial, fun t member => (inner t member).names⟩
    · exact (everywhere_union ts).2 ⟨canonical, fun t member => (inner t member).unions⟩

theorem isWellFormed_record {fields : List (String × Ty)} :
    (record fields).IsWellFormed ↔
      (fields.map Prod.fst).Nodup ∧ ∀ field ∈ fields, field.2.IsWellFormed := by
  constructor
  · intro wellFormed
    exact ⟨wellFormed.names.here, fun field member =>
      wellFormed.of_mem_parts (mem_parts_of_field member)⟩
  · rintro ⟨distinct, inner⟩
    refine ⟨⟨?_, ?_⟩, ?_⟩
    · exact (isOrdinary_record fields).2 fun field member => (inner field member).ordinary
    · exact (everywhere_record fields).2 ⟨distinct, fun field member => (inner field member).names⟩
    · exact (everywhere_record fields).2 ⟨trivial, fun field member => (inner field member).unions⟩

theorem IsIrredundant.eq_of_le {ts : List Ty} {t u : Ty}
    (irredundant : IsIrredundant (.union ts)) (left : t ∈ ts) (right : u ∈ ts)
    (below : t.le u = true) : t = u := by
  by_contra different
  have symmetric : Std.Symm fun t u : Ty => t.le u = false ∧ u.le t = false :=
    ⟨fun _ _ apart => apart.symm⟩
  have notBelow := (List.Pairwise.forall irredundant left right different).1
  exact absurd (below.symm.trans notBelow) Bool.noConfusion

theorem IsSimple.le_union_iff {a : Ty} {us : List Ty} (simple : a.IsSimple)
    (canonical : IsCanonicalUnion (.union us)) :
    a.le (.union us) = true ↔ ∃ u ∈ us, a.le u = true := by
  have alone : ∀ t ∈ us, t.alternatives = [t] := fun t member =>
    alternatives_eq_singleton (canonical.2.2 t member).2.2
  have same : ∀ u, u ∈ (Ty.union us).alternatives ↔ u ∈ us := by
    intro u
    rw [alternatives_union, List.mem_flatMap]
    constructor
    · rintro ⟨t, member, alternative⟩
      rw [alone t member, List.mem_singleton] at alternative
      exact alternative ▸ member
    · intro member
      exact ⟨u, member, by simp [alone u member]⟩
  rw [le_iff_exists_alternative simple]
  simp only [same]

/-- No simple type is as wide as a union of which no member is below another. -/
theorem IsSimple.not_le_union {a : Ty} {us : List Ty} (simple : a.IsSimple)
    (ha : a.IsRegular) (hb : (union us).IsWellFormed)
    (irredundant : IsIrredundant (.union us)) (below : a.le (.union us) = true) :
    (Ty.union us).le a = false := by
  rw [← Bool.not_eq_true, union_le_iff]
  obtain ⟨widest, member, below⟩ := (simple.le_union_iff hb.unions.here).1 below
  have regular : ∀ u ∈ us, u.IsRegular := fun u inside => hb.toIsRegular.of_mem_union inside
  rintro (same | rfl | ⟨_, above⟩)
  · cases a <;> simp_all [equal, IsSimple, isUnion]
  · simp [IsSimple, isTop] at simple
  · have all : ∀ u ∈ us, u = widest := by
      intro u inside
      have wide := Ty.le_trans (regular u inside) ha (regular widest member)
        (above u inside) below
      exact irredundant.eq_of_le inside member wide
    have several : 2 ≤ us.length := hb.unions.here.1
    rcases us with _ | ⟨first, _ | ⟨second, rest⟩⟩
    · exact absurd several (by decide)
    · exact absurd several (by simp)
    · have apart := (List.pairwise_cons.1 irredundant).1 second List.mem_cons_self
      have same : first = second :=
        (all first List.mem_cons_self).trans (all second (by simp)).symm
      rw [← same, le_of_equal (equal_refl (regular first List.mem_cons_self).hashable)]
        at apart
      exact Bool.noConfusion apart.1

/-! ### Antisymmetry -/

theorem exists_le_of_union_le {ts us : List Ty} (ht : IsCanonicalUnion (.union ts))
    (hu : IsCanonicalUnion (.union us)) (below : (Ty.union ts).le (.union us) = true) :
    ∀ t ∈ ts, ∃ u ∈ us, t.le u = true := by
  intro t left
  rcases (union_le_iff ts (.union us)).1 below with same | impossible | ⟨_, all⟩
  · obtain ⟨u, right, _, same⟩ := ((equal_union_iff ts us).1 same).1 t left
    exact ⟨u, right, le_of_equal same⟩
  · cases impossible
  · exact ((ht.2.2 t left).le_union_iff hu).1 (all t left)

/-- Of two types below each other, one of them simple, each is above the other for a
reason, or both are the class of all values. -/
theorem IsSimple.equal_of_le {a b : Ty} (simple : a.IsSimple) (ha : a.IsRegular)
    (hb : b.IsWellFormed) (irredundant : IsIrredundant b)
    (narrower : IsNarrower a b → IsNarrower b a → equal a b = true)
    (first : a.le b = true) (second : b.le a = true) : equal a b = true := by
  rcases alone : b.isUnion with _ | _
  · rcases extreme_or_isSimple alone with rfl | rfl | simple'
    · rw [(top_le_iff a).1 second]
      rfl
    · rw [simple.not_le_bottom ha] at first
      exact absurd first Bool.false_ne_true
    · rw [le_iff_of_isSimple ha.ordinary hb.toIsRegular simple alone] at first
      rw [le_iff_of_isSimple hb.ordinary ha simple' simple.2.2] at second
      rcases first with rfl | rfl | first
      · simp [IsSimple, isTop] at simple'
      · rcases second with rfl | rfl | second
        · simp [IsSimple, isTop] at simple
        · rfl
        · cases a <;> simp_all [IsNarrower, equal]
      · rcases second with rfl | rfl | second
        · simp [IsSimple, isTop] at simple
        · cases b <;> simp_all [IsNarrower, equal]
        · exact narrower first second
  · cases b with
    | union us =>
        rw [simple.not_le_union ha hb irredundant first] at second
        exact absurd second Bool.false_ne_true
    | _ => simp [isUnion] at alone

theorem le_antisymm {a b : Ty} (ha : a.IsWellFormed) (hb : b.IsWellFormed)
    (ia : a.Everywhere IsIrredundant) (ib : b.Everywhere IsIrredundant)
    (first : a.le b = true) (second : b.le a = true) : equal a b = true := by
  induction a generalizing b with
  | top =>
      rw [(top_le_iff b).1 first]
      rfl
  | bottom =>
      rw [(le_bottom_iff hb.toIsRegular).1 second]
      rfl
  | union ts ih =>
      rcases alone : b.isUnion with _ | _
      · rcases extreme_or_isSimple alone with rfl | rfl | simple
        · simp [top_le_iff] at second
        · simp [le_bottom_iff ha.toIsRegular] at first
        · rw [simple.not_le_union hb.toIsRegular ha ia.here second] at first
          exact absurd first Bool.false_ne_true
      · cases b with
        | union us =>
            have upward := exists_le_of_union_le ha.unions.here hb.unions.here first
            have downward := exists_le_of_union_le hb.unions.here ha.unions.here second
            have left := fun t (member : t ∈ ts) => ha.of_mem_parts (mem_parts_of_member member)
            have right := fun u (member : u ∈ us) => hb.of_mem_parts (mem_parts_of_member member)
            have matched : ∀ t ∈ ts, ∀ u ∈ us, t.le u = true → u.le t = true →
                isWrittenLike t u = true ∧ equal t u = true := by
              intro t here u there above below
              have same := ih t here (left t here) (right u there)
                (ia.of_mem_parts (mem_parts_of_member here))
                (ib.of_mem_parts (mem_parts_of_member there)) above below
              exact ⟨isWrittenLike_of_equal (left t here).toIsRegular
                (right u there).toIsRegular same, same⟩
            rw [equal_union_iff]
            constructor
            · intro t here
              obtain ⟨u, there, above⟩ := upward t here
              obtain ⟨t', here', below⟩ := downward u there
              have around := le_trans (left t here).toIsRegular (right u there).toIsRegular
                (left t' here').toIsRegular above below
              obtain rfl := ia.here.eq_of_le here here' around
              exact ⟨u, there, matched t here u there above below⟩
            · intro u there
              obtain ⟨t, here, below⟩ := downward u there
              obtain ⟨u', there', above⟩ := upward t here
              have around := le_trans (right u there).toIsRegular (left t here).toIsRegular
                (right u' there').toIsRegular below above
              obtain rfl := ib.here.eq_of_le there there' around
              exact ⟨t, here, matched t here u there above below⟩
        | _ => simp [isUnion] at alone
  | generic base param ih =>
      refine IsSimple.equal_of_le ⟨rfl, rfl, rfl⟩ ha.toIsRegular hb ib.here ?_ first second
      intro first second
      cases b with
      | generic base' param' =>
          have inner : param ∈ (generic base param).parts :=
            List.mem_cons_of_mem _ param.mem_parts_self
          have inner' : param' ∈ (generic base' param').parts :=
            List.mem_cons_of_mem _ param'.mem_parts_self
          have bases : base = base' := by
            rcases first.1 with same | object
            · exact same
            · rcases second.1 with same | object'
              · exact same.symm
              · exact object'.trans object.symm
          rw [equal, Bool.and_eq_true, beq_iff_eq]
          exact ⟨bases, ih (ha.of_mem_parts inner) (hb.of_mem_parts inner')
            (ia.of_mem_parts inner) (ib.of_mem_parts inner') first.2 second.2⟩
      | _ => exact second.elim
  | record fs ih =>
      refine IsSimple.equal_of_le ⟨rfl, rfl, rfl⟩ ha.toIsRegular hb ib.here ?_ first second
      intro first second
      cases b with
      | record gs =>
          rw [equal_record_iff]
          constructor
          · intro key t found
            have here := mem_of_lastField? found
            obtain ⟨u, found', below⟩ := second (key, t) here
            have there := mem_of_lastField? found'
            obtain ⟨t', found'', above⟩ := first (key, u) there
            obtain rfl : t' = t := by simpa [found] using found''.symm
            exact ⟨u, found', ih _ here (ha.of_mem_parts (mem_parts_of_field here))
              (hb.of_mem_parts (mem_parts_of_field there))
              (ia.of_mem_parts (mem_parts_of_field here))
              (ib.of_mem_parts (mem_parts_of_field there)) above below⟩
          · intro g there
            obtain ⟨t, found, _⟩ := first g there
            exact ⟨t, found⟩
      | _ => exact second.elim
  | _ =>
      refine IsSimple.equal_of_le ⟨rfl, rfl, rfl⟩ ha.toIsRegular hb ib.here ?_ first second
      intro first second
      cases b <;> simp_all [IsNarrower, equal]

/-! ### Canonical unions -/

theorem pairwise_foldl_addMember {types members : List Ty}
    (distinct : members.Pairwise fun t u => equal u t = false) :
    (types.foldl addMember members).Pairwise fun t u => equal u t = false := by
  induction types generalizing members with
  | nil => exact distinct
  | cons first types ih =>
      apply ih
      unfold addMember
      split
      · exact distinct
      · rename_i new
        rw [Bool.or_eq_true, not_or, List.any_eq_true] at new
        refine List.pairwise_append.2 ⟨distinct, List.pairwise_singleton _ _, ?_⟩
        intro t member u isNew
        rw [List.mem_singleton] at isNew
        subst isNew
        rw [← Bool.not_eq_true]
        exact fun same => new.2 ⟨t, member, same⟩

theorem isBottom_of_mem_distinctMembers {types members : List Ty}
    (inhabited : ∀ t ∈ members, t.isBottom = false) :
    ∀ t ∈ types.foldl addMember members, t.isBottom = false := by
  induction types generalizing members with
  | nil => exact inhabited
  | cons first types ih =>
      apply ih
      intro t member
      unfold addMember at member
      split at member
      · exact inhabited t member
      · rename_i new
        rw [Bool.or_eq_true, not_or] at new
        rcases List.mem_append.1 member with old | isNew
        · exact inhabited t old
        · rw [List.mem_singleton.1 isNew]
          simpa using new.1

theorem isCanonicalUnion_of_notUnion {t : Ty} (alone : t.isUnion = false) :
    IsCanonicalUnion t := by
  cases t with
  | union types => cases alone
  | _ => trivial

/-- Whatever types are joined, a union that comes of it is canonical. -/
theorem isCanonicalUnion_unionOf (types : List Ty) : IsCanonicalUnion (unionOf types) := by
  have alone : ∀ u ∈ distinctMembers (alternativesOf types), u.isUnion = false := by
    intro u member
    have flat := mem_of_mem_distinctMembers member
    rw [alternativesOf_eq_flatMap, List.mem_flatMap] at flat
    obtain ⟨t, _, alternative⟩ := flat
    exact (alternatives_of_mem_alternatives alternative).2
  unfold unionOf
  simp only
  split
  · trivial
  · rename_i bounded
    split
    · trivial
    · rename_i t single
      exact isCanonicalUnion_of_notUnion (alone t (by simp [single]))
    · rename_i members notNone notOne
      rw [List.any_eq_true] at bounded
      refine ⟨?_, pairwise_foldl_addMember .nil, fun u member => ⟨?_, ?_, alone u member⟩⟩
      · rcases found : distinctMembers (alternativesOf types) with _ | ⟨t, _ | ⟨u, rest⟩⟩
        · exact absurd found notNone
        · exact absurd found (notOne t)
        · simp
      · rw [← Bool.not_eq_true]
        exact fun greatest => bounded ⟨u, mem_of_mem_distinctMembers member, greatest⟩
      · exact isBottom_of_mem_distinctMembers (by simp) u member

/-- What holds everywhere in types, in the least type and in canonical unions holds
everywhere in their join. -/
theorem everywhere_unionOf {condition : Ty → Prop} {types : List Ty}
    (each : ∀ t ∈ types, t.Everywhere condition) (bottom : condition .bottom)
    (union : ∀ ts, IsCanonicalUnion (.union ts) → condition (.union ts)) :
    (unionOf types).Everywhere condition := by
  have alternative : ∀ u ∈ alternativesOf types, u.Everywhere condition := by
    intro u member
    rw [alternativesOf_eq_flatMap, List.mem_flatMap] at member
    obtain ⟨t, inside, member⟩ := member
    exact (each t inside).of_mem_parts (mem_parts_of_mem_alternatives member)
  have kept : ∀ u ∈ distinctMembers (alternativesOf types), u.Everywhere condition :=
    fun u member => alternative u (mem_of_mem_distinctMembers member)
  have canonical := isCanonicalUnion_unionOf types
  rcases unionOf_cases types with
    ⟨greatest, joined⟩ | ⟨_, ⟨_, joined⟩ | ⟨t, single, joined⟩ | joined⟩
  · obtain ⟨u, member, isTop⟩ := List.any_eq_true.1 greatest
    rw [joined, ← isTop_iff.1 isTop]
    exact alternative u member
  · rw [joined]
    exact (everywhere_of_leaf rfl).2 bottom
  · rw [joined]
    exact kept t (by simp [single])
  · rw [joined] at canonical ⊢
    exact (everywhere_union _).2 ⟨union _ canonical, kept⟩

theorem isRegular_unionOf {types : List Ty} (regular : ∀ t ∈ types, t.IsRegular) :
    (unionOf types).IsRegular where
  ordinary := isOrdinary_unionOf fun t member => (regular t member).ordinary
  names := everywhere_unionOf (fun t member => (regular t member).names) trivial
    fun _ _ => trivial

/-- Joining well-formed types gives a well-formed type. -/
theorem isWellFormed_unionOf {types : List Ty}
    (wellFormed : ∀ t ∈ types, t.IsWellFormed) : (unionOf types).IsWellFormed where
  toIsRegular := isRegular_unionOf fun t member => (wellFormed t member).toIsRegular
  unions := everywhere_unionOf (fun t member => (wellFormed t member).unions) trivial
    fun _ => id

/-! ### The order -/

/-- Subtyping, which is decided for all ordinary types, is reflexive and transitive on
regular types, and antisymmetric on well-formed ones of which no union has a member
below another. -/
theorem le_partialOrder :
    (∀ a : Ty, a.IsRegular → a.checkedLe a = .ok true) ∧
    (∀ a b c : Ty, a.IsRegular → b.IsRegular → c.IsRegular →
      a.checkedLe b = .ok true → b.checkedLe c = .ok true → a.checkedLe c = .ok true) ∧
    ∀ a b : Ty, a.IsWellFormed → b.IsWellFormed →
      a.Everywhere IsIrredundant → b.Everywhere IsIrredundant →
      a.checkedLe b = .ok true → b.checkedLe a = .ok true →
      a.checkedEqual b = .ok true := by
  have decided : ∀ a b : Ty, a.IsRegular → b.IsRegular →
      (a.checkedLe b = .ok true ↔ a.le b = true) := by
    intro a b ha hb
    rw [checkedLe_of_isOrdinary ha.ordinary hb.ordinary, Except.ok.injEq]
  refine ⟨fun a ha => ?_, fun a b c ha hb hc first second => ?_,
    fun a b ha hb ia ib first second => ?_⟩
  · rw [decided a a ha ha]
    exact le_of_equal (equal_refl ha.hashable)
  · rw [decided a b ha hb] at first
    rw [decided b c hb hc] at second
    rw [decided a c ha hc]
    exact le_trans ha hb hc first second
  · rw [decided a b ha.toIsRegular hb.toIsRegular] at first
    rw [decided b a hb.toIsRegular ha.toIsRegular] at second
    rw [checkedEqual_of_isOrdinary ha.ordinary hb.ordinary, Except.ok.injEq]
    exact le_antisymm ha hb ia ib first second

/-- Two unions in different order, each with a record in it whose fields are in
different order, lists of literals below a union that is not canonical, and lists of
anything of their classes. -/
theorem le_partialOrder_unions :
    let narrow : Ty := .generic "list" (.union [.literal (.int 1), .text "a"])
    let middle : Ty := .generic "list" (.union [.union [.integer, .string], .integer])
    let wide : Ty := .generic "object" (.union [.string, .var "T", .integer])
    let first : Ty := .union [.record [("x", .integer), ("y", .string)], .unit]
    let second : Ty := .union [.unit, .record [("y", .string), ("x", .integer)]]
    middle.checkedLe middle = .ok true ∧
    (narrow.checkedLe middle = .ok true ∧ middle.checkedLe wide = .ok true ∧
      narrow.checkedLe wide = .ok true) ∧
    first.checkedLe second = .ok true ∧ second.checkedLe first = .ok true ∧
      first.checkedEqual second = .ok true := by
  intro narrow middle wide first second
  have regular : narrow.IsRegular ∧ middle.IsRegular ∧ wide.IsRegular := by
    refine ⟨⟨rfl, ?_⟩, ⟨rfl, ?_⟩, ⟨rfl, ?_⟩⟩ <;>
      simp [Everywhere, parts, partsOfAll, HasDistinctNames, narrow, middle, wide, integer,
        string]
  obtain ⟨hn, hm, hw⟩ := regular
  have wellFormed : first.IsWellFormed ∧ second.IsWellFormed := by
    refine ⟨⟨⟨rfl, ?_⟩, ?_⟩, ⟨⟨rfl, ?_⟩, ?_⟩⟩ <;>
      simp [Everywhere, parts, partsOfAll, partsOfFields, HasDistinctNames, IsCanonicalUnion,
        IsSimple, equal, isTop, isBottom, isUnion, first, second, integer, string, unit]
  have irredundant : first.Everywhere IsIrredundant ∧ second.Everywhere IsIrredundant := by
    constructor <;>
      simp [Everywhere, parts, partsOfAll, partsOfFields, IsIrredundant, first, second, integer,
        string, unit] <;>
      decide
  have up : first.checkedLe second = .ok true := by rfl
  have down : second.checkedLe first = .ok true := by rfl
  have lower : narrow.checkedLe middle = .ok true := by rfl
  have upper : middle.checkedLe wide = .ok true := by rfl
  obtain ⟨reflexive, transitive, antisymmetric⟩ := le_partialOrder
  exact ⟨reflexive middle hm,
    ⟨lower, upper, transitive narrow middle wide hn hm hw lower upper⟩, up, down,
    antisymmetric first second wellFormed.1 wellFormed.2 irredundant.1 irredundant.2 up down⟩

end FunctionSynthesis.Ty
