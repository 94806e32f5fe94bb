import FunctionSynthesis.Proofs.Ty.Hashable

/-!
# Ordinary types

A type is ordinary when all literals in it are scalars. Widening and joining
ordinary types gives ordinary types, and ordinary types can always be compared:
`checkedLe_of_isOrdinary` and its companions say that the comparisons that may
fail do not fail on them.
-/

namespace FunctionSynthesis.Ty

mutual

/-- Whether all literals in a type are scalars. -/
def isOrdinary : Ty → Bool
  | .literal v => v.isScalar
  | .generic _ param => isOrdinary param
  | .union ts => areOrdinary ts
  | .record fs => areOrdinaryFields fs
  | _ => true
termination_by structural t => t

def areOrdinary : List Ty → Bool
  | [] => true
  | t :: ts => isOrdinary t && areOrdinary ts
termination_by structural ts => ts

def areOrdinaryFields : List (String × Ty) → Bool
  | [] => true
  | (_, t) :: fs => isOrdinary t && areOrdinaryFields fs
termination_by structural fs => fs

end

section

attribute [local simp] isOrdinary areOrdinary areOrdinaryFields

theorem areOrdinary_iff (ts : List Ty) :
    areOrdinary ts = true ↔ ∀ t ∈ ts, t.isOrdinary = true := by
  induction ts with
  | nil => simp
  | cons t ts ih => simp [ih]

theorem areOrdinaryFields_iff (fields : List (String × Ty)) :
    areOrdinaryFields fields = true ↔
      ∀ field ∈ fields, field.2.isOrdinary = true := by
  induction fields with
  | nil => simp
  | cons field fields ih => simp [ih]

@[simp]
theorem isOrdinary_union (ts : List Ty) :
    (Ty.union ts).isOrdinary = true ↔ ∀ t ∈ ts, t.isOrdinary = true := by
  simp [areOrdinary_iff]

@[simp]
theorem isOrdinary_record (fields : List (String × Ty)) :
    (Ty.record fields).isOrdinary = true ↔
      ∀ field ∈ fields, field.2.isOrdinary = true := by
  simp [areOrdinaryFields_iff]

@[simp]
theorem isOrdinary_generic (base : String) (param : Ty) :
    (Ty.generic base param).isOrdinary = param.isOrdinary := by
  simp

@[simp]
theorem isOrdinary_literal (v : Value) :
    (Ty.literal v).isOrdinary = v.isScalar := by
  simp

end

/-! ### Comparisons -/

theorem isHashable_of_isOrdinary {t : Ty} (ordinary : t.isOrdinary = true) :
    t.isHashable = true := by
  induction t with
  | literal v =>
      rw [isOrdinary_literal] at ordinary
      rw [isHashable]
      exact Value.isHashable_of_isAtom (Value.isAtom_of_isScalar ordinary)
  | generic base param ih => exact ih (by simpa using ordinary)
  | union ts ih =>
      rw [isOrdinary_union] at ordinary
      exact (isHashable_union ts).2 fun t member => ih t member (ordinary t member)
  | record fields ih =>
      rw [isOrdinary_record] at ordinary
      exact (isHashable_record fields).2 fun field member =>
        ih field member (ordinary field member)
  | _ => rfl

theorem checkedEqual_of_isOrdinary {a b : Ty} (ha : a.isOrdinary = true)
    (hb : b.isOrdinary = true) : a.checkedEqual b = .ok (a == b) :=
  checkedEqual_of_isHashable (isHashable_of_isOrdinary ha) (isHashable_of_isOrdinary hb)

theorem checkedLe_of_isOrdinary {a b : Ty} (ha : a.isOrdinary = true)
    (hb : b.isOrdinary = true) : a.checkedLe b = .ok (a.le b) :=
  checkedLe_of_isHashable (isHashable_of_isOrdinary ha) (isHashable_of_isOrdinary hb)

/-! ### Joins -/

/-- What passes from a union to its members holds of the alternatives of a type. -/
theorem holds_of_mem_alternatives (condition : Ty → Prop)
    (below : ∀ ts, condition (.union ts) → ∀ t ∈ ts, condition t) {t u : Ty}
    (whole : condition t) (member : u ∈ t.alternatives) : condition u := by
  induction t generalizing u with
  | union ts ih =>
      rw [alternatives_union] at member
      obtain ⟨t, inside, member⟩ := List.mem_flatMap.1 member
      exact ih t inside (below ts whole t inside) member
  | _ =>
      rw [List.eq_of_mem_singleton member]
      exact whole

theorem isOrdinary_of_mem_alternatives {t u : Ty} (ordinary : t.isOrdinary = true)
    (member : u ∈ t.alternatives) : u.isOrdinary = true :=
  holds_of_mem_alternatives (fun t => t.isOrdinary = true) (fun ts => (isOrdinary_union ts).1)
    ordinary member

theorem isOrdinary_of_mem_alternativesOf {ts : List Ty}
    (ordinary : ∀ t ∈ ts, t.isOrdinary = true) :
    ∀ u ∈ alternativesOf ts, u.isOrdinary = true := by
  intro u member
  rw [alternativesOf_eq_flatMap] at member
  obtain ⟨t, inside, member⟩ := List.mem_flatMap.1 member
  exact isOrdinary_of_mem_alternatives (ordinary t inside) member

theorem isHashable_of_mem_alternativesOf {ts : List Ty}
    (hashable : ∀ t ∈ ts, t.isHashable = true) :
    ∀ u ∈ alternativesOf ts, u.isHashable = true := by
  intro u member
  rw [alternativesOf_eq_flatMap] at member
  obtain ⟨t, inside, member⟩ := List.mem_flatMap.1 member
  exact holds_of_mem_alternatives (fun t => t.isHashable = true)
    (fun ts => (isHashable_union ts).1) (hashable t inside) member

theorem mem_of_mem_addMember {members : List Ty} {t u : Ty}
    (member : u ∈ addMember members t) : u ∈ members ∨ u = t := by
  unfold addMember at member
  split at member
  · exact Or.inl member
  · simpa using member

theorem mem_of_mem_foldl_addMember {types members : List Ty} {u : Ty}
    (member : u ∈ types.foldl addMember members) : u ∈ members ∨ u ∈ types := by
  induction types generalizing members with
  | nil => exact Or.inl member
  | cons t types ih =>
      rcases ih member with earlier | later
      · rcases mem_of_mem_addMember earlier with old | rfl
        · exact Or.inl old
        · exact Or.inr List.mem_cons_self
      · exact Or.inr (List.mem_cons_of_mem t later)

theorem mem_of_mem_distinctMembers {types : List Ty} {u : Ty}
    (member : u ∈ distinctMembers types) : u ∈ types := by
  rcases mem_of_mem_foldl_addMember member with impossible | inside
  · exact absurd impossible List.not_mem_nil
  · exact inside

/-- A canonical union is the greatest type, the least one, a type that is left
alone or a union of the distinct alternatives. -/
theorem unionOf_cases (types : List Ty) :
    ((alternativesOf types).any isTop = true ∧ unionOf types = .top) ∨
      ((alternativesOf types).any isTop = false ∧
        ((distinctMembers (alternativesOf types) = [] ∧
            unionOf types = .bottom) ∨
          (∃ t, distinctMembers (alternativesOf types) = [t] ∧
            unionOf types = t) ∨
          unionOf types = .union (distinctMembers (alternativesOf types)))) := by
  unfold unionOf
  cases greatest : (alternativesOf types).any isTop with
  | true => exact Or.inl ⟨rfl, by simp [greatest]⟩
  | false =>
      refine Or.inr ⟨rfl, ?_⟩
      simp only [greatest, Bool.false_eq_true, if_false]
      split
      next empty => exact Or.inl ⟨empty, rfl⟩
      next t alone => exact Or.inr (Or.inl ⟨t, alone, rfl⟩)
      next => exact Or.inr (Or.inr rfl)

/-- What holds of all alternatives, and of unions of them, holds of their join. -/
theorem holds_unionOf (condition : Ty → Prop) {types : List Ty}
    (alternatives : ∀ u ∈ alternativesOf types, condition u) (top : condition .top)
    (bottom : condition .bottom) (union : ∀ ts, (∀ t ∈ ts, condition t) → condition (.union ts)) :
    condition (unionOf types) := by
  have members : ∀ t ∈ distinctMembers (alternativesOf types), condition t :=
    fun t member => alternatives t (mem_of_mem_distinctMembers member)
  rcases unionOf_cases types with
    ⟨_, joined⟩ | ⟨_, ⟨_, joined⟩ | ⟨t, alone, joined⟩ | joined⟩
  · exact joined ▸ top
  · exact joined ▸ bottom
  · rw [joined]
    exact members t (by simp [alone])
  · rw [joined]
    exact union _ members

theorem isOrdinary_unionOf {types : List Ty}
    (ordinary : ∀ t ∈ types, t.isOrdinary = true) :
    (unionOf types).isOrdinary = true :=
  holds_unionOf (fun t => t.isOrdinary = true) (isOrdinary_of_mem_alternativesOf ordinary)
    rfl rfl fun ts => (isOrdinary_union ts).2

theorem isHashable_unionOf {types : List Ty}
    (hashable : ∀ t ∈ types, t.isHashable = true) :
    (unionOf types).isHashable = true :=
  holds_unionOf (fun t => t.isHashable = true) (isHashable_of_mem_alternativesOf hashable)
    rfl rfl fun ts => (isHashable_union ts).2

theorem distinctFails_of_isHashable {types members : List Ty}
    (hashable : ∀ t ∈ types, t.isHashable = true)
    (before : ∀ t ∈ members, t.isHashable = true) :
    distinctFails members types = false := by
  induction types generalizing members with
  | nil => rfl
  | cons t types ih =>
      obtain ⟨here, rest⟩ := List.forall_mem_cons.1 hashable
      have told : meets (fun m => equalFails m t) (fun m => !equal t m) members =
          false :=
        meets_eq_false fun m member => equalFails_of_isHashable (before m member) here
      have after : ∀ u ∈ addMember members t, u.isHashable = true := by
        intro u member
        rcases mem_of_mem_addMember member with old | rfl
        · exact before u old
        · exact here
      rw [distinctFails, told, ih rest after]
      simp

theorem unionFails_of_isHashable {types : List Ty}
    (hashable : ∀ t ∈ types, t.isHashable = true) : unionFails types = false := by
  refine distinctFails_of_isHashable (fun t member => ?_) fun t member =>
    absurd member List.not_mem_nil
  exact isHashable_of_mem_alternativesOf hashable t
    ((List.takeWhile_sublist _).mem member)

theorem unionFails_of_isOrdinary {types : List Ty}
    (ordinary : ∀ t ∈ types, t.isOrdinary = true) : unionFails types = false :=
  unionFails_of_isHashable fun t member => isHashable_of_isOrdinary (ordinary t member)

/-! ### Widening -/

theorem generalType_of_isScalar {v : Value} (scalar : v.isScalar = true) :
    generalType v = classOf v := by
  cases v <;> first | rfl | simp [Value.isScalar] at scalar

theorem isOrdinary_promote {t : Ty} (ordinary : t.isOrdinary = true) :
    t.promote.isOrdinary = true := by
  unfold promote
  induction t with
  | literal v =>
      rw [isOrdinary_literal] at ordinary
      rw [promoteWith, generalType_of_isScalar ordinary]
      rfl
  | text s => rfl
  | generic base param ih =>
      rw [isOrdinary_generic] at ordinary
      rw [promoteWith, isOrdinary_generic]
      exact ih ordinary
  | union ts ih =>
      rw [isOrdinary_union] at ordinary
      rw [promoteWith, promoteAllWith_eq_map]
      refine isOrdinary_unionOf fun u member => ?_
      obtain ⟨t, inside, rfl⟩ := List.mem_map.1 member
      exact ih t inside (ordinary t inside)
  | record fields ih =>
      rw [isOrdinary_record] at ordinary
      rw [promoteWith, promoteFieldsWith_eq_map, isOrdinary_record]
      intro field' member
      obtain ⟨field, inside, rfl⟩ := List.mem_map.1 member
      exact ih field inside (ordinary field inside)
  | _ => rfl

theorem isOrdinary_ofValue {v : Value} (atom : v.isAtom = true) :
    (ofValue v).isOrdinary = true := by
  cases v <;> simp_all [Value.isAtom, Value.isScalar, ofValue, isOrdinary]

/-- Widening leaves no literal if none is widened to one. -/
theorem isHashable_promoteWith {general : Value → Ty}
    (widened : ∀ v, (general v).isHashable = true) (t : Ty) :
    (promoteWith general t).isHashable = true := by
  induction t with
  | literal v => exact widened v
  | generic base param ih => exact ih
  | union ts ih =>
      rw [promoteWith, promoteAllWith_eq_map]
      exact isHashable_unionOf (List.forall_mem_map.2 ih)
  | record fields ih =>
      rw [promoteWith, promoteFieldsWith_eq_map, isHashable_record]
      exact List.forall_mem_map.2 ih
  | _ => rfl

/-- A type that has been widened can always be compared. -/
theorem isHashable_promote (t : Ty) : t.promote.isHashable = true := by
  refine isHashable_promoteWith (fun v => ?_) t
  have ofClasses := isHashable_promoteWith (fun _ => rfl : ∀ v, (classOf v).isHashable = true)
  cases v <;> first | rfl | exact ofClasses _

theorem checkedFits_of_isHashable {actual expected : Ty}
    (ha : actual.isHashable = true) (he : expected.isHashable = true) :
    actual.checkedFits expected =
      .ok (actual.le expected || actual.promote.le expected) := by
  rw [checkedFits, checkedLe_of_isHashable ha he,
    checkedLe_of_isHashable (isHashable_promote actual) he]
  cases actual.le expected <;> rfl

end FunctionSynthesis.Ty
