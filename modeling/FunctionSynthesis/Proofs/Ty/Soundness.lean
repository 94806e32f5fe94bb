import FunctionSynthesis.Proofs.Ty.Membership

/-!
# What subtyping, joins and widening promise

A type below another has no members that the other does not have
(`containsBy_of_le`), a join has all members of what is joined
(`containsBy_unionOf`) and a widened type all members of the type
(`containsBy_promote`).
-/

namespace FunctionSynthesis.Ty

variable {classes : Classification}

/-! ### Subtyping -/

theorem containsBy_of_isPlainlyAbove {a b : Ty} {v : Value}
    (ha : a.isOrdinary = true) (hb : b.isOrdinary = true)
    (above : isPlainlyAbove a b = true) (member : ContainsBy classes a v) :
    ContainsBy classes b v := by
  rw [isPlainlyAbove, Bool.or_eq_true, Bool.or_eq_true] at above
  rcases above with (same | greatest) | object
  · exact (containsBy_iff_of_equal ha hb same).1 member
  · cases b <;> simp_all [isTop]
  · cases b with
    | nominal name => exact Or.inl (beq_iff_eq.1 object)
    | _ => simp [isObject] at object

/-- If an alternative of a type that passes a test has a value, so has the
type. -/
theorem containsBy_of_anyAlternative {b : Ty} {test : Ty → Bool} {v : Value}
    (hb : b.isOrdinary = true) (passed : b.anyAlternative test = true)
    (sound : ∀ u : Ty, u.isOrdinary = true → test u = true →
      ContainsBy classes u v) :
    ContainsBy classes b v := by
  obtain ⟨u, alternative, holds⟩ := List.any_eq_true.1 passed
  have member := sound u (isOrdinary_of_mem_alternatives hb alternative) holds
  exact (containsBy_iff_alternatives b v).2 ⟨u, alternative, member⟩

/-- Subtyping is sound when the relation of literals to other types is. -/
theorem containsBy_of_leWith {literalLe : Value → Ty → Bool}
    (literalSound : ∀ (w : Value) (u : Ty) (v : Value), w.isScalar = true →
      u.isOrdinary = true → literalLe w u = true →
      ContainsBy classes (.literal w) v → ContainsBy classes u v)
    {a b : Ty} {v : Value} (ha : a.isOrdinary = true) (hb : b.isOrdinary = true)
    (below : leWith literalLe a b = true) (member : ContainsBy classes a v) :
    ContainsBy classes b v := by
  induction a generalizing b v with
  | top => cases b <;> simp_all [leWith, isTop]
  | bottom => exact absurd member (not_containsBy_bottom v)
  | literal w =>
      rw [leWith] at below
      refine containsBy_of_anyAlternative hb below fun u hu test => ?_
      rw [Bool.or_eq_true, Bool.and_eq_true] at test
      rcases test with above | ⟨_, related⟩
      · exact containsBy_of_isPlainlyAbove ha hu above member
      · exact literalSound w u v (by simpa using ha) hu related member
  | text s =>
      rw [leWith] at below
      refine containsBy_of_anyAlternative hb below fun u hu test => ?_
      rw [Bool.or_eq_true] at test
      rcases test with above | same
      · exact containsBy_of_isPlainlyAbove ha hu above member
      · refine (containsBy_iff_of_equal rfl hu same).1 ?_
        obtain rfl : v = .str s := member
        exact Or.inr (classes.atom (.str s) rfl)
  | generic base param ih =>
      rw [leWith] at below
      refine containsBy_of_anyAlternative hb below fun u hu test => ?_
      rw [Bool.or_eq_true] at test
      rcases test with above | structural
      · exact containsBy_of_isPlainlyAbove ha hu above member
      · have ofClass := isOf_of_containsBy_generic member
        split at structural
        next base' param' =>
          rw [isOrdinary_generic] at ha hu
          rw [Bool.and_eq_true, Bool.or_eq_true, beq_iff_eq, beq_iff_eq]
            at structural
          obtain ⟨rfl | rfl, below⟩ := structural
          · exact containsBy_generic_mono (fun w => ih ha hu below) member
          · exact Or.inl rfl
        next name =>
          obtain rfl := beq_iff_eq.1 structural
          exact ofClass
        next => simp at structural
  | union ts ih =>
      rw [leWith, Bool.or_eq_true, Bool.or_eq_true, Bool.and_eq_true,
        allLeWith_eq_all, List.all_eq_true] at below
      rcases below with (same | greatest) | ⟨_, all⟩
      · exact (containsBy_iff_of_equal ha hb same).1 member
      · cases b <;> simp_all [isTop]
      · rw [isOrdinary_union] at ha
        rw [containsBy_union] at member
        obtain ⟨t, inside, member⟩ := member
        exact ih t inside (ha t inside) hb (all t inside) member
  | record fs ih =>
      rw [leWith] at below
      refine containsBy_of_anyAlternative hb below fun u hu test => ?_
      rw [Bool.or_eq_true] at test
      rcases test with above | structural
      · exact containsBy_of_isPlainlyAbove ha hu above member
      · split at structural
        next gs =>
          rw [isOrdinary_record] at ha hu
          rw [List.all_eq_true] at structural
          refine containsBy_record_mono (fun key expected foundRight => ?_) member
          have right := mem_of_lastField? foundRight
          have covered := structural _ right
          rw [lastFieldLeWith_eq_any] at covered
          obtain ⟨actual, foundLeft, below⟩ := (Option.any_eq_true _ _).1 covered
          have left := mem_of_lastField? foundLeft
          exact ⟨actual, foundLeft, fun w => ih _ left (ha _ left) (hu _ right) below⟩
        next name =>
          obtain rfl := beq_iff_eq.1 structural
          rw [containsBy_record] at member
          obtain ⟨entries, rfl, _⟩ := member
          exact Or.inr (classes.dict entries)
        next => simp at structural
  | nominal name =>
      rw [leWith] at below
      · exact containsBy_of_anyAlternative hb below fun u hu above =>
          containsBy_of_isPlainlyAbove ha hu above member
      all_goals simp
  | var name => exact member.elim
  | foreign => exact member.elim

/-- A scalar of the class of a literal is a member of the class. -/
theorem containsBy_classOf {v w : Value} (scalar : w.isScalar = true)
    (same : v.sameLiteral w = true) : ContainsBy classes (classOf w) v := by
  refine Or.inr ?_
  rw [← Value.className_eq_of_sameLiteral same]
  exact classes.atom v
    (Value.isAtom_of_isScalar (Value.isScalar_of_sameLiteral scalar same))

/-- A type has all members of the types below it. -/
theorem containsBy_of_le {a b : Ty} {v : Value} (ha : a.isOrdinary = true)
    (hb : b.isOrdinary = true) (below : a.le b = true)
    (member : ContainsBy classes a v) : ContainsBy classes b v := by
  refine containsBy_of_leWith (fun w u v scalar hu related member => ?_)
    ha hb below member
  rw [generalType_of_isScalar scalar] at related
  rw [containsBy_literal] at member
  refine containsBy_of_leWith (fun w' u' v' _ _ impossible _ => ?_) rfl hu
    related (containsBy_classOf scalar member)
  exact absurd impossible Bool.false_ne_true

/-! ### Joins -/

theorem mem_foldl_addMember_of_mem {types members : List Ty} {t : Ty}
    (member : t ∈ members) : t ∈ types.foldl addMember members := by
  induction types generalizing members with
  | nil => exact member
  | cons u types ih =>
      refine ih ?_
      unfold addMember
      split
      · exact member
      · exact List.mem_append_left _ member

/-- Of every type that is not empty an equal one is kept. -/
theorem exists_mem_foldl_addMember {types members : List Ty} {t : Ty}
    (member : t ∈ types) (inhabited : t.isBottom = false) :
    ∃ u ∈ types.foldl addMember members, t = u ∨ equal t u = true := by
  induction types generalizing members with
  | nil => exact absurd member List.not_mem_nil
  | cons first types ih =>
      rw [List.foldl_cons]
      rcases List.mem_cons.1 member with rfl | member
      · by_cases known : members.any (fun m => t == m) = true
        · obtain ⟨u, inside, same⟩ := List.any_eq_true.1 known
          refine ⟨u, mem_foldl_addMember_of_mem ?_, Or.inr same⟩
          simpa [addMember, known] using inside
        · refine ⟨t, mem_foldl_addMember_of_mem ?_, Or.inl rfl⟩
          simp [addMember, inhabited, known]
      · exact ih member

/-- A join has the members of every type that is joined. -/
theorem containsBy_unionOf {types : List Ty} {t : Ty} {v : Value}
    (ordinary : ∀ t ∈ types, t.isOrdinary = true) (joined : t ∈ types)
    (member : ContainsBy classes t v) : ContainsBy classes (unionOf types) v := by
  obtain ⟨u, alternative, member⟩ := (containsBy_iff_alternatives t v).1 member
  have flat : u ∈ alternativesOf types := by
    rw [alternativesOf_eq_flatMap]
    exact List.mem_flatMap.2 ⟨t, joined, alternative⟩
  have allFlat := isOrdinary_of_mem_alternativesOf ordinary
  have inhabited : u.isBottom = false := by
    cases u <;> first | rfl | exact member.elim
  obtain ⟨w, kept, same⟩ : ∃ w ∈ distinctMembers (alternativesOf types),
      u = w ∨ equal u w = true := exists_mem_foldl_addMember flat inhabited
  have member : ContainsBy classes w v := by
    rcases same with rfl | same
    · exact member
    · exact (containsBy_iff_of_equal (allFlat u flat)
        (allFlat w (mem_of_mem_distinctMembers kept)) same).1 member
  rcases unionOf_cases types with
    ⟨_, result⟩ | ⟨_, ⟨empty, _⟩ | ⟨single, alone, result⟩ | result⟩
  · rw [result]
    exact containsBy_top v
  · simp [empty] at kept
  · rw [alone, List.mem_singleton] at kept
    rw [result, ← kept]
    exact member
  · rw [result, containsBy_union]
    exact ⟨w, kept, member⟩

/-! ### Widening -/

theorem lastField?_map (f : Ty → Ty) (fields : List (String × Ty)) (key : String) :
    lastField? (fields.map fun field => (field.1, f field.2)) key =
      (lastField? fields key).map f := by
  unfold lastField? firstField?
  rw [← List.map_reverse, List.find?_map]
  simp [Function.comp_def]

/-- Widening a type keeps its members. -/
theorem containsBy_promote {t : Ty} {v : Value} (ordinary : t.isOrdinary = true)
    (member : ContainsBy classes t v) : ContainsBy classes t.promote v := by
  unfold promote
  induction t generalizing v with
  | literal w =>
      rw [isOrdinary_literal] at ordinary
      rw [containsBy_literal] at member
      rw [promoteWith, generalType_of_isScalar ordinary]
      exact containsBy_classOf ordinary member
  | text s =>
      obtain rfl : v = .str s := member
      exact Or.inr (classes.atom (.str s) rfl)
  | generic base param ih =>
      rw [isOrdinary_generic] at ordinary
      rw [promoteWith]
      exact containsBy_generic_mono (fun w => ih ordinary) member
  | union ts ih =>
      have widened := fun t inside =>
        isOrdinary_promote ((isOrdinary_union ts).1 ordinary t inside)
      rw [isOrdinary_union] at ordinary
      rw [containsBy_union] at member
      obtain ⟨t, inside, member⟩ := member
      rw [promoteWith, promoteAllWith_eq_map]
      refine containsBy_unionOf (fun u image => ?_)
        (List.mem_map_of_mem inside) (ih t inside (ordinary t inside) member)
      obtain ⟨t, inside, rfl⟩ := List.mem_map.1 image
      exact widened t inside
  | record fields ih =>
      rw [isOrdinary_record] at ordinary
      rw [containsBy_record] at member
      obtain ⟨entries, rfl, all⟩ := member
      rw [promoteWith, promoteFieldsWith_eq_map, containsBy_record]
      refine ⟨entries, rfl, fun key u last => ?_⟩
      rw [lastField?_map] at last
      obtain ⟨t, found, rfl⟩ := Option.map_eq_some_iff.1 last
      obtain ⟨w, value, member⟩ := all key t found
      have inside := mem_of_lastField? found
      exact ⟨w, value, ih _ inside (ordinary _ inside) member⟩
  | _ => exact member

end FunctionSynthesis.Ty
