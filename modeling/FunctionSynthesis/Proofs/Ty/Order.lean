import FunctionSynthesis.Proofs.Ty.Equality

/-!
# The order of types

What a type that is neither extreme nor a union is below is told by the relation
`IsNarrower` on such types and by the alternatives of the other type
(`le_iff_of_isSimple`, `le_iff_exists_alternative`). From this subtyping is
transitive on regular types, whatever their unions are (`le_trans`).
-/

namespace FunctionSynthesis.Ty

/-! ### Subtyping by shape -/

theorem isTop_iff {t : Ty} : t.isTop = true ↔ t = .top := by
  cases t <;> simp [isTop]

theorem isBottom_iff {t : Ty} : t.isBottom = true ↔ t = .bottom := by
  cases t <;> simp [isBottom]

theorem isObject_iff {t : Ty} : t.isObject = true ↔ t = .nominal "object" := by
  cases t <;> simp [isObject]

theorem isPlainlyAbove_iff {a b : Ty} :
    isPlainlyAbove a b = true ↔ equal a b = true ∨ b = .top ∨ b = .nominal "object" := by
  simp [isPlainlyAbove, isTop_iff, isObject_iff, or_assoc]

theorem bottom_le (b : Ty) : bottom.le b = true :=
  rfl

theorem top_le_iff (b : Ty) : top.le b = true ↔ b = .top :=
  isTop_iff

theorem union_le_iff (ts : List Ty) (b : Ty) :
    (Ty.union ts).le b = true ↔
      equal (.union ts) b = true ∨ b = .top ∨ b ≠ .bottom ∧ ∀ t ∈ ts, t.le b = true := by
  have shape : (Ty.union ts).le b =
      (equal (.union ts) b || b.isTop || (!b.isBottom && ts.all (·.le b))) :=
    congrArg (fun all => equal (.union ts) b || b.isTop || (!b.isBottom && all))
      (allLeWith_eq_all _ ts b)
  simp [shape, isTop_iff, isBottom_iff, or_assoc, ← Bool.not_eq_true]

/-- Whether a type is neither an extreme one nor a union. -/
def IsSimple (t : Ty) : Prop :=
  t.isTop = false ∧ t.isBottom = false ∧ t.isUnion = false

/-- A simple type is below a type when an alternative is plainly above it or
passes a test that depends on the simple type only. -/
theorem IsSimple.le_eq_anyAlternative {a : Ty} (simple : a.IsSimple) :
    ∃ test : Ty → Bool, ∀ b : Ty,
      a.le b = b.anyAlternative fun t => isPlainlyAbove a t || test t := by
  cases a with
  | top => cases simple.1
  | bottom => cases simple.2.1
  | union ts => cases simple.2.2
  | literal v => exact ⟨_, fun _ => rfl⟩
  | text s => exact ⟨_, fun _ => rfl⟩
  | generic base param => exact ⟨_, fun _ => rfl⟩
  | record fs => exact ⟨_, fun _ => rfl⟩
  | _ => exact ⟨fun _ => false, fun b => by simp only [Bool.or_false]; rfl⟩

theorem IsSimple.le_of_isPlainlyAbove {a b : Ty} (simple : a.IsSimple)
    (alone : b.isUnion = false) (above : isPlainlyAbove a b = true) : a.le b = true := by
  obtain ⟨test, tested⟩ := simple.le_eq_anyAlternative
  rw [tested, anyAlternative_of_alone _ alone, above, Bool.true_or]

theorem le_top (a : Ty) : a.le .top = true := by
  cases a with
  | union ts => exact (union_le_iff ts .top).2 (Or.inr (Or.inl rfl))
  | _ => rfl

/-- Alternatives are no unions. -/
theorem alternatives_of_mem_alternatives {t u : Ty} (alternative : u ∈ t.alternatives) :
    u.alternatives = [u] ∧ u.isUnion = false := by
  induction t with
  | union ts ih =>
      rw [alternatives_union, List.mem_flatMap] at alternative
      obtain ⟨t, inside, alternative⟩ := alternative
      exact ih t inside alternative
  | _ =>
      rw [List.eq_of_mem_singleton alternative]
      exact ⟨rfl, rfl⟩

/-- A simple type is below a type when it is below an alternative of it. -/
theorem le_iff_exists_alternative {a b : Ty} (simple : a.IsSimple) :
    a.le b = true ↔ ∃ u ∈ b.alternatives, a.le u = true := by
  obtain ⟨test, tested⟩ := simple.le_eq_anyAlternative
  rw [tested, anyAlternative, List.any_eq_true]
  constructor
  · rintro ⟨u, alternative, passed⟩
    have alone := (alternatives_of_mem_alternatives alternative).2
    exact ⟨u, alternative, by rw [tested, anyAlternative_of_alone _ alone, passed]⟩
  · rintro ⟨u, alternative, below⟩
    have alone := (alternatives_of_mem_alternatives alternative).2
    rw [tested, anyAlternative_of_alone _ alone] at below
    exact ⟨u, alternative, below⟩

theorem le_of_equal {a b : Ty} (same : equal a b = true) : a.le b = true := by
  cases a with
  | top => cases b <;> first | rfl | cases same
  | bottom => exact bottom_le b
  | union ts => exact (union_le_iff ts b).2 (Or.inl same)
  | _ =>
      have alone : b.isUnion = false := by
        cases b <;> first | rfl | cases same
      exact IsSimple.le_of_isPlainlyAbove ⟨rfl, rfl, rfl⟩ alone
        (isPlainlyAbove_iff.2 (Or.inl same))

/-- For types of which neither is an extreme one or a union: whether all values
of the first are of the second for another reason than that all values are. -/
def IsNarrower : Ty → Ty → Prop
  | .literal v, .literal w => v.sameLiteral w = true
  | .literal v, .nominal name => v.className = name
  | .text s, .text r => s = r
  | .text _, .nominal name => "str" = name
  | .nominal name, .nominal name' => name = name'
  | .generic base param, .generic base' param' =>
      (base = base' ∨ base' = "object") ∧ param.le param' = true
  | .generic base _, .nominal name => base = name
  | .record fs, .record gs =>
      ∀ g ∈ gs, ∃ t, lastField? fs g.1 = some t ∧ t.le g.2 = true
  | .record _, .nominal name => name = "dict"
  | .var name, .var name' => name = name'
  | .foreign, .foreign => True
  | _, _ => False

theorem generic_le_generic_iff (base base' : String) (param param' : Ty) :
    (generic base param).le (generic base' param') = true ↔
      IsNarrower (.generic base param) (.generic base' param') := by
  have unfolded : (generic base param).le (generic base' param') = true ↔
      (base = base' ∧ equal param param' = true) ∨
        (base = base' ∨ base' = "object") ∧ param.le param' = true := by
    simp [le, leWith, anyAlternative, alternatives, isPlainlyAbove, equal, isTop, isObject]
  rw [unfolded, IsNarrower]
  constructor
  · rintro (⟨same, equals⟩ | structural)
    · exact ⟨Or.inl same, le_of_equal equals⟩
    · exact structural
  · exact Or.inr

theorem record_le_record_iff (fs : List (String × Ty)) {gs : List (String × Ty)}
    (regular : (record gs).IsRegular) :
    (record fs).le (record gs) = true ↔ IsNarrower (.record fs) (.record gs) := by
  have unfolded : (record fs).le (record gs) = true ↔
      equal (.record fs) (.record gs) = true ∨ IsNarrower (.record fs) (.record gs) := by
    unfold le
    rw [leWith]
    simp only [anyAlternative, alternatives, List.any_cons, List.any_nil, Bool.or_false,
      isPlainlyAbove, isTop, isObject, Bool.or_eq_true, List.all_eq_true,
      lastFieldLeWith_eq_any, Option.any_eq_true]
    rfl
  rw [unfolded, or_iff_right_iff_imp, equal_record_iff]
  rintro ⟨matched, covered⟩ g member
  obtain ⟨t, found⟩ := covered g member
  obtain ⟨u, found', same⟩ := matched g.1 t found
  rw [regular.lastField?_of_mem member, Option.some.injEq] at found'
  exact ⟨t, found, le_of_equal (found' ▸ same)⟩

/-- What a simple type is below, unions apart. -/
theorem le_iff_of_isSimple {a b : Ty} (ha : a.isOrdinary = true) (hb : b.IsRegular)
    (simple : a.IsSimple) (alone : b.isUnion = false) :
    a.le b = true ↔ b = .top ∨ b = .nominal "object" ∨ IsNarrower a b := by
  have single : b.alternatives = [b] := by
    cases b <;> first | rfl | simp [isUnion] at alone
  cases a with
  | top => simp [IsSimple, isTop] at simple
  | bottom => simp [IsSimple, isBottom] at simple
  | union ts => simp [IsSimple, isUnion] at simple
  | literal v =>
      have scalar : v.isScalar = true := by simpa using ha
      have unfolded : (literal v).le b = true ↔ isPlainlyAbove (.literal v) b = true ∨
          b.isLiteral = false ∧ isPlainlyAbove (.nominal v.className) b = true := by
        simp [le, leWith, anyAlternative, single, generalType_of_isScalar scalar, classOf]
      rw [unfolded, isPlainlyAbove_iff, isPlainlyAbove_iff]
      cases b <;> simp [equal, IsNarrower, isLiteral]
      grind
  | text s =>
      have unfolded : (text s).le b = true ↔
          isPlainlyAbove (.text s) b = true ∨ equal string b = true := by
        simp [le, leWith, anyAlternative, single]
      rw [unfolded, isPlainlyAbove_iff]
      cases b <;> simp [equal, IsNarrower, string, or_comm]
  | generic base param =>
      cases b with
      | generic base' param' => simp [generic_le_generic_iff]
      | union ts => simp [isUnion] at alone
      | _ => simp [le, leWith, anyAlternative, alternatives, isPlainlyAbove_iff, equal, IsNarrower]
  | record fs =>
      cases b with
      | record gs => simp [record_le_record_iff fs hb]
      | union ts => simp [isUnion] at alone
      | _ => simp [le, leWith, anyAlternative, alternatives, isPlainlyAbove_iff, equal, IsNarrower]
  | _ =>
      cases b with
      | union ts => simp [isUnion] at alone
      | _ => simp [le, leWith, anyAlternative, alternatives, isPlainlyAbove_iff, equal, IsNarrower,
          or_comm]

/-- Nothing but a nominal type itself is narrower in this sense. -/
theorem eq_of_isNarrower_nominal {name : String} {b : Ty}
    (narrower : IsNarrower (.nominal name) b) : b = .nominal name := by
  cases b with
  | nominal name' =>
      obtain rfl : name = name' := narrower
      rfl
  | _ => exact narrower.elim

/-! ### Transitivity -/

theorem extreme_or_isSimple {u : Ty} (alone : u.isUnion = false) :
    u = .top ∨ u = .bottom ∨ u.IsSimple := by
  cases u <;> simp_all [IsSimple, isTop, isBottom, isUnion]

theorem IsSimple.not_le_bottom {a : Ty} (simple : a.IsSimple) (ha : a.IsRegular) :
    a.le .bottom = false := by
  have hb : bottom.IsRegular := ⟨rfl, by simp [Everywhere, parts, HasDistinctNames]⟩
  rw [← Bool.not_eq_true, le_iff_of_isSimple ha.ordinary hb simple rfl]
  cases a <;> simp [IsNarrower]

theorem le_bottom_iff {a : Ty} (ha : a.IsRegular) : a.le .bottom = true ↔ a = .bottom := by
  constructor
  · intro below
    cases a with
    | top => simp [top_le_iff] at below
    | bottom => rfl
    | union ts => simp [union_le_iff, equal] at below
    | _ =>
        rw [IsSimple.not_le_bottom ⟨rfl, rfl, rfl⟩ ha] at below
        exact absurd below Bool.false_ne_true
  · rintro rfl
    exact bottom_le .bottom

/-- An alternative of a type is below what the type is below, unless it is the
greatest type, which is below no union. -/
theorem le_or_eq_top_of_mem_alternatives {b c u : Ty} (alternative : u ∈ b.alternatives)
    (below : b.le c = true) : u.le c = true ∨ u = .top ∧ .top ∈ c.alternatives := by
  induction b with
  | union ts ih =>
      rcases (union_le_iff ts c).1 below with same | rfl | ⟨_, all⟩
      · obtain ⟨w, alternative', same⟩ := exists_alternative_of_equal same alternative
        have alone := (alternatives_of_mem_alternatives alternative).2
        rcases extreme_or_isSimple alone with rfl | rfl | simple
        · have greatest : w = .top := by
            cases w with
            | top => rfl
            | _ => simp [equal] at same
          exact Or.inr ⟨rfl, greatest ▸ alternative'⟩
        · exact Or.inl (bottom_le c)
        · refine Or.inl ((le_iff_exists_alternative simple).2 ?_)
          exact ⟨w, alternative', le_of_equal same⟩
      · exact Or.inl (le_top u)
      · rw [alternatives, alternativesOf_eq_flatMap, List.mem_flatMap] at alternative
        obtain ⟨t, inside, alternative⟩ := alternative
        exact ih t inside alternative (all t inside)
  | _ =>
      rw [List.eq_of_mem_singleton alternative]
      exact Or.inl below

/-- Subtyping is transitive from a simple type on, if the relation that settles it
for types that are not unions is. -/
theorem IsSimple.le_trans {a b c : Ty} (simple : a.IsSimple) (ha : a.IsRegular)
    (hb : b.IsRegular) (hc : c.IsRegular)
    (narrower : ∀ u w : Ty, u.IsRegular → w.IsRegular → w ≠ .nominal "object" →
      IsNarrower a u → IsNarrower u w → IsNarrower a w)
    (first : a.le b = true) (second : b.le c = true) : a.le c = true := by
  obtain ⟨u, middle, first⟩ := (le_iff_exists_alternative simple).1 first
  have hu := hb.of_mem_alternatives middle
  have alone := (alternatives_of_mem_alternatives middle).2
  rw [le_iff_exists_alternative simple]
  rcases le_or_eq_top_of_mem_alternatives middle second with second | ⟨_, greatest⟩
  · rcases extreme_or_isSimple alone with rfl | rfl | simple'
    · rw [top_le_iff] at second
      subst second
      exact ⟨.top, List.mem_singleton_self _, le_top a⟩
    · rw [simple.not_le_bottom ha] at first
      exact absurd first Bool.false_ne_true
    · obtain ⟨w, right, second⟩ := (le_iff_exists_alternative simple').1 second
      have hw := hc.of_mem_alternatives right
      have alone' := (alternatives_of_mem_alternatives right).2
      refine ⟨w, right, ?_⟩
      rw [le_iff_of_isSimple ha.ordinary hu simple alone] at first
      rw [le_iff_of_isSimple hu.ordinary hw simple' alone'] at second
      rw [le_iff_of_isSimple ha.ordinary hw simple alone']
      rcases second with greatest | object | second
      · exact Or.inl greatest
      · exact Or.inr (Or.inl object)
      · rcases first with rfl | rfl | first
        · simp [IsSimple, isTop] at simple'
        · exact Or.inr (Or.inl (eq_of_isNarrower_nominal second))
        · by_cases object : w = .nominal "object"
          · exact Or.inr (Or.inl object)
          · exact Or.inr (Or.inr (narrower u w hu hw object first second))
  · exact ⟨.top, greatest, le_top a⟩

theorem le_trans {a b c : Ty} (ha : a.IsRegular) (hb : b.IsRegular) (hc : c.IsRegular)
    (first : a.le b = true) (second : b.le c = true) : a.le c = true := by
  induction a generalizing b c with
  | top =>
      rw [top_le_iff] at first
      exact first ▸ second
  | bottom => exact bottom_le c
  | union ts ih =>
      rcases (union_le_iff ts b).1 first with same | rfl | ⟨inhabited, all⟩
      · cases b with
        | union us =>
            rw [union_le_iff] at second ⊢
            rcases second with same' | greatest | ⟨inhabited, all⟩
            · exact Or.inl (equal_trans hc.hashable same same')
            · exact Or.inr (Or.inl greatest)
            · refine Or.inr (Or.inr ⟨inhabited, fun t left => ?_⟩)
              obtain ⟨u, middle, _, same⟩ := ((equal_union_iff ts us).1 same).1 t left
              exact ih t left (ha.of_mem_union left) (hb.of_mem_union middle) hc
                (le_of_equal same) (all u middle)
        | _ => simp [equal] at same
      · rw [top_le_iff] at second
        subst second
        exact le_top _
      · have inhabited' : c ≠ .bottom := by
          rintro rfl
          exact inhabited ((le_bottom_iff hb).1 second)
        refine (union_le_iff ts c).2 (Or.inr (Or.inr ⟨inhabited', fun t left => ?_⟩))
        exact ih t left (ha.of_mem_union left) hb hc (all t left) second
  | literal v =>
      refine IsSimple.le_trans ⟨rfl, rfl, rfl⟩ ha hb hc (fun u w hu hw notObject => ?_)
        first second
      intro first second
      cases u with
      | literal v' =>
          cases w with
          | literal v'' =>
              exact Value.sameLiteral_trans hw.hashable first second
          | nominal name =>
              exact (Value.className_eq_of_sameLiteral first).trans second
          | _ => exact second.elim
      | nominal name =>
          obtain rfl := eq_of_isNarrower_nominal second
          exact first
      | _ => exact first.elim
  | generic base param ih =>
      refine IsSimple.le_trans ⟨rfl, rfl, rfl⟩ ha hb hc (fun u w hu hw notObject => ?_)
        first second
      intro first second
      cases u with
      | generic base' param' =>
          cases w with
          | generic base'' param'' =>
              have bases : base = base'' ∨ base'' = "object" := by
                rcases second.1 with rfl | object
                · exact first.1
                · exact Or.inr object
              exact ⟨bases, ih ha.of_generic hu.of_generic hw.of_generic first.2 second.2⟩
          | nominal name =>
              have object : base' ≠ "object" := fun same => notObject (by
                rw [IsNarrower] at second
                rw [← second, same])
              exact (first.1.resolve_right object).trans second
          | _ => exact second.elim
      | nominal name =>
          obtain rfl := eq_of_isNarrower_nominal second
          exact first
      | _ => exact first.elim
  | record fs ih =>
      refine IsSimple.le_trans ⟨rfl, rfl, rfl⟩ ha hb hc (fun u w hu hw notObject => ?_)
        first second
      intro first second
      cases u with
      | record gs =>
          cases w with
          | record hs =>
              intro h right
              obtain ⟨u, middle, second⟩ := second h right
              have inside := mem_of_lastField? middle
              obtain ⟨t, left, first⟩ := first (h.1, u) inside
              refine ⟨t, left, ?_⟩
              have outside := mem_of_lastField? left
              exact ih _ outside (ha.of_mem_record outside) (hu.of_mem_record inside)
                (hw.of_mem_record right) first second
          | nominal name => exact second
          | _ => exact second.elim
      | nominal name =>
          obtain rfl := eq_of_isNarrower_nominal second
          exact first
      | _ => exact first.elim
  | text s =>
      refine IsSimple.le_trans ⟨rfl, rfl, rfl⟩ ha hb hc (fun u w _ _ _ => ?_) first second
      intro first second
      cases u with
      | text r =>
          obtain rfl : s = r := first
          exact second
      | nominal name =>
          obtain rfl := eq_of_isNarrower_nominal second
          exact first
      | _ => exact first.elim
  | nominal name =>
      refine IsSimple.le_trans ⟨rfl, rfl, rfl⟩ ha hb hc (fun u w _ _ _ => ?_) first second
      intro first second
      obtain rfl := eq_of_isNarrower_nominal first
      exact second
  | var name =>
      refine IsSimple.le_trans ⟨rfl, rfl, rfl⟩ ha hb hc (fun u w _ _ _ => ?_) first second
      intro first second
      cases u with
      | var name' =>
          obtain rfl : name = name' := first
          exact second
      | _ => exact first.elim
  | foreign =>
      refine IsSimple.le_trans ⟨rfl, rfl, rfl⟩ ha hb hc (fun u w _ _ _ => ?_) first second
      intro first second
      cases u with
      | foreign => exact second
      | _ => exact first.elim

end FunctionSynthesis.Ty
