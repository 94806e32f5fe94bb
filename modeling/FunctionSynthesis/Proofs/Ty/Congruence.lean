import FunctionSynthesis.Proofs.Ty.Order

/-!
# Subtyping and equality

What is below a type is below every type that equals it, if types are hashable and records
give each name once (`le_of_le_of_equal`). In the other direction this holds for classes only:
equal types are below the same classes (`le_nominal_of_equal`), while equal tuples of different
numbers are widened to lists of different classes.
-/

namespace FunctionSynthesis.Ty

/-- Whether a type is hashable and its records give each name once. -/
structure IsProper (t : Ty) : Prop where
  hashable : t.isHashable = true
  names : t.Everywhere HasDistinctNames

theorem IsProper.of_mem_parts {t u : Ty} (proper : t.IsProper) (part : u ∈ t.parts) :
    u.IsProper :=
  ⟨isHashable_of_mem_parts proper.hashable part, proper.names.of_mem_parts part⟩

theorem IsProper.of_mem_alternatives {t u : Ty} (proper : t.IsProper)
    (alternative : u ∈ t.alternatives) : u.IsProper :=
  proper.of_mem_parts (mem_parts_of_mem_alternatives alternative)

theorem isProper_nominal (name : String) : (nominal name).IsProper :=
  ⟨rfl, (everywhere_of_leaf rfl).2 trivial⟩

/-! ### Types above equal types -/

section

variable {a b c u w : Ty}

theorem isPlainlyAbove_of_equal (hashable : w.isHashable = true) (same : equal u w = true)
    (above : isPlainlyAbove a u = true) : isPlainlyAbove a w = true := by
  rw [isPlainlyAbove_iff] at above ⊢
  rcases above with here | rfl | rfl
  · exact Or.inl (equal_trans hashable here same)
  · cases w <;> first | exact Or.inr (Or.inl rfl) | cases same
  · cases w <;> simp_all [equal]

theorem anyAlternative_of_equal {test : Ty → Bool} (same : equal b c = true)
    (carries : ∀ u, ∀ w ∈ c.alternatives, equal u w = true → test u = true → test w = true)
    (passed : b.anyAlternative test = true) : c.anyAlternative test = true := by
  rw [anyAlternative, List.any_eq_true] at passed ⊢
  obtain ⟨u, alternative, passed⟩ := passed
  obtain ⟨w, alternative', same⟩ := exists_alternative_of_equal same alternative
  exact ⟨w, alternative', carries u w alternative' same passed⟩

theorem leWith_of_equal {literalLe : Value → Ty → Bool}
    (literals : ∀ v {b c : Ty}, c.IsProper → equal b c = true →
      literalLe v b = true → literalLe v c = true)
    (proper : c.IsProper) (same : equal b c = true) (below : leWith literalLe a b = true) :
    leWith literalLe a c = true := by
  induction a generalizing b c with
  | bottom => rfl
  | top =>
      obtain rfl : b = .top := isTop_iff.1 below
      cases c <;> first | rfl | cases same
  | union ts ih =>
      rw [leWith, allLeWith_eq_all, Bool.or_eq_true, Bool.or_eq_true, Bool.and_eq_true,
        List.all_eq_true] at below ⊢
      rcases below with (here | greatest) | ⟨inhabited, all⟩
      · exact Or.inl (Or.inl (equal_trans proper.hashable here same))
      · obtain rfl := isTop_iff.1 greatest
        cases c <;> first | exact Or.inl (Or.inr rfl) | cases same
      · refine Or.inr ⟨?_, fun t member => ih t member proper same (all t member)⟩
        cases c <;> first | rfl | (cases b <;> first | exact inhabited | cases same)
  | literal v =>
      refine anyAlternative_of_equal same (fun u w alternative same passed => ?_) below
      rw [Bool.or_eq_true, Bool.and_eq_true] at passed ⊢
      have right := proper.of_mem_alternatives alternative
      refine passed.imp (isPlainlyAbove_of_equal right.hashable same)
        (And.imp (fun plain => ?_) (literals v right same))
      cases w <;> first | rfl | (cases u <;> first | exact plain | cases same)
  | text s =>
      refine anyAlternative_of_equal same (fun u w alternative same passed => ?_) below
      have right := proper.of_mem_alternatives alternative
      rw [Bool.or_eq_true] at passed ⊢
      exact passed.imp (isPlainlyAbove_of_equal right.hashable same)
        fun here => equal_trans right.hashable here same
  | generic base param ih =>
      refine anyAlternative_of_equal same (fun u w alternative same passed => ?_) below
      have right := proper.of_mem_alternatives alternative
      rw [Bool.or_eq_true] at passed ⊢
      refine passed.imp (isPlainlyAbove_of_equal right.hashable same) fun narrower => ?_
      cases u with
      | generic base' param' =>
          cases w with
          | generic base'' param'' =>
              rw [equal, Bool.and_eq_true, beq_iff_eq] at same
              obtain ⟨rfl, same⟩ := same
              rw [Bool.and_eq_true] at narrower ⊢
              have param := right.of_mem_parts (List.mem_cons_of_mem _ (mem_parts_self _))
              exact narrower.imp_right (ih param same)
          | _ => cases same
      | nominal name =>
          cases w with
          | nominal name' =>
              obtain rfl : name = name' := beq_iff_eq.1 same
              exact narrower
          | _ => cases same
      | _ => cases narrower
  | record fs ih =>
      refine anyAlternative_of_equal same (fun u w alternative same passed => ?_) below
      have right := proper.of_mem_alternatives alternative
      rw [Bool.or_eq_true] at passed ⊢
      refine passed.imp (isPlainlyAbove_of_equal right.hashable same) fun narrower => ?_
      cases u with
      | record gs =>
          cases w with
          | record hs =>
              rw [equal_record_iff] at same
              simp only [List.all_eq_true, lastFieldLeWith_eq_any, Option.any_eq_true]
                at narrower ⊢
              intro h member
              -- the field of the equal record that counts for the name of this one
              obtain ⟨g, found⟩ := same.2 h member
              obtain ⟨h', found', same⟩ := same.1 h.1 g found
              rw [right.names.here.lastField?_of_mem member, Option.some.injEq] at found'
              obtain ⟨f, found'', below⟩ := narrower _ (mem_of_lastField? found)
              have proper := right.of_mem_parts (mem_parts_of_field member)
              exact ⟨f, found'', ih _ (mem_of_lastField? found'') proper (found' ▸ same) below⟩
          | _ => cases same
      | nominal name =>
          cases w with
          | nominal name' =>
              obtain rfl : name = name' := beq_iff_eq.1 same
              exact narrower
          | _ => cases same
      | _ => cases narrower
  | _ =>
      refine anyAlternative_of_equal same (fun u w alternative same passed => ?_) below
      exact isPlainlyAbove_of_equal (proper.of_mem_alternatives alternative).hashable same passed

/-- What is below a type is below every type that equals it. -/
theorem le_of_le_of_equal (proper : c.IsProper) (below : a.le b = true)
    (same : equal b c = true) : a.le c = true := by
  refine leWith_of_equal (fun v b c proper same below => ?_) proper same below
  exact leWith_of_equal (fun _ _ _ _ _ => id) proper same below

end

/-! ### Classes above equal types -/

theorem literal_le_nominal_iff {v : Value} (hashable : v.isHashable = true) (name : String) :
    (literal v).le (.nominal name) = true ↔
      name = "object" ∨ (literal v).receiverClass? = some name := by
  have unfolded : (literal v).le (.nominal name) = true ↔
      name = "object" ∨ leWith (fun _ _ => false) (generalType v) (.nominal name) = true := by
    simp [le, leWith, anyAlternative, alternatives, isPlainlyAbove_iff, equal, isLiteral]
  have below (t : Ty) (named : t = classOf v ∨ ∃ param, t = .generic "list" param) :
      leWith (fun _ _ => false) t (.nominal name) = true ↔
        name = "object" ∨ t.receiverClass? = some name := by
    rcases named with rfl | ⟨param, rfl⟩ <;>
      simp [classOf, leWith, anyAlternative, alternatives, isPlainlyAbove_iff, equal,
        receiverClass?, or_comm]
  have widened : generalType v = classOf v ∨ ∃ param, generalType v = .generic "list" param := by
    cases v with
    | tuple items => exact Or.inr ⟨_, rfl⟩
    | list items => cases hashable
    | dict entries => cases hashable
    | _ => exact Or.inl rfl
  have same : (literal v).receiverClass? = (generalType v).receiverClass? := by
    rcases widened with widened | ⟨param, widened⟩ <;>
      simp [receiverClass?, widened, classOf]
  rw [unfolded, below _ widened, same, ← or_assoc, or_self]

theorem receiverClass?_literal {v : Value} (hashable : v.isHashable = true)
    (notTuple : ∀ items, v ≠ .tuple items) :
    (literal v).receiverClass? = some v.className := by
  cases v with
  | tuple items => exact absurd rfl (notTuple items)
  | list items => cases hashable
  | dict entries => cases hashable
  | _ => rfl

/-- Literals that are the same have methods of one class. -/
theorem receiverClass?_eq_of_sameLiteral {v w : Value} (hashable : w.isHashable = true)
    (same : v.sameLiteral w = true) :
    (literal v).receiverClass? = (literal w).receiverClass? := by
  obtain ⟨classes, same⟩ := (Value.sameLiteral_iff_equal v w).1 same
  by_cases tupled : ∃ items, v = .tuple items
  · obtain ⟨items, rfl⟩ := tupled
    obtain ⟨others, rfl, _⟩ := (Value.equal_tuple_iff items w).1 same
    rfl
  · rw [not_exists] at tupled
    have tupled' (items : List Value) : w ≠ .tuple items := by
      rintro rfl
      have swapped := Value.equal_symm hashable same
      obtain ⟨others, tuple, _⟩ := (Value.equal_tuple_iff items v).1 swapped
      exact tupled others tuple
    rw [receiverClass?_literal (Value.isHashable_of_equal hashable same) tupled,
      receiverClass?_literal hashable tupled', classes]

/-- Equal types are below the same classes. -/
theorem le_nominal_of_equal {a b : Ty} {name : String} (hashable : b.isHashable = true)
    (same : equal a b = true) (below : a.le (.nominal name) = true) :
    b.le (.nominal name) = true := by
  induction a generalizing b with
  | union ts ih =>
      cases b with
      | union us =>
          rw [isHashable_union] at hashable
          rw [equal_union_iff] at same
          rw [union_le_iff] at below ⊢
          rcases below with impossible | impossible | ⟨_, all⟩
          · cases impossible
          · cases impossible
          · refine Or.inr (Or.inr ⟨nofun, fun u member => ?_⟩)
            obtain ⟨t, inside, _, same⟩ := same.2 u member
            exact ih t inside (hashable u member) same (all t inside)
      | _ => cases same
  | literal v =>
      cases b with
      | literal w =>
          have left := Value.isHashable_of_equal hashable
            ((Value.sameLiteral_iff_equal v w).1 same).2
          rw [literal_le_nominal_iff left, receiverClass?_eq_of_sameLiteral hashable same] at below
          exact (literal_le_nominal_iff hashable name).2 below
      | _ => cases same
  | generic base param =>
      cases b with
      | generic base' param' =>
          rw [equal, Bool.and_eq_true, beq_iff_eq] at same
          obtain ⟨rfl, _⟩ := same
          exact below
      | _ => cases same
  | nominal name' =>
      cases b with
      | nominal name'' =>
          obtain rfl : name' = name'' := beq_iff_eq.1 same
          exact below
      | _ => cases same
  | _ => cases b <;> first | exact below | cases same

end FunctionSynthesis.Ty
