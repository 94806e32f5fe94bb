import FunctionSynthesis.Proofs.Attempt
import FunctionSynthesis.Proofs.Value.Plain

/-!
# Equality of hashable values

Numbers are equal when they are of one rank (`Number.equal_iff`), and tuples when their items
are. So equality is an equivalence on values that can be keys of dictionaries, and being the
same literal is one as well (`sameLiteral_refl`, `sameLiteral_symm`, `sameLiteral_trans`).
-/

namespace FunctionSynthesis

/-! ### Numbers -/

theorem Binary64.compareInt?_eq_some_eq_iff (x : Binary64) (k : Int) :
    x.compareInt? k = some .eq ↔ x.rank? = some (.inr k) := by
  cases x with
  | nan => simp [compareInt?, rank?]
  | infinite negative => cases negative <;> simp [compareInt?, rank?]
  | finite negative significand exponent stored =>
      have positive : Nat.pow 2 (-exponent).toNat ≠ 0 := Nat.ne_of_gt (Nat.two_pow_pos _)
      have whole : (k : Rat) = mkRat k 1 := (Rat.mkRat_one k).symm
      simp only [compareInt?, toRatio?, rank?, Option.some.injEq, Sum.inr.injEq]
      rw [whole, Rat.mkRat_eq_iff positive Nat.one_ne_zero, Std.LawfulEqOrd.compare_eq_iff_eq]
      simp

namespace Number

/-- What a number counts. -/
def rank? : Number → Option (Bool ⊕ Rat)
  | .int n => some (.inr n)
  | .float x => x.rank?

theorem equal_iff (a b : Number) : a.equal b = true ↔ a.rank? = b.rank? := by
  cases a with
  | int n =>
      cases b with
      | int m => simp [equal, compare?, rank?]
      | float y =>
          have swapped : (y.compareInt? n).map Ordering.swap = some .eq ↔
              y.compareInt? n = some .eq := by
            cases y.compareInt? n with
            | none => simp
            | some order => cases order <;> simp
          simp only [equal, compare?, rank?, beq_iff_eq]
          rw [swapped, y.compareInt?_eq_some_eq_iff, eq_comm]
  | float x =>
      cases b with
      | int m =>
          simp only [equal, compare?, rank?, beq_iff_eq]
          exact x.compareInt?_eq_some_eq_iff m
      | float y => exact x.equal_iff y

end Number

namespace Value

/-! ### Equality by shape -/

theorem equalItems_iff (xs ys : List Value) :
    equalItems xs ys = true ↔ List.Forall₂ (fun x y => equal x y = true) xs ys := by
  induction xs generalizing ys with
  | nil => cases ys <;> simp [equalItems]
  | cons x xs ih => cases ys <;> simp [equalItems, ih]

theorem isHashable_tuple (items : List Value) :
    (tuple items).isHashable = true ↔ ∀ item ∈ items, item.isHashable = true := by
  rw [isHashable, unhashable?]
  induction items with
  | nil => simp [firstUnhashable?]
  | cons item items ih =>
      rw [List.forall_mem_cons, ← ih, isHashable, firstUnhashable?]
      cases item.unhashable? <;> simp

theorem equal_iff_of_number? {a : Value} {x : Number} (number : a.number? = some x) (b : Value) :
    equal a b = true ↔ ∃ y, b.number? = some y ∧ x.rank? = y.rank? := by
  have unfolded : equal a b = b.number?.any fun y => x.equal y := by
    cases a with
    | bool t =>
        obtain rfl := Option.some.inj number
        cases b <;> rfl
    | int n =>
        obtain rfl := Option.some.inj number
        cases b <;> rfl
    | float y =>
        obtain rfl := Option.some.inj number
        cases b <;> rfl
    | _ => cases number
  rw [unfolded, Option.any_eq_true]
  simp only [Number.equal_iff]

theorem equal_tuple_iff (items : List Value) (b : Value) :
    equal (.tuple items) b = true ↔
      ∃ others, b = .tuple others ∧
        List.Forall₂ (fun x y => equal x y = true) items others := by
  cases b <;> simp [equal, number?, equalItems_iff]

/-! ### Hashable values -/

/-- Induction on hashable values: numbers, tuples and values that are equal to themselves
only. -/
theorem inductionOnHashable {motive : (v : Value) → v.isHashable = true → Prop}
    (number : ∀ v hashable (x : Number), v.number? = some x → motive v hashable)
    (tuple : ∀ items hashable,
      (∀ item ∈ items, ∃ hashable, motive item hashable) → motive (.tuple items) hashable)
    (single : ∀ v hashable, (∀ w, equal v w = true ↔ v = w) → motive v hashable)
    (v : Value) (hashable : v.isHashable = true) : motive v hashable := by
  induction v using inductionOn with
  | atom v isAtom =>
      cases v with
      | none => exact single _ _ fun w => by cases w <;> simp [equal, number?]
      | str s => exact single _ _ fun w => by cases w <;> simp [equal, number?]
      | bool b => exact number _ _ _ rfl
      | int n => exact number _ _ _ rfl
      | float x => exact number _ _ _ rfl
      | _ => exact absurd isAtom Bool.false_ne_true
  | tuple items ih =>
      have inner := (isHashable_tuple items).1 hashable
      exact tuple items _ fun item inside => ⟨inner item inside, ih item inside _⟩
  | special kind plain literal =>
      exact single _ _ fun w => by cases w <;> simp [equal, number?, and_assoc]
  | list items => cases hashable
  | set items => cases hashable
  | dict entries => cases hashable

/-- What a hashable value is equal to is hashable. -/
theorem isHashable_of_equal {a b : Value} (hashable : b.isHashable = true)
    (same : equal a b = true) : a.isHashable = true := by
  induction a using inductionOn generalizing b with
  | atom a isAtom => exact isHashable_of_isAtom isAtom
  | tuple items ih =>
      obtain ⟨others, rfl, alike⟩ := (equal_tuple_iff items b).1 same
      rw [isHashable_tuple] at hashable ⊢
      intro item here
      obtain ⟨other, there, same⟩ := Attempt.exists_of_mem_right alike.flip here
      exact ih item here (hashable other there) same
  | special kind plain literal => rfl
  | list items =>
      cases b <;>
        first
        | exact absurd same Bool.false_ne_true
        | exact absurd hashable Bool.false_ne_true
  | set items =>
      cases b <;>
        first
        | exact absurd same Bool.false_ne_true
        | exact absurd hashable Bool.false_ne_true
  | dict entries =>
      cases b <;>
        first
        | exact absurd same Bool.false_ne_true
        | exact absurd hashable Bool.false_ne_true

theorem equal_refl {v : Value} (hashable : v.isHashable = true) : equal v v = true := by
  induction v, hashable using inductionOnHashable with
  | number v _ x number => exact (equal_iff_of_number? number v).2 ⟨x, number, rfl⟩
  | tuple items _ ih =>
      exact (equal_tuple_iff items _).2
        ⟨items, rfl, List.forall₂_same.2 fun item inside => (ih item inside).2⟩
  | single v _ single => exact (single v).2 rfl

theorem equal_symm {a b : Value} (hashable : b.isHashable = true) (same : equal a b = true) :
    equal b a = true := by
  have left := isHashable_of_equal hashable same
  clear hashable
  induction a, left using inductionOnHashable generalizing b with
  | number a _ x number =>
      obtain ⟨y, number', ranks⟩ := (equal_iff_of_number? number b).1 same
      exact (equal_iff_of_number? number' a).2 ⟨x, number, ranks.symm⟩
  | tuple items _ ih =>
      obtain ⟨others, rfl, alike⟩ := (equal_tuple_iff items b).1 same
      refine (equal_tuple_iff others _).2 ⟨items, rfl, ?_⟩
      exact (((List.forall₂_and_left _ _).2 ⟨ih, alike⟩).imp
        fun _ _ ⟨⟨_, symm⟩, same⟩ => symm same).flip
  | single a _ single => exact (single b).1 same ▸ same

theorem equal_trans {a b c : Value} (hashable : c.isHashable = true)
    (first : equal a b = true) (second : equal b c = true) : equal a c = true := by
  have left := isHashable_of_equal (isHashable_of_equal hashable second) first
  clear hashable
  induction a, left using inductionOnHashable generalizing b c with
  | number a _ x number =>
      obtain ⟨y, number', ranks⟩ := (equal_iff_of_number? number b).1 first
      obtain ⟨z, number'', ranks'⟩ := (equal_iff_of_number? number' c).1 second
      exact (equal_iff_of_number? number c).2 ⟨z, number'', ranks.trans ranks'⟩
  | tuple items _ ih =>
      obtain ⟨middle, rfl, left⟩ := (equal_tuple_iff items b).1 first
      obtain ⟨others, rfl, right⟩ := (equal_tuple_iff middle c).1 second
      refine (equal_tuple_iff items _).2 ⟨others, rfl, ?_⟩
      refine (Attempt.forall₂_comp ((List.forall₂_and_left _ _).2 ⟨ih, left⟩) right).imp ?_
      rintro item other ⟨between, _, ⟨⟨_, trans⟩, first⟩, second⟩
      exact trans first second
  | single a _ single => exact (single b).1 first ▸ second

/-! ### Literals -/

theorem sameLiteral_iff_equal (v w : Value) :
    v.sameLiteral w = true ↔ v.className = w.className ∧ equal v w = true := by
  rw [sameLiteral, Bool.and_eq_true, beq_iff_eq]
  rfl

theorem className_eq_of_sameLiteral {v w : Value} (same : v.sameLiteral w = true) :
    v.className = w.className :=
  ((sameLiteral_iff_equal v w).1 same).1

theorem sameLiteral_refl {v : Value} (hashable : v.isHashable = true) :
    v.sameLiteral v = true :=
  (sameLiteral_iff_equal v v).2 ⟨rfl, equal_refl hashable⟩

theorem sameLiteral_symm {v w : Value} (hashable : w.isHashable = true)
    (same : v.sameLiteral w = true) : w.sameLiteral v = true := by
  obtain ⟨classes, same⟩ := (sameLiteral_iff_equal v w).1 same
  exact (sameLiteral_iff_equal w v).2 ⟨classes.symm, equal_symm hashable same⟩

theorem sameLiteral_trans {u v w : Value} (hashable : w.isHashable = true)
    (first : u.sameLiteral v = true) (second : v.sameLiteral w = true) :
    u.sameLiteral w = true := by
  obtain ⟨classes, first⟩ := (sameLiteral_iff_equal u v).1 first
  obtain ⟨classes', second⟩ := (sameLiteral_iff_equal v w).1 second
  exact (sameLiteral_iff_equal u w).2
    ⟨classes.trans classes', equal_trans hashable first second⟩

end Value

end FunctionSynthesis
