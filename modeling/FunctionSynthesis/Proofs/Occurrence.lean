import Mathlib.Data.List.Induction

/-!
# First occurrences

The items of a list that are the same as none before them. When being the same is transitive,
collecting item by item what is not there yet finds them (`foldl_keep`), and a part of a list can
be replaced by its first occurrences (`firstOccurrences_append_middle`).
-/

namespace FunctionSynthesis

variable {α : Type} {same : α → α → Bool}

/-- The items of a list that are the same as none before them, in order. -/
def firstOccurrences (same : α → α → Bool) (xs : List α) : List α :=
  (xs.zipIdx.filter fun place => !(xs.take place.2).any (same place.1)).map Prod.fst

theorem firstOccurrences_concat (xs : List α) (x : α) :
    firstOccurrences same (xs ++ [x]) =
      firstOccurrences same xs ++ if xs.any (same x) then [] else [x] := by
  have before : (xs.zipIdx.filter fun place => !((xs ++ [x]).take place.2).any (same place.1)) =
      xs.zipIdx.filter fun place => !(xs.take place.2).any (same place.1) := by
    apply List.filter_congr
    intro place member
    have inside : place.2 < xs.length := by simpa using List.snd_lt_of_mem_zipIdx member
    rw [List.take_append_of_le_length (Nat.le_of_lt inside)]
  unfold firstOccurrences
  rw [List.zipIdx_append, List.filter_append, List.map_append, before]
  by_cases known : xs.any (same x) = true <;> simp [known]

theorem firstOccurrences_concat_of_any {xs : List α} {x : α} (known : xs.any (same x) = true) :
    firstOccurrences same (xs ++ [x]) = firstOccurrences same xs := by
  rw [firstOccurrences_concat, if_pos known, List.append_nil]

theorem firstOccurrences_concat_of_not_any {xs : List α} {x : α}
    (fresh : ¬ xs.any (same x) = true) :
    firstOccurrences same (xs ++ [x]) = firstOccurrences same xs ++ [x] := by
  rw [firstOccurrences_concat, if_neg fresh]

theorem mem_of_mem_firstOccurrences {xs : List α} {x : α}
    (member : x ∈ firstOccurrences same xs) : x ∈ xs := by
  obtain ⟨place, kept, rfl⟩ := List.mem_map.1 member
  apply List.mem_of_getElem?
  exact List.mem_zipIdx_iff_getElem?.1 (List.mem_filter.1 kept).1

theorem pairwise_firstOccurrences (xs : List α) :
    (firstOccurrences same xs).Pairwise fun x y => same y x = false := by
  induction xs using List.reverseRecOn with
  | nil => exact .nil
  | append_singleton xs x ih =>
      by_cases known : xs.any (same x) = true
      · rwa [firstOccurrences_concat_of_any known]
      · rw [firstOccurrences_concat_of_not_any known, List.pairwise_append]
        refine ⟨ih, List.pairwise_singleton _ _, fun y kept z last => ?_⟩
        rw [List.mem_singleton.1 last]
        simp only [List.any_eq_true, not_exists, not_and, Bool.not_eq_true] at known
        exact known y (mem_of_mem_firstOccurrences kept)

theorem firstOccurrences_append_of_any {xs ys : List α}
    (known : ∀ y ∈ ys, xs.any (same y) = true) :
    firstOccurrences same (xs ++ ys) = firstOccurrences same xs := by
  induction ys using List.reverseRecOn with
  | nil => rw [List.append_nil]
  | append_singleton ys y ih =>
      have last : (xs ++ ys).any (same y) = true := by
        rw [List.any_append, known y (by simp), Bool.true_or]
      rw [← List.append_assoc, firstOccurrences_concat_of_any last]
      exact ih fun z member => known z (List.mem_append_left _ member)

/-! ### Transitive sameness -/

/-- Whether what is the same as something that is the same as an item of a list is the same as
this item. -/
def IsTransitiveOn (same : α → α → Bool) (xs : List α) : Prop :=
  ∀ ⦃x y z : α⦄, z ∈ xs → same x y = true → same y z = true → same x z = true

variable {xs : List α}

theorem IsTransitiveOn.append_left {ys : List α} (transitive : IsTransitiveOn same (xs ++ ys)) :
    IsTransitiveOn same xs :=
  fun _ _ _ member => transitive (List.mem_append_left ys member)

/-- What is the same as an item is the same as one of the first occurrences. -/
theorem any_firstOccurrences (transitive : IsTransitiveOn same xs) (x : α) :
    (firstOccurrences same xs).any (same x) = xs.any (same x) := by
  induction xs using List.reverseRecOn with
  | nil => rfl
  | append_singleton xs y ih =>
      have ih := ih transitive.append_left
      by_cases known : xs.any (same y) = true
      · rw [firstOccurrences_concat_of_any known, ih, List.any_append]
        have earlier : same x y = true → xs.any (same x) = true := by
          intro alike
          obtain ⟨z, member, alike'⟩ := List.any_eq_true.1 known
          have inside : z ∈ xs ++ [y] := List.mem_append_left [y] member
          exact List.any_eq_true.2 ⟨z, member, transitive inside alike alike'⟩
        by_cases alike : same x y = true
        · simp [alike, earlier alike]
        · simp [alike]
      · rw [firstOccurrences_concat_of_not_any known, List.any_append, List.any_append, ih]

theorem firstOccurrences_append_right (ys : List α) (transitive : IsTransitiveOn same xs) :
    firstOccurrences same (ys ++ firstOccurrences same xs) = firstOccurrences same (ys ++ xs) := by
  induction xs using List.reverseRecOn with
  | nil => rfl
  | append_singleton xs x ih =>
      have ih := ih transitive.append_left
      by_cases known : xs.any (same x) = true
      · have last : (ys ++ xs).any (same x) = true := by
          rw [List.any_append, known, Bool.or_true]
        rw [firstOccurrences_concat_of_any known, ← List.append_assoc,
          firstOccurrences_concat_of_any last, ih]
      · rw [firstOccurrences_concat_of_not_any known, ← List.append_assoc, ← List.append_assoc,
          firstOccurrences_concat, firstOccurrences_concat, ih, List.any_append, List.any_append,
          any_firstOccurrences transitive.append_left]

theorem firstOccurrences_append_middle (before after : List α)
    (transitive : IsTransitiveOn same xs) :
    firstOccurrences same (before ++ firstOccurrences same xs ++ after) =
      firstOccurrences same (before ++ xs ++ after) := by
  induction after using List.reverseRecOn with
  | nil => simpa using firstOccurrences_append_right before transitive
  | append_singleton after x ih =>
      rw [← List.append_assoc, ← List.append_assoc, firstOccurrences_concat,
        firstOccurrences_concat, ih]
      simp only [List.any_append, any_firstOccurrences transitive]

/-! ### Collecting -/

/-- Add an item to what has been kept unless the same one is there. -/
def keep (same : α → α → Bool) (kept : List α) (x : α) : List α :=
  if kept.any (same x) then kept else kept ++ [x]

/-- Adding the last item to the first occurrences of the others. -/
theorem keep_firstOccurrences (transitive : IsTransitiveOn same xs) (x : α) :
    keep same (firstOccurrences same xs) x = firstOccurrences same (xs ++ [x]) := by
  rw [keep, any_firstOccurrences transitive]
  by_cases known : xs.any (same x) = true
  · rw [if_pos known, firstOccurrences_concat_of_any known]
  · rw [if_neg known, firstOccurrences_concat_of_not_any known]

theorem foldl_keep (transitive : IsTransitiveOn same xs) :
    xs.foldl (keep same) [] = firstOccurrences same xs := by
  induction xs using List.reverseRecOn with
  | nil => rfl
  | append_singleton xs x ih =>
      rw [List.foldl_append, ih transitive.append_left]
      exact keep_firstOccurrences transitive.append_left x

/-! ### Equality -/

variable [BEq α] [LawfulBEq α]

theorem isTransitiveOn_beq (xs : List α) : IsTransitiveOn (· == ·) xs := by
  intro x y z _ first second
  rw [beq_iff_eq] at first second ⊢
  exact first.trans second

theorem eraseDups_eq_firstOccurrences (xs : List α) :
    xs.eraseDups = firstOccurrences (· == ·) xs := by
  induction xs using List.reverseRecOn with
  | nil => rfl
  | append_singleton xs x ih =>
      rw [List.eraseDups_append, ih, firstOccurrences_concat]
      by_cases known : x ∈ xs
      · simp [List.removeAll, known]
      · simp [List.removeAll, known, List.eraseDups_cons]

end FunctionSynthesis
