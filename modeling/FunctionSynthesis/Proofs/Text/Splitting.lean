import Mathlib.Tactic.Common
import FunctionSynthesis.Text.Find

/-!
# Splitting what was joined

Pieces that are joined by a character that is in none of them are found again by splitting the
text at this character, as long as all the separators count (`splitOn_join`).
-/

namespace FunctionSynthesis.Text

variable {c : Char}

/-- Characters that are no separator go into the current piece. -/
theorem splitFrom_append_of_not_mem (limit : ℕ) (piece rest : List Char) {chars : List Char}
    (inside : c ∉ chars) :
    splitFrom [c] 0 limit piece (chars ++ rest) =
      splitFrom [c] 0 limit (chars.reverse ++ piece) rest := by
  induction chars generalizing piece with
  | nil => rfl
  | cons d chars ih =>
      obtain ⟨differ, later⟩ := List.ne_and_not_mem_of_not_mem_cons inside
      rw [List.cons_append, List.reverse_cons, List.append_assoc, List.singleton_append,
        ← ih _ later]
      cases limit with
      | zero => rfl
      | succ limit => simp [splitFrom, differ]

/-- A separator that counts ends the current piece. -/
theorem splitFrom_separator (limit : ℕ) (piece rest : List Char) :
    splitFrom [c] 0 (limit + 1) piece (c :: rest) =
      piece.reverse :: splitFrom [c] 0 limit [] rest := by
  simp [splitFrom]

theorem splitOn_of_not_mem (limit : ℕ) {chars : List Char} (inside : c ∉ chars) :
    splitOn [c] limit chars = [chars] := by
  have whole := splitFrom_append_of_not_mem limit [] [] inside
  rw [List.append_nil, List.append_nil] at whole
  rw [splitOn, whole, splitFrom, List.reverse_reverse]

theorem splitOn_append_separator (limit : ℕ) (rest : List Char) {chars : List Char}
    (inside : c ∉ chars) :
    splitOn [c] (limit + 1) (chars ++ c :: rest) = chars :: splitOn [c] limit rest := by
  rw [splitOn, splitFrom_append_of_not_mem _ _ _ inside, splitFrom_separator, List.append_nil,
    List.reverse_reverse, splitOn]

theorem join_cons_cons (separator first second : List Char) (pieces : List (List Char)) :
    join separator (first :: second :: pieces) =
      first ++ separator ++ join separator (second :: pieces) :=
  List.intercalate_cons_cons

theorem splitOn_join {limit : ℕ} {pieces : List (List Char)} (some : pieces ≠ [])
    (inside : ∀ piece ∈ pieces, c ∉ piece) (ample : pieces.length ≤ limit + 1) :
    splitOn [c] limit (join [c] pieces) = pieces := by
  induction pieces generalizing limit with
  | nil => exact absurd rfl some
  | cons first pieces ih =>
      obtain ⟨here, later⟩ := List.forall_mem_cons.1 inside
      cases pieces with
      | nil =>
          rw [join, List.intercalate_singleton, splitOn_of_not_mem limit here]
      | cons second pieces =>
          obtain ⟨limit, rfl⟩ : ∃ n, limit = n + 1 := by
            apply Nat.exists_eq_add_one.2
            simp only [List.length_cons] at ample
            omega
          rw [join_cons_cons, List.append_assoc, List.singleton_append,
            splitOn_append_separator limit _ here,
            ih (List.cons_ne_nil _ _) later (by simpa using ample)]

/-- There are no more separators in a text than characters. -/
theorem length_le_length_join (pieces : List (List Char)) :
    pieces.length ≤ (join [c] pieces).length + 1 := by
  induction pieces with
  | nil => exact Nat.zero_le _
  | cons first pieces ih =>
      cases pieces with
      | nil => simp
      | cons second pieces =>
          rw [join_cons_cons, List.length_append, List.length_append, List.length_cons,
            List.length_singleton]
          omega

end FunctionSynthesis.Text
