import FunctionSynthesis.Files
import FunctionSynthesis.Proofs.Attempt

/-!
# Writing files

A text that has been written to a path is there afterwards (`site_of_writeText`). The directories
on the way are not touched, since what is written to is none of them.
-/

namespace FunctionSynthesis.Files

open Attempt (Succeeds)

variable {tree changed : Files} {place : List String} {path : Path} {text : String}

/-- Whether every text can be written to a path. -/
def CanWrite (tree : Files) (path : Path) : Prop :=
  ∀ text, Succeeds (tree.writeText path text)

/-- The tree with a text in the file at a place. -/
def withFile (tree : Files) (place : List String) (text : String) : Files :=
  { tree with files := (tree.files.filter fun f => f.1 != place) ++ [(place, text)] }

theorem writeText_eq_ok_iff :
    tree.writeText path text = .ok changed ↔
      ∃ place, tree.locate path = .ok place ∧ tree.isDirectory place = false ∧
        isBroken path = false ∧ tree.withFile place text = changed := by
  unfold writeText
  cases tree.locate path with
  | error site => simp [throw, throwThe, MonadExceptOf.throw]
  | ok place =>
      cases directory : tree.isDirectory place <;> cases broken : isBroken path <;>
        simp [directory, throw, throwThe, MonadExceptOf.throw, pure, Except.pure, withFile]

theorem at?_withFile (tree : Files) (place : List String) (text : String) :
    (tree.withFile place text).at? place = .file text := by
  have others : (tree.files.filter fun f => f.1 != place).find? (fun f => f.1 == place) = none := by
    rw [List.find?_eq_none]
    intro f member
    simpa using (List.mem_filter.1 member).2
  unfold at? withFile
  rw [List.find?_append, others, Option.none_or]
  simp

theorem isDirectory_withFile {other : List String} (directory : tree.isDirectory other = true) :
    (tree.withFile place text).isDirectory other = true := by
  unfold isDirectory at directory ⊢
  simp only [Bool.or_eq_true, List.any_eq_true] at directory ⊢
  refine directory.imp_right ?_
  rintro ⟨f, member, within⟩
  -- A file that is replaced lies in the same directories as the new one.
  by_cases same : f.1 = place
  · subst same
    exact ⟨(f.1, text), List.mem_append_right _ (List.mem_singleton.2 rfl), within⟩
  · exact ⟨f, List.mem_append_left _ (List.mem_filter.2 ⟨member, by simpa using same⟩), within⟩

theorem isDirectory_of_at? (isThere : tree.at? place = .directory) :
    tree.isDirectory place = true := by
  unfold at? at isThere
  split at isThere
  · cases isThere
  · split at isThere
    · assumption
    · cases isThere

theorem at?_directory_withFile {other : List String} (isThere : tree.at? other = .directory)
    (apart : other ≠ place) : (tree.withFile place text).at? other = .directory := by
  have directory : (tree.withFile place text).isDirectory other = true :=
    isDirectory_withFile (isDirectory_of_at? isThere)
  have noFile : tree.files.find? (fun f => f.1 == other) = none := by
    unfold at? at isThere
    split at isThere
    · cases isThere
    · assumption
  have noOther : (tree.withFile place text).files.find? (fun f => f.1 == other) = none := by
    rw [List.find?_eq_none] at noFile ⊢
    intro f member
    rcases List.mem_append.1 member with old | new
    · exact noFile f (List.mem_filter.1 old).1
    · obtain rfl := List.mem_singleton.1 new
      simpa using Ne.symm apart
  unfold at?
  rw [noOther, directory]
  rfl

/-- A path leads where it led before, since there is no directory at a place that is written
to. -/
theorem follow_withFile (noDirectory : tree.isDirectory place = false) {parts : List String}
    {start : List String} {found : List String} (led : tree.follow start parts = .ok found) :
    (tree.withFile place text).follow start parts = .ok found := by
  induction parts generalizing start with
  | nil => exact led
  | cons part parts ih =>
      rw [follow] at led ⊢
      split at led
      next isThere =>
        -- Only a directory can be left by a step, so the step is not one from the new file.
        have apart : start ≠ place := by
          rintro rfl
          rw [isDirectory_of_at? isThere] at noDirectory
          cases noDirectory
        rw [at?_directory_withFile isThere apart]
        dsimp only
        split at led
        next => cases led
        next short => rw [if_neg short, ih led]
      next => cases led
      next => cases led

theorem site_of_writeText (written : tree.writeText path text = .ok changed) :
    changed.site path = .file text := by
  obtain ⟨place, located, noDirectory, _, rfl⟩ := writeText_eq_ok_iff.1 written
  have again : (tree.withFile place text).locate path = .ok place :=
    follow_withFile noDirectory located
  unfold site
  rw [again]
  exact at?_withFile tree place text

end FunctionSynthesis.Files
