import Mathlib.Data.List.Forall2
import FunctionSynthesis.Fault

/-!
# Lists of attempts

When every attempt on the items of a list succeeds, going through the list with
the attempts is going through it with their results. A list of results is the
result of attempts, taken item by item.
-/

namespace FunctionSynthesis.Attempt

/-- What comes first in a sequence of attempts succeeds when the whole does. -/
theorem bind_eq_ok_iff {α β ε : Type} {first : Except ε α}
    {next : α → Except ε β} {b : β} :
    (first >>= next) = .ok b ↔ ∃ a, first = .ok a ∧ next a = .ok b := by
  cases first <;> simp [bind, Except.bind]

theorem pure_eq_ok_iff {α ε : Type} {a b : α} :
    (pure a : Except ε α) = .ok b ↔ a = b := by
  simp [pure, Except.pure]

theorem throw_eq_ok_iff {α ε : Type} {fault : ε} {a : α} :
    (throw fault : Except ε α) = .ok a ↔ False := by
  simp [throw, throwThe, MonadExceptOf.throw]

/-- A test that is made when another one holds: it holds when both do. -/
theorem and_eq_ok_true_iff {ε : Type} {first second : Except ε Bool} :
    (first >>= fun holds => if holds then second else pure false) = .ok true ↔
      first = .ok true ∧ second = .ok true := by
  rw [bind_eq_ok_iff]
  constructor
  · rintro ⟨holds, tested, rest⟩
    cases holds with
    | true => exact ⟨tested, rest⟩
    | false => cases rest
  · exact fun ⟨tested, rest⟩ => ⟨true, tested, rest⟩

section Tests

variable {α ε : Type} {attempt : α → Except ε Bool} {result : α → Bool}
  {items : List α}

theorem allM_eq_ok (succeeds : ∀ x ∈ items, attempt x = .ok (result x)) :
    items.allM attempt = .ok (items.all result) := by
  induction items with
  | nil => rfl
  | cons x items ih =>
      obtain ⟨here, rest⟩ := List.forall_mem_cons.1 succeeds
      rw [List.allM, here, ih rest, List.all_cons]
      cases result x <;> rfl

theorem anyM_eq_ok (succeeds : ∀ x ∈ items, attempt x = .ok (result x)) :
    items.anyM attempt = .ok (items.any result) := by
  induction items with
  | nil => rfl
  | cons x items ih =>
      obtain ⟨here, rest⟩ := List.forall_mem_cons.1 succeeds
      rw [List.anyM, here, ih rest, List.any_cons]
      cases result x <;> rfl

theorem exists_of_anyM_eq_ok_true (passed : items.anyM attempt = .ok true) :
    ∃ x ∈ items, attempt x = .ok true := by
  induction items with
  | nil => cases passed
  | cons x items ih =>
      obtain ⟨here, tried, rest⟩ := bind_eq_ok_iff.1 passed
      cases here with
      | true => exact ⟨x, List.mem_cons_self, tried⟩
      | false =>
          obtain ⟨y, later, tried⟩ := ih rest
          exact ⟨y, List.mem_cons_of_mem x later, tried⟩

theorem eq_ok_false_of_anyM (failed : items.anyM attempt = .ok false) :
    ∀ x ∈ items, attempt x = .ok false := by
  induction items with
  | nil => exact fun _ member => absurd member List.not_mem_nil
  | cons x items ih =>
      obtain ⟨here, tried, rest⟩ := bind_eq_ok_iff.1 failed
      cases here with
      | true => cases rest
      | false => exact List.forall_mem_cons.2 ⟨tried, ih rest⟩

theorem eq_ok_true_of_allM (passed : items.allM attempt = .ok true) :
    ∀ x ∈ items, attempt x = .ok true := by
  induction items with
  | nil => exact fun _ member => absurd member List.not_mem_nil
  | cons x items ih =>
      obtain ⟨here, tried, rest⟩ := bind_eq_ok_iff.1 passed
      cases here with
      | true => exact List.forall_mem_cons.2 ⟨tried, ih rest⟩
      | false => cases rest

theorem exists_of_allM_eq_ok_false (failed : items.allM attempt = .ok false) :
    ∃ x ∈ items, attempt x = .ok false := by
  induction items with
  | nil => cases failed
  | cons x items ih =>
      obtain ⟨here, tried, rest⟩ := bind_eq_ok_iff.1 failed
      cases here with
      | true =>
          obtain ⟨y, later, tried⟩ := ih rest
          exact ⟨y, List.mem_cons_of_mem x later, tried⟩
      | false => exact ⟨x, List.mem_cons_self, tried⟩

theorem findM?_eq_ok (succeeds : ∀ x ∈ items, attempt x = .ok (result x)) :
    items.findM? attempt = .ok (items.find? result) := by
  induction items with
  | nil => rfl
  | cons x items ih =>
      obtain ⟨here, rest⟩ := List.forall_mem_cons.1 succeeds
      rw [List.findM?, here, List.find?_cons]
      cases found : result x with
      | true => rfl
      | false => exact ih rest

/-- A test that fails on an item of a list fails on the list if it passes on no earlier item
and does not fail there in another way. -/
theorem anyM_eq_error {before after : List α} {x : α} {e : ε}
    (earlier : ∀ y ∈ before, attempt y = .ok false ∨ attempt y = .error e)
    (failed : attempt x = .error e) : (before ++ x :: after).anyM attempt = .error e := by
  induction before with
  | nil =>
      rw [List.nil_append, List.anyM, failed]
      rfl
  | cons y before ih =>
      obtain ⟨here, rest⟩ := List.forall_mem_cons.1 earlier
      rw [List.cons_append, List.anyM]
      rcases here with here | here
      · rw [here]
        exact ih rest
      · rw [here]
        rfl

theorem anyM_map {β : Type} (f : β → α) (items : List β) :
    (items.map f).anyM attempt = items.anyM fun x => attempt (f x) := by
  induction items with
  | nil => rfl
  | cons x items ih => rw [List.map_cons, List.anyM, List.anyM, ih]

/-- The item that a search in a list finds is in the list, and the attempt on it
succeeds. -/
theorem mem_of_findM? {item : α} (found : items.findM? attempt = .ok (some item)) :
    item ∈ items ∧ attempt item = .ok true := by
  induction items with
  | nil => simp [pure, Except.pure] at found
  | cons first items ih =>
      rw [List.findM?, bind_eq_ok_iff] at found
      obtain ⟨passed, tried, rest⟩ := found
      cases passed with
      | true =>
          obtain rfl : first = item := by simpa [pure, Except.pure] using rest
          exact ⟨List.mem_cons_self, tried⟩
      | false => exact (ih rest).imp_left (List.mem_cons_of_mem first)

end Tests

/-! ### Success -/

/-- Whether an attempt succeeds, with any result. -/
def Succeeds {α ε : Type} (attempt : Except ε α) : Prop :=
  ∃ a, attempt = .ok a

section Success

variable {α β ε : Type}

theorem succeeds_pure (a : α) : Succeeds (pure a : Except ε α) :=
  ⟨a, rfl⟩

theorem succeeds_bind {first : Except ε α} {next : α → Except ε β}
    (now : Succeeds first) (later : ∀ a, first = .ok a → Succeeds (next a)) :
    Succeeds (first >>= next) := by
  obtain ⟨a, same⟩ := now
  obtain ⟨b, result⟩ := later a same
  exact ⟨b, bind_eq_ok_iff.2 ⟨a, same, result⟩⟩

theorem not_succeeds_throw (e : ε) : ¬ Succeeds (throw e : Except ε α) :=
  fun ⟨_, failed⟩ => throw_eq_ok_iff.1 failed

theorem succeeds_bind_pure_iff {first : Except ε α} {f : α → β} :
    Succeeds (first >>= fun a => pure (f a)) ↔ Succeeds first := by
  constructor
  · rintro ⟨b, same⟩
    obtain ⟨a, here, _⟩ := bind_eq_ok_iff.1 same
    exact ⟨a, here⟩
  · exact fun now => succeeds_bind now fun a _ => succeeds_pure _

variable {attempt : α → Except ε Bool} {items : List α}

theorem eq_ok_of_succeeds {first : Except ε Bool} (succeeds : Succeeds first) :
    first = .ok (first.toOption.getD false) := by
  obtain ⟨b, same⟩ := succeeds
  rw [same]
  rfl

theorem succeeds_anyM (each : ∀ x ∈ items, Succeeds (attempt x)) :
    Succeeds (items.anyM attempt) :=
  ⟨_, anyM_eq_ok fun x member => eq_ok_of_succeeds (each x member)⟩

theorem succeeds_allM (each : ∀ x ∈ items, Succeeds (attempt x)) :
    Succeeds (items.allM attempt) :=
  ⟨_, allM_eq_ok fun x member => eq_ok_of_succeeds (each x member)⟩

theorem succeeds_findM? (each : ∀ x ∈ items, Succeeds (attempt x)) :
    Succeeds (items.findM? attempt) :=
  ⟨_, findM?_eq_ok fun x member => eq_ok_of_succeeds (each x member)⟩

end Success

/-! ### Failure -/

/-- Whether an attempt does not fail in other ways than those of one kind. -/
def FailsOnly {α ε : Type} (kind : ε → Prop) (attempt : Except ε α) : Prop :=
  ∀ e, attempt = .error e → kind e

section Failure

variable {α β ε : Type} {kind : ε → Prop}

theorem failsOnly_pure (a : α) : FailsOnly kind (pure a : Except ε α) :=
  fun _ failed => nomatch failed

theorem failsOnly_throw {e : ε} (isKind : kind e) : FailsOnly kind (throw e : Except ε α) :=
  fun _ failed => Except.error.inj failed ▸ isKind

theorem FailsOnly.bind_of_ok {first : Except ε α} {next : α → Except ε β}
    (now : FailsOnly kind first) (later : ∀ a, first = .ok a → FailsOnly kind (next a)) :
    FailsOnly kind (first >>= next) := by
  cases first with
  | error e => exact fun e' failed => Except.error.inj failed ▸ now e rfl
  | ok a => exact later a rfl

theorem FailsOnly.bind {first : Except ε α} {next : α → Except ε β}
    (now : FailsOnly kind first) (later : ∀ a, FailsOnly kind (next a)) :
    FailsOnly kind (first >>= next) :=
  now.bind_of_ok fun a _ => later a

theorem FailsOnly.and {first second : Except ε Bool} (here : FailsOnly kind first)
    (rest : FailsOnly kind second) :
    FailsOnly kind (first >>= fun holds => if holds then second else pure false) := by
  refine here.bind fun holds => ?_
  cases holds with
  | true => exact rest
  | false => exact failsOnly_pure false

/-- An attempt that fails in no way succeeds. -/
theorem FailsOnly.succeeds {attempt : Except ε α} (fails : FailsOnly (fun _ => False) attempt) :
    Succeeds attempt := by
  cases attempt with
  | error e => exact (fails e rfl).elim
  | ok a => exact succeeds_pure a

theorem failsOnly_mapM {f : α → Except ε β} {items : List α}
    (each : ∀ x ∈ items, FailsOnly kind (f x)) : FailsOnly kind (items.mapM f) := by
  induction items with
  | nil => exact failsOnly_pure []
  | cons x items ih =>
      obtain ⟨here, rest⟩ := List.forall_mem_cons.1 each
      rw [List.mapM_cons]
      exact here.bind fun _ => (ih rest).bind fun _ => failsOnly_pure _

end Failure

/-! ### Refinement -/

/-- Whether an attempt, where it succeeds, has the result of another one. -/
def Refines {α ε : Type} (first second : Except ε α) : Prop :=
  ∀ a, first = .ok a → second = .ok a

section Refinement

variable {α β ε : Type}

theorem Refines.refl (attempt : Except ε α) : Refines attempt attempt :=
  fun _ => id

theorem Refines.bind {first second : Except ε α} {next next' : α → Except ε β}
    (now : Refines first second) (later : ∀ a, Refines (next a) (next' a)) :
    Refines (first >>= next) (second >>= next') := by
  intro b result
  obtain ⟨a, same, result⟩ := bind_eq_ok_iff.1 result
  exact bind_eq_ok_iff.2 ⟨a, now a same, later a b result⟩

variable {attempt attempt' : α → Except ε Bool}

theorem refines_anyM (each : ∀ x, Refines (attempt x) (attempt' x)) (items : List α) :
    Refines (items.anyM attempt) (items.anyM attempt') := by
  induction items with
  | nil => exact Refines.refl _
  | cons x items ih =>
      refine (each x).bind fun passed => ?_
      cases passed with
      | true => exact Refines.refl _
      | false => exact ih

theorem refines_allM (each : ∀ x, Refines (attempt x) (attempt' x)) (items : List α) :
    Refines (items.allM attempt) (items.allM attempt') := by
  induction items with
  | nil => exact Refines.refl _
  | cons x items ih =>
      refine (each x).bind fun passed => ?_
      cases passed with
      | true => exact ih
      | false => exact Refines.refl _

end Refinement

/-! ### Steps -/

section Steps

variable {α β ε : Type} {step : β → α → Except ε β} {items : List α}

theorem foldlM_eq_ok {result : β → α → β}
    (succeeds : ∀ x ∈ items, ∀ b, step b x = .ok (result b x)) (b : β) :
    items.foldlM step b = .ok (items.foldl result b) := by
  induction items generalizing b with
  | nil => rfl
  | cons x items ih =>
      obtain ⟨here, rest⟩ := List.forall_mem_cons.1 succeeds
      rw [List.foldlM_cons, here, List.foldl_cons, ← ih rest]
      rfl

/-- Steps that succeed on good items fail at the first other one. -/
theorem foldlM_eq_error {good : α → Prop} {kind : ε → Prop}
    (succeeds : ∀ x ∈ items, good x → ∀ b, Succeeds (step b x))
    (fails : ∀ x ∈ items, ¬ good x → ∀ b, ∃ e, step b x = .error e ∧ kind e)
    (other : ¬ ∀ x ∈ items, good x) (b : β) :
    ∃ e, items.foldlM step b = .error e ∧ kind e := by
  induction items generalizing b with
  | nil => exact absurd (fun _ member => absurd member List.not_mem_nil) other
  | cons x items ih =>
      obtain ⟨here, rest⟩ := List.forall_mem_cons.1 succeeds
      obtain ⟨here', rest'⟩ := List.forall_mem_cons.1 fails
      rw [List.foldlM_cons]
      by_cases isGood : good x
      · obtain ⟨c, same⟩ := here isGood b
        rw [same]
        exact ih rest rest' (fun all => other (List.forall_mem_cons.2 ⟨isGood, all⟩)) c
      · obtain ⟨e, failed, isKind⟩ := here' isGood b
        rw [failed]
        exact ⟨e, rfl, isKind⟩

end Steps

/-! ### Results item by item -/

section Results

variable {α β γ : Type}

theorem forall₂_of_mapM_eq_some {f : α → Option β} {xs : List α} {ys : List β}
    (all : xs.mapM f = some ys) : List.Forall₂ (fun x y => f x = some y) xs ys := by
  induction xs generalizing ys with
  | nil =>
      obtain rfl : ys = [] := by simpa using all.symm
      exact .nil
  | cons x xs ih =>
      simp only [List.mapM_cons, Option.bind_eq_bind, Option.pure_def,
        Option.bind_eq_some_iff, Option.some.injEq] at all
      obtain ⟨y, here, ys', rest, rfl⟩ := all
      exact .cons here (ih rest)

theorem forall₂_of_mapM_eq_ok {ε : Type} {f : α → Except ε β} {xs : List α} {ys : List β}
    (all : xs.mapM f = .ok ys) : List.Forall₂ (fun x y => f x = .ok y) xs ys := by
  induction xs generalizing ys with
  | nil =>
      obtain rfl : [] = ys := pure_eq_ok_iff.1 all
      exact .nil
  | cons x xs ih =>
      rw [List.mapM_cons] at all
      obtain ⟨y, here, all⟩ := bind_eq_ok_iff.1 all
      obtain ⟨ys', rest, all⟩ := bind_eq_ok_iff.1 all
      obtain rfl := pure_eq_ok_iff.1 all
      exact .cons here (ih rest)

theorem mapM_eq_ok_of_forall₂ {ε : Type} {f : α → Except ε β} {xs : List α} {ys : List β}
    (pairs : List.Forall₂ (fun x y => f x = .ok y) xs ys) : xs.mapM f = .ok ys := by
  induction pairs with
  | nil => rfl
  | cons here _ ih =>
      rw [List.mapM_cons, here, ih]
      rfl

/-- Attempts on the items of a list fail at the first item on which one does. -/
theorem mapM_eq_error_iff {ε : Type} {f : α → Except ε β} {xs : List α} {e : ε} :
    xs.mapM f = .error e ↔
      ∃ before x after, xs = before ++ x :: after ∧ Succeeds (before.mapM f) ∧
        f x = .error e := by
  constructor
  · intro failed
    induction xs with
    | nil => cases failed
    | cons x xs ih =>
        cases here : f x with
        | error e' =>
            rw [List.mapM_cons, here] at failed
            obtain rfl := Except.error.inj failed
            exact ⟨[], x, xs, rfl, succeeds_pure [], here⟩
        | ok y =>
            have later : xs.mapM f = .error e := by
              rw [List.mapM_cons, here] at failed
              cases rest : xs.mapM f with
              | error e' =>
                  rw [rest] at failed
                  exact failed
              | ok ys =>
                  rw [rest] at failed
                  cases failed
            obtain ⟨before, z, after, rfl, ⟨ys, read⟩, failed⟩ := ih later
            refine ⟨x :: before, z, after, rfl, ⟨y :: ys, ?_⟩, failed⟩
            rw [List.mapM_cons, here, read]
            rfl
  · rintro ⟨before, x, after, rfl, ⟨ys, read⟩, failed⟩
    rw [List.mapM_append, List.mapM_cons, read, failed]
    rfl

theorem exists_of_mapM_eq_none {f : α → Option β} {xs : List α} (failed : xs.mapM f = none) :
    ∃ x ∈ xs, f x = none := by
  induction xs with
  | nil => simp at failed
  | cons x xs ih =>
      cases here : f x with
      | none => exact ⟨x, List.mem_cons_self, here⟩
      | some y =>
          cases rest : xs.mapM f with
          | none =>
              obtain ⟨x', member, fails⟩ := ih rest
              exact ⟨x', List.mem_cons_of_mem x member, fails⟩
          | some ys => simp [List.mapM_cons, here, rest] at failed

/-- Every item on the right has one on the left that it is related to. -/
theorem exists_of_mem_right {related : α → β → Prop} {xs : List α} {ys : List β}
    (pairs : List.Forall₂ related xs ys) {y : β} (member : y ∈ ys) :
    ∃ x ∈ xs, related x y := by
  induction pairs with
  | nil => exact absurd member List.not_mem_nil
  | @cons x _ _ _ here _ ih =>
      rcases List.mem_cons.1 member with rfl | member
      · exact ⟨x, List.mem_cons_self, here⟩
      · obtain ⟨x', inside, related⟩ := ih member
        exact ⟨x', List.mem_cons_of_mem x inside, related⟩

/-- Items that are each related to something are related to a list. -/
theorem exists_forall₂ {related : α → β → Prop} {xs : List α}
    (each : ∀ x ∈ xs, ∃ y, related x y) : ∃ ys, List.Forall₂ related xs ys := by
  induction xs with
  | nil => exact ⟨[], .nil⟩
  | cons x xs ih =>
      obtain ⟨⟨y, here⟩, rest⟩ := List.forall_mem_cons.1 each
      obtain ⟨ys, pairs⟩ := ih rest
      exact ⟨y :: ys, .cons here pairs⟩

theorem succeeds_mapM_iff {ε : Type} {f : α → Except ε β} {items : List α} :
    Succeeds (items.mapM f) ↔ ∀ x ∈ items, Succeeds (f x) := by
  constructor
  · rintro ⟨results, read⟩ x member
    obtain ⟨y, _, here⟩ := exists_of_mem_right (forall₂_of_mapM_eq_ok read).flip member
    exact ⟨y, here⟩
  · intro each
    obtain ⟨results, pairs⟩ := exists_forall₂ each
    exact ⟨results, mapM_eq_ok_of_forall₂ pairs⟩

/-- Pairs that are related in two ways are related in both. -/
theorem forall₂_both {first second : α → β → Prop} {xs : List α} {ys : List β}
    (left : List.Forall₂ first xs ys) (right : List.Forall₂ second xs ys) :
    List.Forall₂ (fun x y => first x y ∧ second x y) xs ys := by
  induction left with
  | nil => exact .nil
  | cons here _ ih =>
      cases right with
      | cons here' right => exact .cons ⟨here, here'⟩ (ih right)

theorem forall₂_comp {first : α → β → Prop} {second : β → γ → Prop} {xs : List α} {ys : List β}
    {zs : List γ} (left : List.Forall₂ first xs ys) (right : List.Forall₂ second ys zs) :
    List.Forall₂ (fun x z => ∃ y ∈ ys, first x y ∧ second y z) xs zs := by
  induction left generalizing zs with
  | nil =>
      cases right
      exact .nil
  | @cons x y _ ys here _ ih =>
      cases right with
      | cons here' right =>
          refine .cons ⟨y, List.mem_cons_self, here, here'⟩ ((ih right).imp fun _ _ => ?_)
          exact fun ⟨y', member, both⟩ => ⟨y', List.mem_cons_of_mem y member, both⟩

/-- A relation of pairs that follows from another one for the items of two lists. -/
theorem forall₂_imp_of_mem {first second : α → β → Prop} {xs : List α} {ys : List β}
    (pairs : List.Forall₂ first xs ys)
    (implies : ∀ x ∈ xs, ∀ y ∈ ys, first x y → second x y) : List.Forall₂ second xs ys := by
  induction pairs with
  | nil => exact .nil
  | cons here _ ih =>
      refine .cons (implies _ List.mem_cons_self _ List.mem_cons_self here) (ih ?_)
      exact fun x left y right =>
        implies x (List.mem_cons_of_mem _ left) y (List.mem_cons_of_mem _ right)

/-- When there is something between the items of each pair, there is a list between the
lists. -/
theorem exists_forall₂_between {first : α → β → Prop} {second : β → γ → Prop} {xs : List α}
    {zs : List γ} (pairs : List.Forall₂ (fun x z => ∃ y, first x y ∧ second y z) xs zs) :
    ∃ ys, List.Forall₂ first xs ys ∧ List.Forall₂ second ys zs := by
  induction pairs with
  | nil => exact ⟨[], .nil, .nil⟩
  | cons here _ ih =>
      obtain ⟨y, left, right⟩ := here
      obtain ⟨ys, lefts, rights⟩ := ih
      exact ⟨y :: ys, .cons left lefts, .cons right rights⟩

/-- What two relations of the items of a list imply together, pair by pair. -/
theorem forall₂_of_common {first : α → β → Prop} {second : α → γ → Prop}
    {target : β → γ → Prop} {xs : List α} {ys : List β} {zs : List γ}
    (implies : ∀ x ∈ xs, ∀ y z, first x y → second x z → target y z)
    (left : List.Forall₂ first xs ys) (right : List.Forall₂ second xs zs) :
    List.Forall₂ target ys zs := by
  induction left generalizing zs with
  | nil =>
      cases right
      exact .nil
  | cons here _ ih =>
      cases right with
      | cons here' right =>
          obtain ⟨now, later⟩ := List.forall_mem_cons.1 implies
          exact .cons (now _ _ here here') (ih later right)

end Results

end FunctionSynthesis.Attempt
