import FunctionSynthesis.Term.Traversal

/-!
# The structure of terms

Induction on terms, in which arguments, items, entries and the step of a slice
are reached through membership, and what holds of all nodes of a term, told node
by node.
-/

namespace FunctionSynthesis.Term

/-- Induction on terms with membership for what is inside lists. -/
@[induction_eliminator]
theorem inductionOn {motive : Term → Prop}
    (literal : ∀ value, motive (.literal value))
    (var : ∀ name, motive (.var name))
    (call : ∀ receiver method args, motive receiver →
      (∀ t ∈ args, motive t) → motive (.call receiver method args))
    (field : ∀ receiver name args, motive receiver →
      (∀ t ∈ args, motive t) → motive (.field receiver name args))
    (array : ∀ items, (∀ t ∈ items, motive t) → motive (.array items))
    (record : ∀ entries, (∀ entry ∈ entries, motive entry.1 ∧ motive entry.2) →
      motive (.record entries))
    (slice : ∀ receiver start stop step, motive receiver → motive start →
      motive stop → (∀ t ∈ step, motive t) →
      motive (.slice receiver start stop step))
    (hole : ∀ goal dependent, motive (.hole goal dependent))
    (filled : ∀ goal candidates, (∀ t ∈ candidates, motive t) →
      motive (.filled goal candidates))
    (foreign : motive .foreign) (t : Term) : motive t :=
  @Term.rec motive (fun ts => ∀ t ∈ ts, motive t)
    (fun entries => ∀ entry ∈ entries, motive entry.1 ∧ motive entry.2)
    (fun step => ∀ t ∈ step, motive t)
    (fun entry => motive entry.1 ∧ motive entry.2)
    literal var call field array record slice hole filled foreign
    (fun _ member => absurd member List.not_mem_nil)
    (fun _ _ here rest => List.forall_mem_cons.2 ⟨here, rest⟩)
    (fun _ member => absurd member List.not_mem_nil)
    (fun _ _ here rest => List.forall_mem_cons.2 ⟨here, rest⟩)
    (fun _ member => nomatch member)
    (fun _ here _ member => Option.mem_some.1 member ▸ here)
    (fun _ _ key value => ⟨key, value⟩) t

/-! ### Nodes -/

attribute [local simp] walk walkAll walkEntries walkStep

theorem walkAll_eq_flatMap (ts : List Term) : walkAll ts = ts.flatMap walk := by
  induction ts with
  | nil => rfl
  | cons t ts ih => simp [ih]

theorem walkEntries_eq_flatMap (entries : List (Term × Term)) :
    walkEntries entries =
      entries.flatMap fun entry => walk entry.1 ++ walk entry.2 := by
  induction entries with
  | nil => rfl
  | cons entry entries ih => simp [ih]

/-- Whether a condition holds of every node of a term. -/
def Everywhere (condition : Term → Prop) (t : Term) : Prop :=
  ∀ node ∈ t.walk, condition node

variable {condition : Term → Prop}

@[simp]
theorem everywhere_call (r : Term) (m : String) (as : List Term) :
    Everywhere condition (.call r m as) ↔
      condition (.call r m as) ∧ Everywhere condition r ∧
        ∀ t ∈ as, Everywhere condition t := by
  simp only [Everywhere, walk, walkAll_eq_flatMap, List.forall_mem_cons,
    List.forall_mem_append, List.forall_mem_flatMap]

@[simp]
theorem everywhere_field (r : Term) (name : String) (as : List Term) :
    Everywhere condition (.field r name as) ↔
      condition (.field r name as) ∧ Everywhere condition r ∧
        ∀ t ∈ as, Everywhere condition t := by
  simp only [Everywhere, walk, walkAll_eq_flatMap, List.forall_mem_cons,
    List.forall_mem_append, List.forall_mem_flatMap]

@[simp]
theorem everywhere_array (ts : List Term) :
    Everywhere condition (.array ts) ↔
      condition (.array ts) ∧ ∀ t ∈ ts, Everywhere condition t := by
  simp only [Everywhere, walk, walkAll_eq_flatMap, List.forall_mem_cons,
    List.forall_mem_flatMap]

@[simp]
theorem everywhere_record (entries : List (Term × Term)) :
    Everywhere condition (.record entries) ↔
      condition (.record entries) ∧ ∀ entry ∈ entries,
        Everywhere condition entry.1 ∧ Everywhere condition entry.2 := by
  simp only [Everywhere, walk, walkEntries_eq_flatMap, List.forall_mem_cons,
    List.forall_mem_append, List.forall_mem_flatMap]

@[simp]
theorem everywhere_slice (r a b : Term) (s : Option Term) :
    Everywhere condition (.slice r a b s) ↔
      condition (.slice r a b s) ∧ Everywhere condition r ∧
        Everywhere condition a ∧ Everywhere condition b ∧
        ∀ t ∈ s, Everywhere condition t := by
  have step : (∀ node ∈ walkStep s, condition node) ↔
      ∀ t ∈ s, Everywhere condition t := by
    cases s <;> simp [Everywhere]
  simp only [Everywhere, walk, List.forall_mem_cons, List.forall_mem_append, step,
    and_assoc]

theorem Everywhere.here {t : Term} (everywhere : Everywhere condition t) : condition t := by
  refine everywhere t ?_
  cases t <;> simp

/-- A condition holds everywhere in a term without direct subterms when it holds
of the term. -/
theorem everywhere_of_leaf {t : Term} (leaf : t.walk = [t]) :
    Everywhere condition t ↔ condition t := by
  simp [Everywhere, leaf]

@[simp]
theorem everywhere_literal (v : Value) :
    Everywhere condition (.literal v) ↔ condition (.literal v) :=
  everywhere_of_leaf rfl

@[simp]
theorem everywhere_var (name : String) :
    Everywhere condition (.var name) ↔ condition (.var name) :=
  everywhere_of_leaf rfl

@[simp]
theorem everywhere_hole (goal : Ty) (dependent : Bool) :
    Everywhere condition (.hole goal dependent) ↔ condition (.hole goal dependent) :=
  everywhere_of_leaf rfl

end FunctionSynthesis.Term
