import FunctionSynthesis.Proofs.Ty.Ordinary

/-!
# Parts of types

The nodes of a type, itself among them, and what holds of all of them, told node
by node.
-/

namespace FunctionSynthesis.Ty

mutual

/-- The nodes of a type, each before the ones below. -/
def parts : Ty → List Ty
  | .generic base param => .generic base param :: parts param
  | .union ts => .union ts :: partsOfAll ts
  | .record fs => .record fs :: partsOfFields fs
  | t => [t]
termination_by structural t => t

def partsOfAll : List Ty → List Ty
  | [] => []
  | t :: ts => parts t ++ partsOfAll ts
termination_by structural ts => ts

def partsOfFields : List (String × Ty) → List Ty
  | [] => []
  | (_, t) :: fs => parts t ++ partsOfFields fs
termination_by structural fs => fs

end

attribute [local simp] parts partsOfAll partsOfFields

theorem partsOfAll_eq_flatMap (ts : List Ty) : partsOfAll ts = ts.flatMap parts := by
  induction ts with
  | nil => rfl
  | cons t ts ih => simp [ih]

theorem partsOfFields_eq_flatMap (fields : List (String × Ty)) :
    partsOfFields fields = fields.flatMap fun field => field.2.parts := by
  induction fields with
  | nil => rfl
  | cons field fields ih => simp [ih]

theorem mem_parts_self (t : Ty) : t ∈ t.parts := by
  cases t <;> simp

theorem sublist_flatMap_of_mem {α β : Type} (f : α → List β) {xs : List α} {x : α}
    (member : x ∈ xs) : (f x).Sublist (xs.flatMap f) := by
  rw [List.flatMap_def]
  exact List.sublist_flatten_of_mem (List.mem_map_of_mem member)

/-- The parts of a part are parts. -/
theorem parts_sublist_of_mem {t u : Ty} (part : u ∈ t.parts) :
    u.parts.Sublist t.parts := by
  induction t with
  | generic base param ih =>
      rcases List.mem_cons.1 part with rfl | below
      · exact .refl _
      · exact (ih below).cons _
  | union ts ih =>
      rcases List.mem_cons.1 part with rfl | below
      · exact .refl _
      · rw [partsOfAll_eq_flatMap, List.mem_flatMap] at below
        obtain ⟨t, inside, below⟩ := below
        rw [parts, partsOfAll_eq_flatMap]
        exact ((ih t inside below).trans (sublist_flatMap_of_mem parts inside)).cons _
  | record fields ih =>
      rcases List.mem_cons.1 part with rfl | below
      · exact .refl _
      · rw [partsOfFields_eq_flatMap, List.mem_flatMap] at below
        obtain ⟨field, inside, below⟩ := below
        rw [parts, partsOfFields_eq_flatMap]
        exact ((ih field inside below).trans
          (sublist_flatMap_of_mem (fun field => field.2.parts) inside)).cons _
  | _ =>
      obtain rfl := List.mem_singleton.1 part
      exact .refl _

/-- A condition that what a type is directly made of inherits holds of all parts. -/
theorem holds_of_mem_parts (condition : Ty → Prop)
    (generic : ∀ base param, condition (.generic base param) → condition param)
    (union : ∀ ts, condition (.union ts) → ∀ t ∈ ts, condition t)
    (record : ∀ fields, condition (.record fields) → ∀ field ∈ fields, condition field.2)
    {t u : Ty} (whole : condition t) (part : u ∈ t.parts) : condition u := by
  induction t with
  | generic base param ih =>
      rcases List.mem_cons.1 part with rfl | below
      · exact whole
      · exact ih (generic base param whole) below
  | union ts ih =>
      rcases List.mem_cons.1 part with rfl | below
      · exact whole
      · rw [partsOfAll_eq_flatMap, List.mem_flatMap] at below
        obtain ⟨t, inside, below⟩ := below
        exact ih t inside (union ts whole t inside) below
  | record fields ih =>
      rcases List.mem_cons.1 part with rfl | below
      · exact whole
      · rw [partsOfFields_eq_flatMap, List.mem_flatMap] at below
        obtain ⟨field, inside, below⟩ := below
        exact ih field inside (record fields whole field inside) below
  | _ =>
      rw [List.mem_singleton.1 part]
      exact whole

theorem isOrdinary_of_mem_parts {t u : Ty} (ordinary : t.isOrdinary = true)
    (part : u ∈ t.parts) : u.isOrdinary = true :=
  holds_of_mem_parts (fun t => t.isOrdinary = true)
    (fun base param => (isOrdinary_generic base param).symm.trans)
    (fun ts => (isOrdinary_union ts).1) (fun fields => (isOrdinary_record fields).1)
    ordinary part

theorem isHashable_of_mem_parts {t u : Ty} (hashable : t.isHashable = true)
    (part : u ∈ t.parts) : u.isHashable = true :=
  holds_of_mem_parts (fun t => t.isHashable = true) (fun _ _ => id)
    (fun ts => (isHashable_union ts).1) (fun fields => (isHashable_record fields).1)
    hashable part

theorem mem_parts_of_member {ts : List Ty} {t : Ty} (member : t ∈ ts) :
    t ∈ (Ty.union ts).parts := by
  rw [parts, partsOfAll_eq_flatMap]
  exact List.mem_cons_of_mem _ (List.mem_flatMap_of_mem member t.mem_parts_self)

theorem mem_parts_of_field {fields : List (String × Ty)} {field : String × Ty}
    (member : field ∈ fields) : field.2 ∈ (Ty.record fields).parts := by
  rw [parts, partsOfFields_eq_flatMap]
  exact List.mem_cons_of_mem _ (List.mem_flatMap_of_mem member field.2.mem_parts_self)

theorem mem_parts_of_mem_alternatives {t u : Ty} (alternative : u ∈ t.alternatives) :
    u ∈ t.parts := by
  induction t with
  | union ts ih =>
      rw [alternatives_union, List.mem_flatMap] at alternative
      obtain ⟨t, inside, alternative⟩ := alternative
      rw [parts, partsOfAll_eq_flatMap]
      exact List.mem_cons_of_mem _
        (List.mem_flatMap.2 ⟨t, inside, ih t inside alternative⟩)
  | _ =>
      rw [List.eq_of_mem_singleton alternative]
      exact mem_parts_self _

/-! ### Conditions on all nodes -/

/-- Whether a condition holds of every node of a type. -/
def Everywhere (condition : Ty → Prop) (t : Ty) : Prop :=
  ∀ part ∈ t.parts, condition part

variable {condition : Ty → Prop}

theorem Everywhere.here {t : Ty} (everywhere : t.Everywhere condition) : condition t :=
  everywhere t t.mem_parts_self

theorem Everywhere.of_mem_parts {t u : Ty} (everywhere : t.Everywhere condition)
    (part : u ∈ t.parts) : u.Everywhere condition :=
  fun part' below => everywhere part' ((parts_sublist_of_mem part).mem below)

theorem everywhere_of_leaf {t : Ty} (leaf : t.parts = [t]) :
    t.Everywhere condition ↔ condition t := by
  rw [Everywhere, leaf, List.forall_mem_singleton]

theorem everywhere_generic (base : String) (param : Ty) :
    (Ty.generic base param).Everywhere condition ↔
      condition (.generic base param) ∧ param.Everywhere condition := by
  simp only [Everywhere, parts, List.forall_mem_cons]

theorem everywhere_union (ts : List Ty) :
    (Ty.union ts).Everywhere condition ↔
      condition (.union ts) ∧ ∀ t ∈ ts, t.Everywhere condition := by
  simp only [Everywhere, parts, partsOfAll_eq_flatMap, List.forall_mem_cons,
    List.forall_mem_flatMap]

theorem everywhere_record (fields : List (String × Ty)) :
    (Ty.record fields).Everywhere condition ↔
      condition (.record fields) ∧ ∀ field ∈ fields, field.2.Everywhere condition := by
  simp only [Everywhere, parts, partsOfFields_eq_flatMap, List.forall_mem_cons,
    List.forall_mem_flatMap]

end FunctionSynthesis.Ty
