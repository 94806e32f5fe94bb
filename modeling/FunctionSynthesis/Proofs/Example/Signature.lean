import FunctionSynthesis.Proofs.Example.Admission
import FunctionSynthesis.Proofs.Ty.Widening

/-!
# The best general types

The goal that is inferred from examples is the least one that their outputs fit, among the
types that widening leaves as they are: the canonical union is the least upper bound of the
outputs, and widening is a closure operator. The type of an argument is above the types of all
its values, be it the precise one or the widened one (`isLeastGeneral_of_signature`).
-/

namespace FunctionSynthesis

namespace Ty

/-- Whether a type is a general one, that is, equal to what widening makes of it. -/
def IsWide (t : Ty) : Prop :=
  t.promote.checkedEqual t = .ok true

/-- Whether the types of some values can be compared with a type and are below it. -/
def IsAbove (t : Ty) (values : List Value) : Prop :=
  ∀ v ∈ values, (ofValue v).checkedLe t = .ok true

/-- Whether a type is the least one among the well-formed general types that the types of some
values are below. -/
structure IsLeastGeneral (t : Ty) (values : List Value) : Prop where
  above : t.IsAbove values
  wide : t.IsWide
  least : ∀ u : Ty, u.IsWellFormed → u.IsWide → u.IsAbove values → t.checkedLe u = .ok true

variable {t : Ty} {values : List Value}

theorem isWide_iff (wellFormed : t.IsWellFormed) :
    t.IsWide ↔ equal t.promote t = true := by
  rw [IsWide, checkedEqual_of_isOrdinary (isOrdinary_promote wellFormed.ordinary)
    wellFormed.ordinary, Except.ok.injEq]
  exact Iff.rfl

theorem isAbove_iff (keyed : ∀ v ∈ values, v.IsKeyed) (wellFormed : t.IsWellFormed) :
    t.IsAbove values ↔ ∀ v ∈ values, (ofValue v).le t = true := by
  refine forall₂_congr fun v member => ?_
  rw [checkedLe_of_isOrdinary (isWellFormed_ofValue_of_isKeyed (keyed v member)).ordinary
    wellFormed.ordinary, Except.ok.injEq]

section Joins

variable (keyed : ∀ v ∈ values, v.IsKeyed)

include keyed

theorem isWellFormed_of_mem_map_ofValue : ∀ t ∈ values.map ofValue, t.IsWellFormed :=
  List.forall_mem_map.2 fun v member => isWellFormed_ofValue_of_isKeyed (keyed v member)

theorem isWellFormed_unionOf_ofValue : (unionOf (values.map ofValue)).IsWellFormed :=
  isWellFormed_unionOf (isWellFormed_of_mem_map_ofValue keyed)

theorem isAbove_unionOf : (unionOf (values.map ofValue)).IsAbove values :=
  (isAbove_iff keyed (isWellFormed_unionOf_ofValue keyed)).2 fun _ member =>
    le_unionOf (isWellFormed_of_mem_map_ofValue keyed) _ (List.mem_map_of_mem member)

/-- What is above the types of values stays so when it is widened. -/
theorem IsAbove.promote (wellFormed : t.IsWellFormed) (above : t.IsAbove values) :
    t.promote.IsAbove values := by
  have wide := isWellFormed_promote wellFormed
  rw [isAbove_iff keyed wellFormed] at above
  refine (isAbove_iff keyed wide).2 fun v member => ?_
  exact le_trans (isWellFormed_ofValue_of_isKeyed (keyed v member)).toIsRegular
    wellFormed.toIsRegular wide.toIsRegular (above v member) (le_promote wellFormed)

/-- The widened join of the types of values is the least general type above them. -/
theorem isLeastGeneral_promote_unionOf :
    (unionOf (values.map ofValue)).promote.IsLeastGeneral values := by
  have joined := isWellFormed_unionOf_ofValue keyed
  have wide := isWellFormed_promote joined
  refine ⟨IsAbove.promote keyed joined (isAbove_unionOf keyed),
    (isWide_iff wide).2 (promote_promote joined), fun u wellFormed general above => ?_⟩
  rw [isWide_iff wellFormed] at general
  rw [isAbove_iff keyed wellFormed] at above
  -- the join is below `u`, and `u` is as general as what it is widened to
  have below : (unionOf (values.map ofValue)).le u = true :=
    (unionOf_le_iff (isWellFormed_of_mem_map_ofValue keyed) wellFormed.toIsRegular).2
      (List.forall_mem_map.2 above)
  have widened := promote_le_promote joined wellFormed below
  rw [checkedLe_of_isOrdinary wide.ordinary wellFormed.ordinary, Except.ok.injEq]
  exact le_trans wide.toIsRegular (isWellFormed_promote wellFormed).toIsRegular
    wellFormed.toIsRegular widened (le_of_equal general)

end Joins

end Ty

namespace Example

variable {examples : List Example}

/-- The type of an argument is above those of all its values. -/
theorem isAbove_argumentType {values : List Value} (keyed : ∀ v ∈ values, v.IsKeyed) :
    (argumentType values).IsAbove values := by
  have above := Ty.isAbove_unionOf keyed
  unfold argumentType
  dsimp only
  split
  · exact above.promote keyed (Ty.isWellFormed_unionOf_ofValue keyed)
  · exact above

/-- The types of the parameters have their names, each of them once. -/
theorem typeOf?_parameterName {type : Nat → Ty} {arity position : Nat}
    (inside : position < arity) :
    Environment.typeOf? ((List.range arity).map fun i => (Term.parameterName i, type i))
      (Term.parameterName position) = some (type position) := by
  have names : ((List.range arity).map fun i => (Term.parameterName i, type i)).map Prod.fst =
      Term.parameterNames arity := by
    rw [List.map_map]
    rfl
  have member : (Term.parameterName position, type position) ∈
      (List.range arity).map fun i => (Term.parameterName i, type i) :=
    List.mem_map.2 ⟨position, List.mem_range.2 inside, rfl⟩
  exact Environment.typeOf?_of_mem (names ▸ Term.nodup_parameterNames arity) member

/-- Examples that agree on the number of their arguments have a signature, in which every
argument has a type above its values and the goal is the least general type above the
outputs. Of the values it is supposed only that dictionaries give each key once. -/
theorem isLeastGeneral_of_signature (nonempty : examples ≠ [])
    (even : ∀ x ∈ examples, x.inputs.length = arityOf examples)
    (inputs : ∀ x ∈ examples, ∀ v ∈ x.inputs, v.IsKeyed)
    (outputs : ∀ x ∈ examples, x.output.IsKeyed) :
    ∃ env goal, signature examples = .ok (env, goal) ∧
      env.map Prod.fst = Term.parameterNames (arityOf examples) ∧
      (∀ position < arityOf examples, ∃ type,
        env.typeOf? (Term.parameterName position) = some type ∧
          ∀ x ∈ examples, ∃ v, x.inputs[position]? = some v ∧
            (Ty.ofValue v).checkedLe type = .ok true) ∧
      goal.IsLeastGeneral (examples.map output) := by
  refine ⟨_, _, signature_eq_ok nonempty fun x inside => (even x inside).ge, ?_, ?_, ?_⟩
  · rw [List.map_map]
    rfl
  · intro position small
    refine ⟨_, typeOf?_parameterName small, fun x inside => ?_⟩
    have long : position < x.inputs.length := (even x inside).symm ▸ small
    refine ⟨_, List.getElem?_eq_getElem long, ?_⟩
    refine isAbove_argumentType (fun v member => ?_) _
      (List.mem_filterMap.2 ⟨x, inside, List.getElem?_eq_getElem long⟩)
    obtain ⟨y, inside', found⟩ := List.mem_filterMap.1 member
    exact inputs y inside' v (List.mem_of_getElem? found)
  · have least := Ty.isLeastGeneral_promote_unionOf (List.forall_mem_map.2 outputs)
    rwa [List.map_map] at least

/-- A number, a text and nothing for one argument, and the same text for the other. The goal is
below a general type with wider lists and no empty one. -/
theorem isLeastGeneral_of_signature_mixed :
    let first : Example := ⟨[.int 1, .str "a"], .list [.int 1, .str "b"]⟩
    let second : Example := ⟨[.str "x", .str "a"], .list []⟩
    let third : Example := ⟨[.none, .str "a"], .dict [(.str "k", .list [.bool true])]⟩
    let wide : Ty := .union [.generic "list" (.union [.unit, .string, .integer]),
      .record [("k", .generic "list" .boolean)]]
    ∃ env goal type, signature [first, second, third] = .ok (env, goal) ∧
      env.typeOf? "arg0" = some type ∧ (Ty.text "x").checkedLe type = .ok true ∧
      goal.checkedLe wide = .ok true := by
  intro first second third wide
  have nonempty : [first, second, third] ≠ [] := by simp
  obtain ⟨env, goal, same, _, arguments, least⟩ :=
    isLeastGeneral_of_signature nonempty (by decide) (by decide) (by decide)
  obtain ⟨type, typed, above⟩ := arguments 0 (by decide)
  obtain ⟨v, found, below⟩ := above second (by simp)
  obtain rfl : Value.str "x" = v := Option.some.inj found
  have wellFormed : wide.IsWellFormed := by
    refine ⟨⟨rfl, ?_⟩, ?_⟩ <;>
      simp [Ty.Everywhere, Ty.parts, Ty.partsOfAll, Ty.partsOfFields, Ty.HasDistinctNames,
        Ty.IsCanonicalUnion, Ty.IsSimple, Ty.equal, Ty.isTop, Ty.isBottom, Ty.isUnion, wide,
        Ty.integer, Ty.string, Ty.unit, Ty.boolean]
  have fits : wide.IsAbove ([first, second, third].map output) := by
    simp only [Ty.IsAbove, List.map_cons, List.map_nil, List.forall_mem_cons]
    exact ⟨rfl, rfl, rfl, List.forall_mem_nil _⟩
  exact ⟨env, goal, type, same, typed, below, least.least wide wellFormed rfl fits⟩

end Example

end FunctionSynthesis
