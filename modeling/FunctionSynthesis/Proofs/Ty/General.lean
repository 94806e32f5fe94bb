import FunctionSynthesis.Proofs.Ty.Inference
import FunctionSynthesis.Proofs.Typing.Monotonicity

/-!
# Types inferred from values

In the types of values lists are the only containers, literals are scalars and unions are
canonical (`isInferred_ofValue`). Widening leaves no literals in them
(`IsInferred.isGeneral_promote`), and then nothing is below a class but the class itself
(`IsGeneral.eq_nominal_of_le`).
-/

namespace FunctionSynthesis.Ty

/-- Whether a node of a type can come from widening the type of a value. -/
def IsGeneralNode : Ty → Prop
  | .bottom => True
  | .nominal _ => True
  | .generic base _ => base = "list"
  | .union ts => IsCanonicalUnion (.union ts)
  | .record _ => True
  | _ => False

/-- Whether a node of a type can come from the type of a value. -/
def IsInferredNode : Ty → Prop
  | .literal v => v.isScalar = true
  | .text _ => True
  | t => IsGeneralNode t

/-- Whether a type has no literals, no containers but lists and only canonical unions. -/
def IsGeneral (t : Ty) : Prop :=
  t.Everywhere IsGeneralNode

/-- Whether a type has no literals but scalars and texts, no containers but lists and only
canonical unions. -/
def IsInferred (t : Ty) : Prop :=
  t.Everywhere IsInferredNode

theorem IsGeneral.isInferred {t : Ty} (general : t.IsGeneral) : t.IsInferred := by
  intro part inside
  have here := general part inside
  cases part <;> first | exact here | exact here.elim

theorem IsInferred.isOrdinary {t : Ty} (inferred : t.IsInferred) : t.isOrdinary = true := by
  induction t with
  | literal v => exact (isOrdinary_literal v).trans inferred.here
  | generic base param ih => exact ih ((everywhere_generic base param).1 inferred).2
  | union ts ih =>
      rw [IsInferred, everywhere_union] at inferred
      exact (isOrdinary_union ts).2 fun t member => ih t member (inferred.2 t member)
  | record fields ih =>
      rw [IsInferred, everywhere_record] at inferred
      exact (isOrdinary_record fields).2 fun field member =>
        ih field member (inferred.2 field member)
  | _ => rfl

theorem isGeneral_nominal (name : String) : (nominal name).IsGeneral :=
  (everywhere_of_leaf rfl).2 trivial

theorem isGeneral_unionOf {types : List Ty} (general : ∀ t ∈ types, t.IsGeneral) :
    (unionOf types).IsGeneral :=
  everywhere_unionOf general trivial fun _ => id

theorem isInferred_unionOf {types : List Ty} (inferred : ∀ t ∈ types, t.IsInferred) :
    (unionOf types).IsInferred :=
  everywhere_unionOf inferred trivial fun _ => id

/-- Widening a type that is inferred leaves no literals. -/
theorem IsInferred.isGeneral_promote {t : Ty} (inferred : t.IsInferred) :
    t.promote.IsGeneral := by
  induction t with
  | literal v =>
      rw [promote_literal inferred.here]
      exact isGeneral_nominal v.className
  | generic base param ih =>
      rw [IsInferred, everywhere_generic] at inferred
      rw [promote_generic]
      exact (everywhere_generic base _).2 ⟨inferred.1, ih inferred.2⟩
  | union ts ih =>
      rw [IsInferred, everywhere_union] at inferred
      rw [promote_union]
      exact isGeneral_unionOf (List.forall_mem_map.2 fun t member =>
        ih t member (inferred.2 t member))
  | record fields ih =>
      rw [IsInferred, everywhere_record] at inferred
      rw [promote_record]
      exact (everywhere_record _).2 ⟨trivial, List.forall_mem_map.2 fun field member =>
        ih field member (inferred.2 field member)⟩
  | text s => exact isGeneral_nominal "str"
  | bottom => exact (everywhere_of_leaf rfl).2 trivial
  | nominal name => exact isGeneral_nominal name
  | top => exact inferred.here.elim
  | var name => exact inferred.here.elim
  | foreign => exact inferred.here.elim

/-! ### Types of values -/

/-- A list has its items widened together. -/
theorem isInferred_list {items : List Value}
    (inferred : ∀ item ∈ items, (ofValue item).IsInferred) :
    (generic "list" (promoteWith classOf (unionOf (ofValues items)))).IsInferred := by
  have joined : (unionOf (ofValues items)).IsInferred := by
    rw [ofValues_eq_map]
    exact isInferred_unionOf (List.forall_mem_map.2 inferred)
  rw [promoteWith_classOf joined.isOrdinary]
  exact (everywhere_generic "list" _).2 ⟨rfl, joined.isGeneral_promote.isInferred⟩

theorem isInferred_ofValue (v : Value) : (ofValue v).IsInferred := by
  induction v using Value.inductionOn with
  | atom v isAtom =>
      have leaf : (ofValue v).parts = [ofValue v] := by
        cases v <;> first | rfl | exact absurd isAtom Bool.false_ne_true
      refine (everywhere_of_leaf leaf).2 ?_
      cases v <;> trivial
  | list items ih => exact isInferred_list ih
  | tuple items ih => exact isInferred_list ih
  | set items => exact (isGeneral_nominal "set").isInferred
  | dict entries ih =>
      rw [ofValue]
      cases known : ofEntries? entries with
      | none => exact (isGeneral_nominal "dict").isInferred
      | some fields =>
          refine (everywhere_record fields).2 ⟨trivial, fun field inside => ?_⟩
          obtain ⟨entry, here, _, type⟩ :=
            Attempt.exists_of_mem_right (forall₂_of_ofEntries? known) inside
          rw [type]
          exact ih entry here
  | special kind plain literal => exact (isGeneral_nominal kind).isInferred

/-- The type of any value can be compared. -/
theorem isHashable_ofValue (v : Value) : (ofValue v).isHashable = true :=
  isHashable_of_isOrdinary (isInferred_ofValue v).isOrdinary

/-! ### Below a class -/

section

variable {t : Ty} {name : String}

/-- A simple type without literals that is below a class is that class, unless the class is
that of all values, of lists or of dictionaries. -/
theorem IsGeneral.eq_nominal_of_isSimple (general : t.IsGeneral) (simple : t.IsSimple)
    (proper : name ∉ ["object", "list", "dict"]) (below : t.le (.nominal name) = true) :
    t = .nominal name := by
  simp only [List.mem_cons, List.not_mem_nil, or_false, not_or] at proper
  obtain ⟨notObject, notList, notDict⟩ := proper
  rw [le_iff_of_isSimple general.isInferred.isOrdinary (isWellFormed_nominal name).toIsRegular
    simple rfl] at below
  rcases below with impossible | object | reason
  · cases impossible
  · exact absurd (Ty.nominal.inj object) notObject
  · have here : IsGeneralNode t := general.here
    cases t with
    | nominal name' => exact congrArg Ty.nominal reason
    | generic base param => exact absurd (reason.symm.trans here) notList
    | record fields => exact absurd reason notDict
    | literal v => exact here.elim
    | text s => exact here.elim
    | _ => exact reason.elim

/-- No two members of a canonical union are one and the same class. -/
theorem IsCanonicalUnion.exists_ne_nominal {ts : List Ty}
    (canonical : IsCanonicalUnion (.union ts)) (name : String) :
    ∃ t ∈ ts, t ≠ .nominal name := by
  obtain ⟨several, distinct, _⟩ := canonical
  match ts, several with
  | first :: second :: rest, _ =>
      by_contra all
      have same : ∀ t ∈ first :: second :: rest, t = .nominal name := by simpa using all
      have apart := (List.pairwise_cons.1 distinct).1 second (by simp)
      rw [same first (by simp), same second (by simp), equal_refl (by rfl)] at apart
      cases apart

theorem IsGeneral.eq_nominal_of_le (general : t.IsGeneral) (inhabited : t ≠ .bottom)
    (proper : name ∉ ["object", "list", "dict"]) (below : t.le (.nominal name) = true) :
    t = .nominal name := by
  cases alone : t.isUnion with
  | false =>
      rcases extreme_or_isSimple alone with rfl | rfl | simple
      · exact general.here.elim
      · exact absurd rfl inhabited
      · exact general.eq_nominal_of_isSimple simple proper below
  | true =>
      cases t with
      | union ts =>
          have canonical : IsCanonicalUnion (.union ts) := general.here
          rw [IsGeneral, everywhere_union] at general
          obtain ⟨t, member, other⟩ := canonical.exists_ne_nominal name
          rcases (union_le_iff ts _).1 below with impossible | impossible | ⟨_, all⟩
          · cases impossible
          · cases impossible
          · have same := IsGeneral.eq_nominal_of_isSimple (general.2 t member)
              (canonical.2.2 t member) proper (all t member)
            exact absurd same other
      | _ => cases alone

end

end FunctionSynthesis.Ty
