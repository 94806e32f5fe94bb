import FunctionSynthesis.Proofs.Example.Inference
import FunctionSynthesis.Proofs.Value.Structure

/-!
# Queries that can be summed up

The text of a type has all of its literals in it (`Ty.isWritable_iff`). The type of a value only
has literals that are in the value (`Ty.isWritable_ofValue`), and a type that is widened has
none. So the query of examples can be summed up when the integers in their arguments can be
written (`Example.isWritable_argumentType`).
-/

namespace FunctionSynthesis

namespace Ty

/-- Whether a node of a type can be written. -/
def IsWritableNode : Ty → Prop
  | .literal v => v.isWritable = true
  | _ => True

/-- A type can be written when all of its literals can. -/
theorem isWritable_iff (t : Ty) : t.isWritable = true ↔ t.Everywhere IsWritableNode := by
  have members (ts : List Ty) : areWritable ts = ts.all isWritable := by
    induction ts with
    | nil => rfl
    | cons t ts ih => rw [areWritable, ih, List.all_cons]
  have fields (fs : List (String × Ty)) :
      areWritableFields fs = fs.all fun field => field.2.isWritable := by
    induction fs with
    | nil => rfl
    | cons f fs ih => rw [areWritableFields, ih, List.all_cons]
  induction t with
  | literal v =>
      have leaf : (literal v).Everywhere IsWritableNode ↔ IsWritableNode (.literal v) :=
        everywhere_of_leaf rfl
      exact leaf.symm
  | generic base param ih =>
      rw [everywhere_generic, isWritable]
      exact ih.trans (and_iff_right trivial).symm
  | union ts ih =>
      rw [everywhere_union, isWritable, members, List.all_eq_true]
      exact (forall₂_congr ih).trans (and_iff_right trivial).symm
  | record fs ih =>
      rw [everywhere_record, isWritable, fields, List.all_eq_true]
      exact (forall₂_congr ih).trans (and_iff_right trivial).symm
  | _ => exact iff_of_true rfl ((everywhere_of_leaf rfl).2 trivial)

theorem IsGeneral.isWritable {t : Ty} (general : t.IsGeneral) : t.isWritable = true := by
  refine (isWritable_iff t).2 fun part inside => ?_
  have here := general part inside
  cases part <;> trivial

theorem isWritable_unionOf {types : List Ty} (writable : ∀ t ∈ types, t.isWritable = true) :
    (unionOf types).isWritable = true :=
  (isWritable_iff _).2 <| everywhere_unionOf
    (fun t member => (isWritable_iff t).1 (writable t member)) trivial fun _ _ => trivial

/-- The literals of the type of a value are in the value. Lists have their items widened. -/
theorem isWritable_ofValue {v : Value} (writable : v.isWritable = true) :
    (ofValue v).isWritable = true := by
  have sequence (items : List Value) : (ofValue (.list items)).isWritable = true := by
    have inferred : (unionOf (items.map ofValue)).IsInferred :=
      isInferred_unionOf (List.forall_mem_map.2 fun item _ => isInferred_ofValue item)
    rw [ofValue, ofValues_eq_map, promoteWith_classOf inferred.isOrdinary]
    exact inferred.isGeneral_promote.isWritable
  induction v using Value.inductionOn with
  | atom v isAtom =>
      cases v with
      | int n => exact writable
      | _ => first | rfl | cases isAtom
  | list items => exact sequence items
  | tuple items => exact sequence items
  | dict entries ih =>
      rw [ofValue]
      cases known : ofEntries? entries with
      | none => rfl
      | some fields =>
          rw [isWritable_iff, everywhere_record]
          refine ⟨trivial, fun field inside => (isWritable_iff _).1 ?_⟩
          obtain ⟨entry, here, _, type⟩ :=
            Attempt.exists_of_mem_right (forall₂_of_ofEntries? known) inside
          rw [type]
          exact ih entry here ((Value.all_dict _ entries).1 writable entry here).2
  | set items => rfl
  | special kind plain literal => rfl

end Ty

namespace Example

theorem isWritable_argumentType {values : List Value}
    (writable : ∀ v ∈ values, v.isWritable = true) : (argumentType values).isWritable = true := by
  unfold argumentType
  dsimp only
  split
  · exact (isInferred_unionOf_ofValue values).isGeneral_promote.isWritable
  · exact Ty.isWritable_unionOf (List.forall_mem_map.2 fun v member =>
      Ty.isWritable_ofValue (writable v member))

end Example

end FunctionSynthesis
