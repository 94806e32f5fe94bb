import FunctionSynthesis.Proofs.Ty.Widening
import FunctionSynthesis.Proofs.Typing.Call

/-!
# Typing tidy terms

A term is tidy when its literals are scalars or texts, the goals of its holes are
well-formed and no record display has one static key twice. In an environment of
well-formed types the type of a tidy term, if it has one, is well-formed
(`isWellFormed_of_typeIn`).
-/

namespace FunctionSynthesis

def Environment.IsWellFormed (env : Environment) : Prop :=
  ∀ binding ∈ env, binding.2.IsWellFormed

namespace Ty

theorem isWellFormed_nominal (name : String) : (nominal name).IsWellFormed :=
  isWellFormed_of_leaf rfl rfl trivial trivial

theorem isWellFormed_top : top.IsWellFormed :=
  isWellFormed_of_leaf rfl rfl trivial trivial

theorem isWellFormed_ofValue {v : Value} (atom : v.isAtom = true) :
    (ofValue v).IsWellFormed := by
  have ordinary := isOrdinary_ofValue atom
  cases v <;> first
    | exact isWellFormed_of_leaf rfl ordinary trivial trivial
    | simp [Value.isAtom, Value.isScalar] at atom

end Ty

namespace Term

/-! ### Calls -/

theorem isWellFormed_resultFor {className method : String} {signature : Signature}
    {receiver : Ty} (listed : (className, method, signature) ∈ Catalog.standard.entries)
    (wellFormed : receiver.IsWellFormed) : (signature.resultFor receiver).IsWellFormed := by
  rcases className_of_listed listed with rfl | rfl
  · rw [resultFor_of_listed_str listed]
    rcases listed_str_cases listed with ⟨_, result⟩ | ⟨_, result⟩ | ⟨_, result⟩ <;> rw [result]
    · exact Ty.isWellFormed_generic.2 (Ty.isWellFormed_nominal "str")
    · exact Ty.isWellFormed_nominal "bool"
    · exact Ty.isWellFormed_nominal "str"
  · have result := (listed_list_cases listed).2
    cases receiver with
    | generic base param =>
        simpa [Signature.resultFor, result] using Ty.isWellFormed_generic.1 wellFormed
    | _ => simpa [Signature.resultFor, result] using Ty.isWellFormed_top

theorem isWellFormed_callType {receiver type : Ty} {method : String} {args : List Ty}
    (wellFormed : receiver.IsWellFormed) (ordinary : ∀ t ∈ args, t.isOrdinary = true)
    (typed : callType Catalog.standard receiver method args = .ok type) :
    type.IsWellFormed := by
  unfold callType at typed
  cases direct : directCallType? receiver method args with
  | some type' =>
      rw [direct] at typed
      obtain rfl := Attempt.pure_eq_ok_iff.1 typed
      rcases directCallType?_cases direct with ⟨rfl, _⟩ | ⟨rfl, _⟩ | ⟨rfl, _⟩ <;>
        exact Ty.isWellFormed_nominal _
  | none =>
      rw [direct] at typed
      rcases listedCallType_cases method Catalog.isOrdinary_standard ordinary with
        unknown | ⟨_, signature, _, listed, _, known⟩
      · obtain rfl : Ty.top = type := Except.ok.inj (unknown.symm.trans typed)
        exact Ty.isWellFormed_top
      · obtain rfl : signature.resultFor receiver = type :=
          Except.ok.inj (known.symm.trans typed)
        exact isWellFormed_resultFor listed wellFormed

theorem isWellFormed_sliceType {receiver : Ty} (wellFormed : receiver.IsWellFormed) :
    (sliceType receiver).IsWellFormed := by
  unfold sliceType
  split
  · exact Ty.isWellFormed_nominal "str"
  · split
    · exact Ty.isWellFormed_promote wellFormed
    · exact Ty.isWellFormed_top

/-! ### Displays -/

theorem isWellFormed_container (base : String) {types : List Ty}
    (wellFormed : ∀ t ∈ types, t.IsWellFormed) :
    (Ty.generic base (Ty.unionOf types).promote).IsWellFormed :=
  Ty.isWellFormed_generic.2 (Ty.isWellFormed_promote (Ty.isWellFormed_unionOf wellFormed))

theorem staticKey?_eq_some_iff {type : Ty} {name : String} :
    staticKey? type = some name ↔ type = .text name := by
  cases type <;> simp [staticKey?]

/-- A display with static keys only is a record, with one field for each entry; any other
one is a dictionary of what its values widen to. -/
theorem displayType_cases (entries : List (Term × Term)) {types : List (Ty × Ty)} {type : Ty}
    (ordinary : ∀ pair ∈ types, pair.2.isOrdinary = true)
    (displayed : displayType entries types = .ok type) :
    (∃ fields : List (String × Ty), types = (fields.map fun field => (.text field.1, field.2)) ∧
        type = .record fields) ∨
      (∃ pair ∈ types, staticKey? pair.1 = none) ∧
        type = .generic "dict" (Ty.unionOf (types.map (·.2))).promote := by
  simp only [displayType] at displayed
  split at displayed
  next fields known =>
    refine Or.inl ⟨fields, ?_, (Attempt.pure_eq_ok_iff.1 displayed).symm⟩
    rw [← List.forall₂_eq_eq_eq, List.forall₂_map_right_iff]
    refine (Attempt.forall₂_of_mapM_eq_some known).imp fun pair field made => ?_
    obtain ⟨name, static, rfl⟩ := Option.map_eq_some_iff.1 made
    rw [← staticKey?_eq_some_iff.1 static]
  next unknown =>
    obtain ⟨pair, member, fails⟩ := Attempt.exists_of_mapM_eq_none unknown
    refine Or.inr ⟨⟨pair, member, Option.map_eq_none_iff.1 fails⟩, ?_⟩
    have values : ∀ t ∈ types.map (·.2), t.isOrdinary = true := List.forall_mem_map.2 ordinary
    rw [containerType_of_isOrdinary "dict" _ values] at displayed
    exact (Except.ok.inj displayed).symm

/-- The names that the keys of a display are sure to denote. -/
def staticKeys (env : Environment) (entries : List (Term × Term)) : List String :=
  entries.filterMap fun entry =>
    match typeIn Catalog.standard env entry.1 with
    | .ok type => staticKey? type
    | .error _ => none

/-- Whether a node is a scalar or a text if it is a literal, has a well-formed goal if it
is a hole and has no static key twice if it displays a record. -/
def IsTidyNode (env : Environment) : Term → Prop
  | .literal v => v.isAtom = true
  | .hole goal _ => goal.IsWellFormed
  | .record entries => (staticKeys env entries).Nodup
  | _ => True

theorem staticKeys_eq_map {env : Environment} {entries : List (Term × Term)}
    {fields : List (String × Ty)}
    (static : List.Forall₂ (fun entry field =>
      typeIn Catalog.standard env entry.1 = .ok (.text field.1)) entries fields) :
    staticKeys env entries = fields.map Prod.fst := by
  induction static with
  | nil => rfl
  | cons here _ ih =>
      simp only [staticKeys, List.filterMap_cons, here, staticKey?, List.map_cons]
      exact congrArg _ ih

theorem isWellFormed_displayType {env : Environment} {entries : List (Term × Term)}
    {types : List (Ty × Ty)} {type : Ty} (distinct : (staticKeys env entries).Nodup)
    (typed : List.Forall₂ (fun entry pair =>
      typeIn Catalog.standard env entry.1 = .ok pair.1 ∧
      typeIn Catalog.standard env entry.2 = .ok pair.2) entries types)
    (wellFormed : ∀ pair ∈ types, pair.2.IsWellFormed)
    (displayed : displayType entries types = .ok type) : type.IsWellFormed := by
  have ordinary := fun pair member => (wellFormed pair member).ordinary
  rcases displayType_cases entries ordinary displayed with ⟨fields, rfl, rfl⟩ | ⟨_, rfl⟩
  · rw [List.forall₂_map_right_iff] at typed
    rw [staticKeys_eq_map (typed.imp fun _ _ => And.left)] at distinct
    exact Ty.isWellFormed_record.2 ⟨distinct, fun field member =>
      wellFormed _ (List.mem_map_of_mem member)⟩
  · exact isWellFormed_container "dict" (List.forall_mem_map.2 wellFormed)

/-! ### Terms -/

theorem isWellFormed_of_typeIn {env : Environment} (envWellFormed : env.IsWellFormed)
    {t : Term} {type : Ty} (tidy : Everywhere (IsTidyNode env) t)
    (typed : typeIn Catalog.standard env t = .ok type) : type.IsWellFormed := by
  induction t generalizing type with
  | literal v =>
      obtain rfl := Attempt.pure_eq_ok_iff.1 typed
      exact Ty.isWellFormed_ofValue ((everywhere_literal v).1 tidy)
  | var name =>
      exact envWellFormed _ (Ty.mem_of_firstField? (typeIn_var_eq_ok_iff.1 typed))
  | hole goal dependent =>
      obtain rfl := Attempt.pure_eq_ok_iff.1 typed
      exact (everywhere_hole _ dependent).1 tidy
  | filled goal candidates => cases typed
  | foreign => cases typed
  | call r m as ihReceiver ihArgs =>
      rw [everywhere_call] at tidy
      obtain ⟨receiver, args, ofReceiver, ofArgs, result⟩ := typeIn_call_eq_ok_iff.1 typed
      refine isWellFormed_callType (ihReceiver tidy.2.1 ofReceiver) (fun arg inside => ?_) result
      obtain ⟨t, member, ofArg⟩ := Attempt.exists_of_mem_right ofArgs inside
      exact (ihArgs t member (tidy.2.2 t member) ofArg).ordinary
  | field r name as ihReceiver ihArgs =>
      rw [everywhere_field] at tidy
      obtain ⟨receiver, args, ofReceiver, ofArgs, result⟩ := typeIn_field_eq_ok_iff.1 typed
      refine isWellFormed_callType (ihReceiver tidy.2.1 ofReceiver) (fun arg inside => ?_) result
      obtain ⟨t, member, ofArg⟩ := Attempt.exists_of_mem_right ofArgs inside
      exact (ihArgs t member (tidy.2.2 t member) ofArg).ordinary
  | array ts ih =>
      rw [everywhere_array] at tidy
      obtain ⟨types, ofItems, result⟩ := typeIn_array_eq_ok_iff.1 typed
      have wellFormed : ∀ type ∈ types, type.IsWellFormed := by
        intro type inside
        obtain ⟨t, member, ofItem⟩ := Attempt.exists_of_mem_right ofItems inside
        exact ih t member (tidy.2 t member) ofItem
      rw [containerType_of_isOrdinary "list" ts fun t member => (wellFormed t member).ordinary]
        at result
      obtain rfl := Except.ok.inj result
      exact isWellFormed_container "list" wellFormed
  | record entries ih =>
      rw [everywhere_record] at tidy
      obtain ⟨types, ofEntries, result⟩ := typeIn_record_eq_ok_iff.1 typed
      refine isWellFormed_displayType tidy.1 ofEntries (fun pair inside => ?_) result
      obtain ⟨entry, member, ofEntry⟩ := Attempt.exists_of_mem_right ofEntries inside
      exact (ih entry member).2 (tidy.2 entry member).2 ofEntry.2
  | slice r a b s ihReceiver =>
      rw [everywhere_slice] at tidy
      obtain ⟨receiver, ofReceiver, rfl⟩ := typeIn_slice_eq_ok_iff.1 typed
      exact isWellFormed_sliceType (ihReceiver tidy.2.1 ofReceiver)

end Term

end FunctionSynthesis
