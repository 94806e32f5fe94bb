import FunctionSynthesis.Proofs.Typing.Call
import FunctionSynthesis.Proofs.Value.Dictionary

/-!
# Types of terms and their values

When the variables have values of their types, the value of a term is a member of
the type of the term (`contains_of_evaluate`).
-/

namespace FunctionSynthesis

open Ty (ContainsBy)

/-! ### Containers -/

/-- Among the fields of a record the last one with a name counts, as among the
entries that a dictionary is made of. -/
theorem Entries.exists_valueOf?_merge {related : Ty → Value → Prop}
    {fields : List (String × Ty)} {pairs : Entries}
    (matched : List.Forall₂ (fun field pair => pair.1 = .str field.1 ∧
      related field.2 pair.2) fields pairs) (entries : Entries) (key : String) :
    (∀ t, Ty.lastField? fields key = some t →
      ∃ v, (entries.merge pairs).valueOf? (.str key) = some v ∧ related t v) ∧
    (Ty.lastField? fields key = none →
      (entries.merge pairs).valueOf? (.str key) = entries.valueOf? (.str key)) := by
  induction matched generalizing entries with
  | nil => simp [Ty.lastField?, Ty.firstField?, Entries.merge]
  | @cons field pair fields pairs here _ ih =>
      obtain ⟨name, type⟩ := field
      obtain ⟨k, v⟩ := pair
      obtain ⟨rfl, member⟩ := here
      obtain ⟨later, untouched⟩ := ih (entries.put (.str name) v)
      rw [Ty.lastField?_cons]
      by_cases known : Ty.hasField fields key = true
      · rw [if_pos known]
        refine ⟨later, fun absent => ?_⟩
        rw [← Ty.isSome_lastField?, absent] at known
        exact absurd known Bool.false_ne_true
      · rw [if_neg known]
        have absent : Ty.lastField? fields key = none := by
          rwa [← Ty.isSome_lastField?, Bool.not_eq_true, Option.isSome_eq_false_iff,
            Option.isNone_iff_eq_none] at known
        have kept := untouched absent
        rw [Entries.valueOf?_put] at kept
        by_cases same : name = key
        · rw [if_pos same] at kept
          rw [if_pos (beq_iff_eq.2 same)]
          refine ⟨fun t isType => ⟨v, kept, ?_⟩, fun absent => by simp at absent⟩
          obtain rfl := Option.some.inj isType
          exact member
        · rw [if_neg same] at kept
          rw [if_neg (by simpa using same)]
          exact ⟨fun t isType => by simp at isType, fun _ => kept⟩

namespace Term

variable {env : Environment} {values : List (String × Value)}

theorem containsBy_record_of_fields {classes : Classification}
    {fields : List (String × Ty)} {pairs : Entries}
    (matched : List.Forall₂ (fun field pair => pair.1 = .str field.1 ∧
      ContainsBy classes field.2 pair.2) fields pairs) :
    ContainsBy classes (.record fields) (.dict (Entries.ofList pairs)) := by
  rw [Ty.containsBy_record]
  exact ⟨_, rfl, fun key t last =>
    (Entries.exists_valueOf?_merge matched [] key).1 t last⟩

/-- What items widen to together has all of them. -/
theorem containsBy_promote_unionOf {classes : Classification} {types : List Ty}
    {t : Ty} {v : Value} (ordinary : ∀ t ∈ types, t.isOrdinary = true)
    (inside : t ∈ types) (member : ContainsBy classes t v) :
    ContainsBy classes (Ty.unionOf types).promote v :=
  Ty.containsBy_promote (Ty.isOrdinary_unionOf ordinary)
    (Ty.containsBy_unionOf ordinary inside member)

theorem containsBy_list_of_items {classes : Classification} {types : List Ty}
    {items : List Value} (ordinary : ∀ t ∈ types, t.isOrdinary = true)
    (members : List.Forall₂ (ContainsBy classes) types items) :
    ContainsBy classes (.generic "list" (Ty.unionOf types).promote) (.list items) := by
  rw [Ty.containsBy_list]
  refine ⟨items, rfl, fun item here => ?_⟩
  obtain ⟨t, inside, member⟩ := Attempt.exists_of_mem_right members here
  exact containsBy_promote_unionOf ordinary inside member

/-- The type of a dictionary display has the dictionaries of members of the types
of its keys and values. -/
theorem containsBy_of_displayType {entries : List (Term × Term)}
    {types : List (Ty × Ty)} {pairs : Entries} {type : Ty}
    (ordinary : ∀ pair ∈ types, pair.2.isOrdinary = true)
    (displayed : displayType entries types = .ok type)
    (members : List.Forall₂ (fun types pair => ContainsBy .known types.1 pair.1 ∧
      ContainsBy .known types.2 pair.2) types pairs) :
    ContainsBy .known type (.dict (Entries.ofList pairs)) := by
  simp only [displayType] at displayed
  split at displayed
  next fields known =>
    obtain rfl := Attempt.pure_eq_ok_iff.1 displayed
    refine containsBy_record_of_fields ?_
    refine Attempt.forall₂_of_common ?_ (Attempt.forall₂_of_mapM_eq_some known) members
    -- the type of a key that is known has one value only
    rintro ⟨keyType, valueType⟩ _ field ⟨key, value⟩ made ⟨ofKey, ofValue⟩
    obtain ⟨name, isKey, rfl⟩ := Option.map_eq_some_iff.1 made
    cases keyType with
    | text name' =>
        obtain rfl : name' = name := by simpa [staticKey?] using isKey
        exact ⟨ofKey, ofValue⟩
    | _ => simp [staticKey?] at isKey
  next =>
    have values : ∀ t ∈ types.map (·.2), t.isOrdinary = true := by
      intro t inside
      obtain ⟨pair, member, rfl⟩ := List.mem_map.1 inside
      exact ordinary pair member
    rw [containerType_of_isOrdinary "dict" _ values] at displayed
    obtain rfl := Except.ok.inj displayed
    rw [Ty.containsBy_dict]
    refine ⟨_, rfl, fun entry kept => ?_⟩
    obtain ⟨given, inside, same⟩ := Entries.exists_mem_of_mem_ofList kept
    obtain ⟨pair, member, _, ofValue⟩ := Attempt.exists_of_mem_right members inside
    rw [same]
    exact containsBy_promote_unionOf values (List.mem_map_of_mem member) ofValue

/-- A slice of a text is a text, and one of a list has no other items. -/
theorem containsBy_sliceType {type : Ty} {receiver start stop step result : Value}
    (ordinary : type.isOrdinary = true) (member : ContainsBy .known type receiver)
    (cut : receiver.sliceAt start stop step = .ok result) :
    ContainsBy .known (sliceType type) result := by
  unfold sliceType
  split
  next textual =>
    rw [Ty.isStringLike, Bool.and_eq_true] at textual
    obtain ⟨s, rfl⟩ := Ty.eq_str_of_containsBy_string
      (Ty.containsBy_of_le ordinary rfl textual.2 member)
    obtain ⟨t, rfl⟩ := Value.sliceAt_str cut
    exact Ty.containsBy_string t
  next =>
    split
    next param _ =>
      obtain ⟨items, rfl, all⟩ := (Ty.containsBy_list param receiver).1 member
      obtain ⟨part, rfl, inside⟩ := Value.sliceAt_list cut
      refine Ty.containsBy_promote ordinary ((Ty.containsBy_list param _).2 ?_)
      exact ⟨part, rfl, fun item here => all item (inside item here)⟩
    next => exact Ty.containsBy_top result

/-! ### Terms -/

/-- Whether a node is one of those that programs are written with: a literal that
is no container, a variable, a call, a subscript, a slice or a display. -/
def isPlainNode : Term → Bool
  | .literal v => v.isAtom
  | .field _ name _ => name == "__getitem__"
  | .hole _ _ => false
  | .filled _ _ => false
  | .foreign => false
  | _ => true

end Term

/-- Whether every variable in scope has a value of its type, one that can be
written as JSON. -/
def Environment.IsAssigned (env : Environment) (values : List (String × Value)) : Prop :=
  ∀ name type, env.typeOf? name = some type →
    ∃ v, values.lookup name = some v ∧ v.isJson = true ∧ type.Contains v

namespace Term

theorem containsBy_ofValue {classes : Classification} {v : Value}
    (atom : v.isAtom = true) : ContainsBy classes (.ofValue v) v := by
  cases v with
  | str s => exact rfl
  | none => exact Value.sameLiteral_refl rfl
  | bool b => exact Value.sameLiteral_refl (v := .bool b) rfl
  | int n => exact Value.sameLiteral_refl (v := .int n) rfl
  | float x => exact Value.sameLiteral_refl (v := .float x) rfl
  | _ => simp [Value.isAtom, Value.isScalar] at atom

/-- Whether the type of a term, if it has one, is ordinary and has the value of
the term, if it has one. -/
def IsSound (env : Environment) (values : List (String × Value)) (t : Term) : Prop :=
  ∀ type, t.typeIn Catalog.standard env = .ok type →
    type.isOrdinary = true ∧
      ∀ v, t.evaluate values = .ok v → ContainsBy .known type v

theorem isOrdinary_of_isSound {ts : List Term} {types : List Ty}
    (sound : ∀ t ∈ ts, t.IsSound env values)
    (typed : List.Forall₂
      (fun t type => t.typeIn Catalog.standard env = .ok type) ts types) :
    ∀ type ∈ types, type.isOrdinary = true := by
  intro type member
  obtain ⟨t, inside, typed⟩ := Attempt.exists_of_mem_right typed member
  exact (sound t inside type typed).1

theorem forall₂_containsBy_of_isSound {ts : List Term} {types : List Ty}
    {vs : List Value} (sound : ∀ t ∈ ts, t.IsSound env values)
    (typed : List.Forall₂
      (fun t type => t.typeIn Catalog.standard env = .ok type) ts types)
    (evaluated : List.Forall₂ (fun t v => t.evaluate values = .ok v) ts vs) :
    List.Forall₂ (ContainsBy .known) types vs :=
  Attempt.forall₂_of_common
    (fun t inside type v typed evaluated => (sound t inside type typed).2 v evaluated)
    typed evaluated

/-- Calls and subscripts of sound terms are sound. -/
theorem isSound_of_callGives {node r : Term} {method : String} {as : List Term}
    (receiverSound : r.IsSound env values) (argsSound : ∀ t ∈ as, t.IsSound env values)
    (typed : ∀ type, node.typeIn Catalog.standard env = .ok type →
      ∃ receiver args, r.typeIn Catalog.standard env = .ok receiver ∧
        List.Forall₂ (fun t arg => t.typeIn Catalog.standard env = .ok arg) as args ∧
        callType Catalog.standard receiver method args = .ok type)
    (evaluated : ∀ v, node.evaluate values = .ok v →
      ∃ receiver args, r.evaluate values = .ok receiver ∧
        List.Forall₂ (fun t arg => t.evaluate values = .ok arg) as args ∧
        CallGives receiver method args v) :
    node.IsSound env values := by
  intro type isType
  obtain ⟨receiverType, argTypes, receiverTyped, argsTyped, called⟩ := typed type isType
  obtain ⟨receiverOrdinary, receiverMembers⟩ := receiverSound _ receiverTyped
  have argsOrdinary := isOrdinary_of_isSound argsSound argsTyped
  constructor
  · obtain ⟨type', called', ordinary⟩ :
        ∃ type', callType Catalog.standard receiverType method argTypes = .ok type' ∧
          type'.isOrdinary = true :=
      callType_of_isOrdinary Catalog.isOrdinary_standard receiverOrdinary argsOrdinary
    obtain rfl : type' = type := Except.ok.inj (called'.symm.trans called)
    exact ordinary
  · intro v isValue
    obtain ⟨receiver, args, ofReceiver, ofArgs, gives⟩ := evaluated v isValue
    exact containsBy_of_callGives receiverOrdinary argsOrdinary called
      (receiverMembers receiver ofReceiver)
      (forall₂_containsBy_of_isSound argsSound argsTyped ofArgs) gives

theorem isSound_array {ts : List Term} (sound : ∀ t ∈ ts, t.IsSound env values) :
    (Term.array ts).IsSound env values := by
  intro type typed
  obtain ⟨types, itemsTyped, made⟩ := typeIn_array_eq_ok_iff.1 typed
  have ordinary := isOrdinary_of_isSound sound itemsTyped
  rw [containerType_of_isOrdinary "list" ts ordinary] at made
  obtain rfl := Except.ok.inj made
  refine ⟨isOrdinary_containerType "list" ordinary, fun v evaluated => ?_⟩
  obtain ⟨items, rfl, ofItems⟩ := exists_of_evaluate_array evaluated
  exact containsBy_list_of_items ordinary
    (forall₂_containsBy_of_isSound sound itemsTyped ofItems)

theorem isSound_record {entries : List (Term × Term)}
    (sound : ∀ entry ∈ entries, entry.1.IsSound env values ∧ entry.2.IsSound env values) :
    (Term.record entries).IsSound env values := by
  intro type typed
  obtain ⟨types, entriesTyped, displayed⟩ := typeIn_record_eq_ok_iff.1 typed
  have ordinary : ∀ pair ∈ types, pair.2.isOrdinary = true := by
    intro pair member
    obtain ⟨entry, inside, _, typed⟩ := Attempt.exists_of_mem_right entriesTyped member
    exact ((sound entry inside).2 _ typed).1
  constructor
  · obtain ⟨type', displayed', result⟩ := displayType_of_isOrdinary entries ordinary
    obtain rfl : type' = type := Except.ok.inj (displayed'.symm.trans displayed)
    exact result
  · intro v evaluated
    obtain ⟨pairs, rfl, ofEntries⟩ := exists_of_evaluate_record evaluated
    refine containsBy_of_displayType ordinary displayed ?_
    refine Attempt.forall₂_of_common ?_ entriesTyped ofEntries
    intro entry inside types pair typed evaluated
    exact ⟨((sound entry inside).1 _ typed.1).2 _ evaluated.1,
      ((sound entry inside).2 _ typed.2).2 _ evaluated.2⟩

theorem isSound_slice {r : Term} (a b : Term) (s : Option Term)
    (sound : r.IsSound env values) : (Term.slice r a b s).IsSound env values := by
  intro type typed
  obtain ⟨receiverType, receiverTyped, rfl⟩ := typeIn_slice_eq_ok_iff.1 typed
  obtain ⟨ordinary, members⟩ := sound receiverType receiverTyped
  refine ⟨isOrdinary_sliceType ordinary, fun v evaluated => ?_⟩
  obtain ⟨receiver, start, stop, step, ofReceiver, cut⟩ :=
    sliceAt_of_evaluate_slice evaluated
  exact containsBy_sliceType ordinary (members receiver ofReceiver) cut

/-- A term without holes is sound when the variables have values of their types. -/
theorem isSound_of_everywhere (envOrdinary : env.IsOrdinary)
    (assigned : env.IsAssigned values) {t : Term}
    (plain : t.Everywhere fun node => node.isPlainNode = true) :
    t.IsSound env values := by
  induction t with
  | literal w =>
      have atom : w.isAtom = true := (everywhere_of_leaf rfl).1 plain
      intro type typed
      obtain rfl : Ty.ofValue w = type := Attempt.pure_eq_ok_iff.1 typed
      refine ⟨Ty.isOrdinary_ofValue atom, fun v evaluated => ?_⟩
      obtain rfl := eq_of_evaluate_literal evaluated
      exact containsBy_ofValue atom
  | var name =>
      intro type typed
      have known := typeIn_var_eq_ok_iff.1 typed
      refine ⟨Environment.isOrdinary_of_typeOf? envOrdinary known, fun v evaluated => ?_⟩
      obtain ⟨w, bound, json, member⟩ := assigned name type known
      obtain rfl := eq_of_evaluate_var bound evaluated
      exact Ty.containsBy_known_of_isJson json member
  | call r m as ihReceiver ihArgs =>
      rw [everywhere_call] at plain
      exact isSound_of_callGives (ihReceiver plain.2.1)
        (fun t inside => ihArgs t inside (plain.2.2 t inside))
        (fun type => typeIn_call_eq_ok_iff.1) (fun v => callGives_of_evaluate_call)
  | field r name as ihReceiver ihArgs =>
      rw [everywhere_field] at plain
      obtain rfl : name = "__getitem__" := beq_iff_eq.1 plain.1
      exact isSound_of_callGives (ihReceiver plain.2.1)
        (fun t inside => ihArgs t inside (plain.2.2 t inside))
        (fun type => typeIn_field_eq_ok_iff.1)
        (fun v => callGives_of_evaluate_subscript)
  | array ts ih =>
      rw [everywhere_array] at plain
      exact isSound_array fun t inside => ih t inside (plain.2 t inside)
  | record entries ih =>
      rw [everywhere_record] at plain
      exact isSound_record fun entry inside =>
        ⟨(ih entry inside).1 (plain.2 entry inside).1,
          (ih entry inside).2 (plain.2 entry inside).2⟩
  | slice r a b s ihReceiver =>
      rw [everywhere_slice] at plain
      exact isSound_slice a b s (ihReceiver plain.2.1)
  | hole goal dependent =>
      exact absurd ((everywhere_of_leaf rfl).1 plain) Bool.false_ne_true
  | filled goal candidates =>
      exact absurd ((everywhere_of_leaf rfl).1 plain) Bool.false_ne_true
  | foreign =>
      exact absurd ((everywhere_of_leaf rfl).1 plain) Bool.false_ne_true

/-- The types of terms are sound for their values. A term without holes whose
variables are in scope has a type, and the value of a term without holes is a
member of its type. -/
theorem contains_of_evaluate (envOrdinary : env.IsOrdinary)
    (assigned : env.IsAssigned values) {t : Term}
    (plain : t.Everywhere fun node => node.isPlainNode = true) :
    ((∀ name, Term.var name ∈ t.walk → (env.typeOf? name).isSome = true) →
      ∃ type, t.typeIn Catalog.standard env = .ok type) ∧
    ∀ type v, t.typeIn Catalog.standard env = .ok type →
      t.evaluate values = .ok v → type.Contains v := by
  constructor
  · intro inScope
    have ordinary : t.Everywhere (IsOrdinaryNode env) := by
      intro node inside
      have plainNode := plain node inside
      cases node with
      | literal v => exact plainNode
      | var name => exact inScope name inside
      | hole goal dependent => exact absurd plainNode Bool.false_ne_true
      | filled goal candidates => exact absurd plainNode Bool.false_ne_true
      | foreign => exact absurd plainNode Bool.false_ne_true
      | _ => trivial
    obtain ⟨type, typed, _⟩ :=
      typeIn_of_everywhere Catalog.isOrdinary_standard envOrdinary ordinary
    exact ⟨type, typed⟩
  · intro type v typed evaluated
    exact Ty.contains_of_containsBy_known
      ((isSound_of_everywhere envOrdinary assigned plain type typed).2 v evaluated)

/-- A display that gives a key twice, with an item of a list of records and a text
that is joined. -/
theorem contains_of_evaluate_display :
    let env : Environment :=
      [("rows", .generic "list"
        (.record [("n", .integer), ("t", .union [.text "a", .literal .none])]))]
    let values : List (String × Value) :=
      [("rows", .list [.dict [(.str "t", .none), (.str "n", .int 7)]])]
    let t : Term := .record
      [(.literal (.str "k"), .var "rows"),
        (.literal (.str "k"), .array
          [.call (.literal (.str ",")) "join" [.array [.literal (.str "a")]],
            .item (.var "rows") (.int (-1)), .slice (.var "rows") (int 0) nothing none])]
    env.IsOrdinary ∧ env.IsAssigned values ∧
      (t.Everywhere fun node => node.isPlainNode = true) ∧
      ∃ type v, t.typeIn Catalog.standard env = .ok type ∧
        t.evaluate values = .ok v ∧ type.Contains v := by
  intro env values t
  have envOrdinary : env.IsOrdinary := by
    intro binding member
    obtain rfl := List.mem_singleton.1 member
    rfl
  have assigned : env.IsAssigned values := by
    intro name type found
    obtain ⟨rfl, rfl⟩ : name = "rows" ∧ type = _ := by
      simpa [env, Prod.ext_iff] using Ty.mem_of_firstField? found
    refine ⟨_, rfl, by decide, ?_⟩
    refine (Ty.containsBy_list _ _).2 ⟨_, rfl, fun item inside => ?_⟩
    obtain rfl := List.mem_singleton.1 inside
    refine (Ty.containsBy_record _ _).2 ⟨_, rfl, fun key t last => ?_⟩
    have field := Ty.mem_of_lastField? last
    simp only [List.mem_cons, Prod.mk.injEq, List.not_mem_nil, or_false] at field
    rcases field with ⟨rfl, rfl⟩ | ⟨rfl, rfl⟩
    · exact ⟨.int 7, rfl, Or.inr rfl⟩
    · exact ⟨.none, rfl, (Ty.containsBy_union _ _).2 ⟨.literal .none, by simp, rfl⟩⟩
  have plain : t.Everywhere fun node => node.isPlainNode = true := by
    unfold Everywhere
    decide
  exact ⟨envOrdinary, assigned, plain, _, _, rfl, rfl,
    (contains_of_evaluate envOrdinary assigned plain).2 _ _ rfl rfl⟩

end Term

end FunctionSynthesis
