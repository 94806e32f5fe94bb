import FunctionSynthesis.Proofs.Example.Inference
import FunctionSynthesis.Proofs.Trial.Comparison
import FunctionSynthesis.Proofs.Ty.Join
import FunctionSynthesis.Proofs.Value.Structure

/-!
# Results that a goal admits

The type of a value that reproduces a wanted output is below the widened type of that
output (`ofValue_le_promote_of_reproduces`): what a dictionary has beyond the wanted keys
only narrows its record, and items of lists are widened on both sides. So the goal that is
inferred from examples admits every result that one of them accepts
(`admits_of_reproduces`).
-/

namespace FunctionSynthesis

/-! ### Types of keyed values -/

namespace Ty

theorem ofValue_list (items : List Value) :
    ofValue (.list items) = .generic "list" (unionOf (items.map ofValue)).promote := by
  have inferred : (unionOf (items.map ofValue)).IsInferred :=
    isInferred_unionOf (List.forall_mem_map.2 fun item _ => isInferred_ofValue item)
  rw [ofValue, ofValues_eq_map, promoteWith_classOf inferred.isOrdinary]

theorem ofValue_tuple (items : List Value) :
    ofValue (.tuple items) = ofValue (.list items) := by
  rw [ofValue, ofValue]

/-- The fields of a dictionary that gives each key once have different names. -/
theorem nodup_names_of_forall₂ {entries : Entries} {fields : List (String × Ty)}
    (distinct : entries.HasDistinctKeys)
    (matched : List.Forall₂ (fun (entry : Value × Value) (field : String × Ty) =>
      entry.1 = .str field.1 ∧ field.2 = ofValue entry.2) entries fields) :
    (fields.map Prod.fst).Nodup := by
  induction matched with
  | nil => exact List.nodup_nil
  | @cons entry field entries fields here rest ih =>
      obtain ⟨fresh, distinct⟩ := List.pairwise_cons.1 distinct
      refine List.nodup_cons.2 ⟨fun again => ?_, ih distinct⟩
      obtain ⟨other, inside, same⟩ := List.mem_map.1 again
      obtain ⟨entry', member, isKey, _⟩ := Attempt.exists_of_mem_right rest inside
      have different := fresh entry' member
      rw [here.1, isKey, same, (Value.beq_str_iff _ _).2 rfl] at different
      cases different

theorem isWellFormed_ofValue_of_isKeyed {v : Value} (keyed : v.IsKeyed) :
    (ofValue v).IsWellFormed := by
  induction v using Value.inductionOn with
  | atom v isAtom => exact isWellFormed_ofValue isAtom
  | list items ih =>
      have keyed := (Value.everyDictionary_list items).1 keyed
      rw [ofValue_list, isWellFormed_generic]
      exact isWellFormed_promote (isWellFormed_unionOf
        (List.forall_mem_map.2 fun item inside => ih item inside (keyed item inside)))
  | tuple items ih =>
      have keyed := (Value.everyDictionary_tuple items).1 keyed
      rw [ofValue_tuple, ofValue_list, isWellFormed_generic]
      exact isWellFormed_promote (isWellFormed_unionOf
        (List.forall_mem_map.2 fun item inside => ih item inside (keyed item inside)))
  | set items => exact isWellFormed_nominal "set"
  | dict entries ih =>
      obtain ⟨distinct, keyed⟩ := (Value.everyDictionary_dict entries).1 keyed
      rw [ofValue]
      cases known : ofEntries? entries with
      | none => exact isWellFormed_nominal "dict"
      | some fields =>
          have matched := forall₂_of_ofEntries? known
          refine isWellFormed_record.2
            ⟨nodup_names_of_forall₂ distinct matched, fun field inside => ?_⟩
          obtain ⟨entry, member, _, type⟩ := Attempt.exists_of_mem_right matched inside
          exact type ▸ ih entry member (keyed entry member)
  | special kind plain literal => exact isWellFormed_nominal kind

end Ty

/-! ### Values that reproduce others -/

namespace Value

/-- Whether a value is a floating number. -/
def isFloat : Value → Bool
  | .float _ => true
  | _ => false

/-- Whether no floating number occurs in a value. -/
def isFloatless (v : Value) : Bool :=
  v.all fun leaf => !leaf.isFloat

theorem isFloat_of_isFloatless {v : Value} (floatless : v.isFloatless = true) :
    v.isFloat = false := by
  cases v <;> first | rfl | cases floatless

/-- Whether a value can be read from JSON and has no floating numbers in it. -/
structure IsExactJson (v : Value) : Prop where
  json : v.isJson = true
  keyed : v.IsKeyed
  floatless : v.isFloatless = true

theorem IsExactJson.of_mem_list {items : List Value} {item : Value}
    (exact : (Value.list items).IsExactJson) (member : item ∈ items) : item.IsExactJson :=
  ⟨(isJson_list items).1 exact.json item member,
    (everyDictionary_list items).1 exact.keyed item member,
    (all_list _ items).1 exact.floatless item member⟩

theorem IsExactJson.of_valueOf? {entries : Entries} {key : String} {v : Value}
    (exact : (Value.dict entries).IsExactJson) (found : entries.valueOf? (.str key) = some v) :
    v.IsExactJson := by
  have member := Entries.mem_of_valueOf? found
  exact ⟨((isJson_dict entries).1 exact.json _ member).2,
    ((everyDictionary_dict entries).1 exact.keyed).2 _ member,
    ((all_dict _ entries).1 exact.floatless _ member).2⟩

/-- Floating numbers apart, only an atom itself agrees with it. -/
theorem eq_of_agrees {a w : Value} (atom : w.isAtom = true) (floatless : a.isFloat = false)
    (floatless' : w.isFloat = false) (agrees : a.agrees w = true) : a = w := by
  obtain ⟨truths, _, same⟩ := (agrees_iff a w).1 agrees
  cases w with
  | none => cases a <;> first | rfl | cases same
  | bool b =>
      cases a with
      | bool b' => exact congrArg Value.bool (beq_iff_eq.1 agrees)
      | _ => cases truths
  | int n =>
      cases a with
      | int m => simpa [equal, number?, Number.equal, Number.compare?] using same
      | float x => cases floatless
      | bool b => cases truths
      | _ => cases same
  | str s =>
      cases a with
      | str s' => exact (beq_str_iff (.str s') s).1 same
      | _ => cases same
  | float y => cases floatless'
  | _ => cases atom

/-- What is written as JSON agrees with no set and with no value of another kind. -/
theorem not_agrees_of_isJson {a w : Value} (json : a.isJson = true)
    (other : w.isSpecial = true ∨ ∃ items, w = .set items) : a.agrees w = false := by
  rw [Bool.eq_false_iff]
  intro agrees
  obtain ⟨_, _, same⟩ := (agrees_iff a w).1 agrees
  rcases other with special | ⟨items, rfl⟩
  · cases w <;> cases special
    cases a <;> first | cases same | cases json
  · cases a <;> first | cases same | cases json

end Value

namespace Ty

theorem unionOf_le_promote_unionOf {found wanted : List Value}
    (wellFormed : ∀ v ∈ found, (ofValue v).IsWellFormed)
    (wellFormed' : ∀ w ∈ wanted, (ofValue w).IsWellFormed)
    (below : ∀ v ∈ found, ∃ w ∈ wanted, (ofValue v).le (ofValue w).promote = true) :
    (unionOf (found.map ofValue)).le (unionOf (wanted.map ofValue)).promote = true := by
  have each : ∀ t ∈ found.map ofValue, t.IsWellFormed := List.forall_mem_map.2 wellFormed
  have each' : ∀ t ∈ wanted.map ofValue, t.IsWellFormed := List.forall_mem_map.2 wellFormed'
  have wide := (isWellFormed_promote (isWellFormed_unionOf each')).toIsRegular
  refine (unionOf_le_iff each wide).2 (List.forall_mem_map.2 fun v inside => ?_)
  obtain ⟨w, inside', below⟩ := below v inside
  have joined := le_unionOf each' _ (List.mem_map_of_mem inside')
  exact le_trans (wellFormed v inside).toIsRegular
    (isWellFormed_promote (wellFormed' w inside')).toIsRegular wide below
    (promote_le_promote (wellFormed' w inside') (isWellFormed_unionOf each') joined)

/-- Lists that are compared item by item have types that differ by widening only. -/
theorem list_le_promote_list {found wanted : List Value}
    (wellFormed : ∀ v ∈ found, (ofValue v).IsWellFormed)
    (wellFormed' : ∀ w ∈ wanted, (ofValue w).IsWellFormed)
    (below : ∀ v ∈ found, ∃ w ∈ wanted, (ofValue v).le (ofValue w).promote = true) :
    (ofValue (.list found)).le (ofValue (.list wanted)).promote = true := by
  have joined (items : List Value) (each : ∀ v ∈ items, (ofValue v).IsWellFormed) :
      (unionOf (items.map ofValue)).IsWellFormed :=
    isWellFormed_unionOf (List.forall_mem_map.2 each)
  have joined' := isWellFormed_promote (joined wanted wellFormed')
  rw [ofValue_list, ofValue_list, promote_generic, generic_le_generic_iff]
  exact ⟨Or.inl rfl, promote_le_promote (joined found wellFormed) joined'
    (unionOf_le_promote_unionOf wellFormed wellFormed' below)⟩

theorem exists_fields_of_texts {entries : Entries}
    (texts : ∀ entry ∈ entries, entry.1.text?.isSome = true) :
    ∃ fields, ofEntries? entries = some fields := by
  induction entries with
  | nil => exact ⟨[], rfl⟩
  | cons entry entries ih =>
      obtain ⟨k, v⟩ := entry
      obtain ⟨here, rest⟩ := List.forall_mem_cons.1 texts
      obtain ⟨key, isKey⟩ := Option.isSome_iff_exists.1 here
      obtain ⟨fields, known⟩ := ih rest
      refine ⟨(key, ofValue v) :: fields, ?_⟩
      rw [ofEntries?, isKey, known]

/-- Dictionaries that are compared entry by entry, too. -/
theorem dict_le_promote_dict {found wanted : Entries}
    (json : (Value.dict found).isJson = true) (keyed : (Value.dict found).IsKeyed)
    (keyed' : (Value.dict wanted).IsKeyed)
    (below : ∀ entry ∈ wanted, ∃ v, found.valueOf? (.str entry.1.plainText) = some v ∧
      (ofValue v).le (ofValue entry.2).promote = true) :
    (ofValue (.dict found)).le (ofValue (.dict wanted)).promote = true := by
  obtain ⟨fs, known⟩ := exists_fields_of_texts fun entry member =>
    ((Value.isJson_dict found).1 json entry member).1
  have matched := forall₂_of_ofEntries? known
  have distinct : HasDistinctNames (record fs) :=
    nodup_names_of_forall₂ ((Value.everyDictionary_dict found).1 keyed).1 matched
  have wide := isWellFormed_promote (isWellFormed_ofValue_of_isKeyed keyed')
  rw [ofValue, known]
  rw [ofValue] at wide ⊢
  cases known' : ofEntries? wanted with
  | none => simp [promote, promoteWith, le, leWith, anyAlternative, alternatives]
  | some gs =>
      simp only [known', promote_record] at wide ⊢
      rw [record_le_record_iff fs wide.toIsRegular]
      refine List.forall_mem_map.2 fun g inside => ?_
      obtain ⟨entry, member, isKey, type⟩ :=
        Attempt.exists_of_mem_right (forall₂_of_ofEntries? known') inside
      obtain ⟨v, found', below⟩ := below entry member
      rw [isKey] at found'
      obtain ⟨field, inside', sameKey, type'⟩ :=
        Attempt.exists_of_mem_right matched.flip (Entries.mem_of_valueOf? found')
      refine ⟨field.2, ?_, ?_⟩
      · rw [show g.1 = field.1 from Value.str.inj sameKey]
        exact distinct.lastField?_of_mem inside'
      · rw [type', type]
        exact below

/-- What has a type below the widened one of an output whenever it reproduces that, does so
item by item. -/
theorem sequence_le_promote {a : Value} {wanted : List Value} (exact : a.IsExactJson)
    (keyed : (Value.list wanted).IsKeyed)
    (below : ∀ w ∈ wanted, ∀ v : Value, v.IsExactJson → v.reproduces w = .ok true →
      (ofValue v).le (ofValue w).promote = true)
    (same : a.reproduces (.list wanted) = .ok true) :
    (ofValue a).le (ofValue (.list wanted)).promote = true := by
  obtain ⟨found, rfl | rfl, pairs⟩ := (Value.reproduces_sequence_iff a wanted).1 same
  · refine list_le_promote_list ?_ ?_ fun v inside => ?_
    · exact fun v inside => isWellFormed_ofValue_of_isKeyed (exact.of_mem_list inside).keyed
    · exact fun w inside =>
        isWellFormed_ofValue_of_isKeyed ((Value.everyDictionary_list wanted).1 keyed w inside)
    · obtain ⟨w, inside', same⟩ := Attempt.exists_of_mem_right pairs.flip inside
      exact ⟨w, inside', below w inside' v (exact.of_mem_list inside) same⟩
  · cases exact.json

/-- A value that reproduces another one has a type below the widened one of the other. -/
theorem ofValue_le_promote_of_reproduces {a w : Value} (exact : a.IsExactJson)
    (keyed : w.IsKeyed) (floatless : w.isFloatless = true)
    (same : a.reproduces w = .ok true) : (ofValue a).le (ofValue w).promote = true := by
  induction w using Value.inductionOn generalizing a with
  | atom w isAtom =>
      rw [Value.reproduces_of_isAtom isAtom] at same
      obtain rfl := Value.eq_of_agrees isAtom (Value.isFloat_of_isFloatless exact.floatless)
        (Value.isFloat_of_isFloatless floatless) (Except.ok.inj same)
      exact le_promote (isWellFormed_ofValue_of_isKeyed keyed)
  | list wanted ih =>
      exact sequence_le_promote exact keyed (fun w inside v exact same => ih w inside exact
        ((Value.everyDictionary_list wanted).1 keyed w inside)
        ((Value.all_list _ wanted).1 floatless w inside) same) same
  | tuple wanted ih =>
      rw [ofValue_tuple]
      exact sequence_le_promote exact keyed (fun w inside v exact same => ih w inside exact
        ((Value.everyDictionary_tuple wanted).1 keyed w inside)
        ((Value.all_tuple _ wanted).1 floatless w inside) same) same
  | set wanted ih =>
      have disagrees := Value.not_agrees_of_isJson exact.json (Or.inr ⟨wanted, rfl⟩)
      exact absurd (disagrees.symm.trans (Except.ok.inj same)) Bool.false_ne_true
  | special kind plain literal =>
      have disagrees := Value.not_agrees_of_isJson (w := .special kind plain literal) exact.json
        (Or.inl rfl)
      exact absurd (disagrees.symm.trans (Except.ok.inj same)) Bool.false_ne_true
  | dict wanted ih =>
      obtain ⟨found, rfl, same⟩ := (Value.reproduces_dict_iff a wanted).1 same
      refine dict_le_promote_dict exact.json exact.keyed keyed fun entry member => ?_
      obtain ⟨_, v, located, same⟩ := (Value.reproducesEntries_iff found wanted).1 same entry member
      exact ⟨v, located, ih entry member (exact.of_valueOf? located)
        (((Value.everyDictionary_dict wanted).1 keyed).2 entry member)
        ((Value.all_dict _ wanted).1 floatless entry member).2 same⟩

end Ty

/-! ### Goals -/

namespace Example

theorem eq_resultType_of_signature {examples : List Example} {env : Environment} {goal : Ty}
    (inferred : signature examples = .ok (env, goal)) : goal = resultType examples := by
  unfold signature at inferred
  split at inferred
  · exact (Attempt.throw_eq_ok_iff.1 inferred).elim
  · obtain ⟨env, _, inferred⟩ := Attempt.bind_eq_ok_iff.1 inferred
    cases Attempt.pure_eq_ok_iff.1 inferred
    rfl

/-- The values of an argument that all examples have. -/
theorem column_eq_ok {examples : List Example} {i : Nat}
    (long : ∀ x ∈ examples, i < x.inputs.length) :
    column examples i = .ok (examples.filterMap fun x => x.inputs[i]?) := by
  refine Attempt.mapM_eq_ok_of_forall₂ ?_
  induction examples with
  | nil => exact .nil
  | cons x examples ih =>
      obtain ⟨here, rest⟩ := List.forall_mem_cons.1 long
      have found : x.inputs[i]? = some x.inputs[i] := List.getElem?_eq_getElem here
      rw [List.filterMap_cons_some (f := fun x : Example => x.inputs[i]?) found]
      refine .cons ?_ (ih rest)
      rw [found]
      rfl

theorem zipIdx_parameterNames (arity : Nat) :
    (Term.parameterNames arity).zipIdx =
      (List.range arity).map fun i => (Term.parameterName i, i) := by
  refine List.ext_getElem (by simp [Term.parameterNames]) fun i _ _ => ?_
  simp [Term.parameterNames]

/-- The signature of examples of which none has fewer arguments than the first. -/
theorem signature_eq_ok {examples : List Example} (nonempty : examples ≠ [])
    (long : ∀ x ∈ examples, arityOf examples ≤ x.inputs.length) :
    signature examples = .ok ((List.range (arityOf examples)).map fun i =>
      (Term.parameterName i, argumentType (examples.filterMap fun x => x.inputs[i]?)),
      resultType examples) := by
  unfold signature
  split
  · exact absurd rfl nonempty
  · refine Attempt.bind_eq_ok_iff.2 ⟨_, Attempt.mapM_eq_ok_of_forall₂ ?_, rfl⟩
    rw [zipIdx_parameterNames, List.forall₂_map_left_iff, List.forall₂_map_right_iff,
      List.forall₂_same]
    intro i member
    dsimp only
    rw [column_eq_ok fun x inside => (List.mem_range.1 member).trans_le (long x inside)]
    rfl

/-- The goal that examples give admits what reproduces one of their outputs, and examples
that agree on the number of their arguments give one. -/
theorem admits_of_reproduces (examples : List Example)
    (keyed : ∀ x ∈ examples, x.output.IsKeyed) (a : Value) (exact : a.IsExactJson)
    (accepting : ∃ x ∈ examples, x.output.isFloatless = true ∧ a.reproduces x.output = .ok true) :
    (∀ env goal, signature examples = .ok (env, goal) →
      (Ty.ofValue a).checkedLe goal = .ok true) ∧
    ((∀ x ∈ examples, x.inputs.length = arityOf examples) →
      ∃ env goal, signature examples = .ok (env, goal)) := by
  obtain ⟨x, member, floatless, same⟩ := accepting
  constructor
  · intro env goal inferred
    obtain rfl := eq_resultType_of_signature inferred
    have wellFormed : ∀ t ∈ examples.map fun y => Ty.ofValue y.output, t.IsWellFormed :=
      List.forall_mem_map.2 fun y inside => Ty.isWellFormed_ofValue_of_isKeyed (keyed y inside)
    have joined := Ty.isWellFormed_unionOf wellFormed
    have output := Ty.isWellFormed_ofValue_of_isKeyed (keyed x member)
    have precise := Ty.isWellFormed_ofValue_of_isKeyed exact.keyed
    have general : (resultType examples).IsWellFormed := Ty.isWellFormed_promote joined
    have widened : (Ty.ofValue x.output).promote.le (resultType examples) = true :=
      Ty.promote_le_promote output joined
        (Ty.le_unionOf wellFormed _ (List.mem_map_of_mem member))
    have below : (Ty.ofValue a).le (resultType examples) = true :=
      Ty.le_trans precise.toIsRegular (Ty.isWellFormed_promote output).toIsRegular
        general.toIsRegular
        (Ty.ofValue_le_promote_of_reproduces exact (keyed x member) floatless same) widened
    rw [Ty.checkedLe_of_isOrdinary precise.ordinary general.ordinary, below]
  · intro even
    exact ⟨_, _, signature_eq_ok (List.ne_nil_of_mem member) fun y inside => (even y inside).ge⟩

/-- A dictionary with more keys than are wanted, and with items that an output gives as a
tuple. -/
theorem admits_of_reproduces_nested :
    let first : Example := ⟨[.int 1], .dict [(.str "rows", .tuple [.int 1, .str "a"])]⟩
    let second : Example := ⟨[.int 2], .dict [(.str "rows", .list [.none])]⟩
    let a : Value := .dict [(.str "size", .bool true), (.str "rows", .list [.int 1, .str "a"])]
    ∃ env goal, signature [first, second] = .ok (env, goal) ∧
      (Ty.ofValue a).checkedLe goal = .ok true := by
  intro first second a
  have keyed : ∀ x ∈ [first, second], x.output.IsKeyed := by decide
  have exact : a.IsExactJson := ⟨by decide, by decide, by decide⟩
  have accepting : ∃ x ∈ [first, second], x.output.isFloatless = true ∧
      a.reproduces x.output = .ok true := ⟨first, by simp, by decide, rfl⟩
  obtain ⟨below, inferred⟩ := admits_of_reproduces _ keyed a exact accepting
  obtain ⟨env, goal, same⟩ := inferred (by decide)
  exact ⟨env, goal, same, below env goal same⟩

end Example

end FunctionSynthesis
