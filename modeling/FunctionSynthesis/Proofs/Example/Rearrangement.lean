import Mathlib.Logic.Relation
import FunctionSynthesis.Proofs.Example.Signature

/-!
# Examples in another order

The types that are inferred from examples do not depend on the order of the examples, of the
items of their lists or of the entries of their dictionaries (`signature_rearranged`). A
rearrangement leaves of every type on either side an equal one on the other side, and a join
depends on the types that it joins only up to equality (`equal_unionOf_of_isCovered`), as a
record does on its fields.
-/

namespace FunctionSynthesis

/-! ### Lists up to a relation of their items -/

/-- Whether every item of a list has a related one in another list. -/
def IsCovered {α : Type} (related : α → α → Prop) (xs ys : List α) : Prop :=
  ∀ x ∈ xs, ∃ y ∈ ys, related x y

namespace IsCovered

variable {α β : Type} {related : α → α → Prop} {target : β → β → Prop} {xs ys zs : List α}

theorem of_subset (refl : ∀ x, related x x) (subset : xs ⊆ ys) : IsCovered related xs ys :=
  fun x inside => ⟨x, subset inside, refl x⟩

/-- One item may be replaced by a related one. -/
theorem of_one (refl : ∀ x, related x x) (before after : List α) {x y : α} (here : related x y) :
    IsCovered related (before ++ x :: after) (before ++ y :: after) := by
  simp only [IsCovered, List.mem_append, List.mem_cons]
  rintro z (earlier | rfl | later)
  · exact ⟨z, Or.inl earlier, refl z⟩
  · exact ⟨y, Or.inr (Or.inl rfl), here⟩
  · exact ⟨z, Or.inr (Or.inr later), refl z⟩

theorem trans (step : ∀ {x y z}, related x y → related y z → related x z)
    (first : IsCovered related xs ys) (second : IsCovered related ys zs) :
    IsCovered related xs zs := by
  intro x inside
  obtain ⟨y, inside', here⟩ := first x inside
  obtain ⟨z, inside'', there⟩ := second y inside'
  exact ⟨z, inside'', step here there⟩

theorem map (covered : IsCovered related xs ys) {f : α → β}
    (kept : ∀ x y, related x y → target (f x) (f y)) :
    IsCovered target (xs.map f) (ys.map f) := by
  refine List.forall_mem_map.2 fun x inside => ?_
  obtain ⟨y, inside', here⟩ := covered x inside
  exact ⟨f y, List.mem_map_of_mem inside', kept x y here⟩

theorem filterMap (covered : IsCovered related xs ys) {read : α → Option β}
    (kept : ∀ x y, related x y → ∀ v, read x = some v → ∃ w, read y = some w ∧ target v w) :
    IsCovered target (xs.filterMap read) (ys.filterMap read) := by
  intro v isRead
  obtain ⟨x, inside, isRead⟩ := List.mem_filterMap.1 isRead
  obtain ⟨y, inside', here⟩ := covered x inside
  obtain ⟨w, isRead', same⟩ := kept x y here v isRead
  exact ⟨w, List.mem_filterMap.2 ⟨y, inside', isRead'⟩, same⟩

end IsCovered

/-! ### Joins and records up to equality -/

namespace Ty

theorem exists_mem_alternativesOf {ts us : List Ty}
    (covered : IsCovered (fun t u => equal t u = true) ts us) {t : Ty}
    (alternative : t ∈ alternativesOf ts) : ∃ u ∈ alternativesOf us, equal t u = true := by
  obtain ⟨whole, member, alternative⟩ := mem_alternativesOf.1 alternative
  obtain ⟨whole', member', same⟩ := covered whole member
  obtain ⟨u, alternative', same⟩ := exists_alternative_of_equal same alternative
  exact ⟨u, mem_alternativesOf.2 ⟨whole', member', alternative'⟩, same⟩

/-- A join depends on the types that are joined only up to equality. -/
theorem equal_unionOf_of_isCovered {ts us : List Ty} (ht : ∀ t ∈ ts, t.IsWellFormed)
    (hu : ∀ u ∈ us, u.IsWellFormed) (left : IsCovered (fun t u => equal t u = true) ts us)
    (right : IsCovered (fun t u => equal t u = true) us ts) :
    equal (unionOf ts) (unionOf us) = true := by
  refine equal_unionOf (fun t member => (ht t member).toIsRegular)
    (fun u member => (hu u member).toIsRegular)
    ⟨fun t alternative _ => exists_mem_alternativesOf left alternative, fun u alternative _ => ?_⟩
  obtain ⟨t, alternative', same⟩ := exists_mem_alternativesOf right alternative
  exact ⟨t, alternative',
    equal_symm (isWellFormed_of_mem_alternativesOf ht t alternative').hashable same⟩

theorem equal_record_of_isCovered {fs gs : List (String × Ty)}
    (hf : HasDistinctNames (record fs)) (hg : HasDistinctNames (record gs))
    (left : IsCovered (fun f g => f.1 = g.1 ∧ equal f.2 g.2 = true) fs gs)
    (right : IsCovered (fun g f => g.1 = f.1 ∧ equal g.2 f.2 = true) gs fs) :
    equal (record fs) (record gs) = true := by
  refine (equal_record_iff fs gs).2 ⟨fun key t found => ?_, fun g inside => ?_⟩
  · obtain ⟨⟨name, u⟩, inside, rfl, same⟩ := left _ (mem_of_lastField? found)
    exact ⟨u, hg.lastField?_of_mem inside, same⟩
  · obtain ⟨f, inside', same, _⟩ := right g inside
    exact ⟨f.2, same ▸ hf.lastField?_of_mem inside'⟩

theorem isUnion_eq_of_equal {a b : Ty} (same : equal a b = true) : a.isUnion = b.isUnion := by
  cases a <;> cases b <;> first | rfl | cases same

end Ty

/-! ### Values of equal types -/

namespace Value

/-- Whether the precise types of two values are equal. -/
def AreTypedAlike (v w : Value) : Prop :=
  Ty.equal (Ty.ofValue v) (Ty.ofValue w) = true

namespace AreTypedAlike

theorem refl (v : Value) : v.AreTypedAlike v :=
  Ty.equal_refl (Ty.isHashable_ofValue v)

theorem symm {v w : Value} (same : v.AreTypedAlike w) : w.AreTypedAlike v :=
  Ty.equal_symm (Ty.isHashable_ofValue w) same

theorem trans {u v w : Value} (first : u.AreTypedAlike v) (second : v.AreTypedAlike w) :
    u.AreTypedAlike w :=
  Ty.equal_trans (Ty.isHashable_ofValue w) first second

end AreTypedAlike

/-- Whether a value is made of what JSON has: atoms, lists, and dictionaries that give each
of their keys, which are texts, once. -/
structure IsJsonLike (v : Value) : Prop where
  json : v.isJson = true
  keyed : v.IsKeyed

instance (v : Value) : Decidable v.IsJsonLike :=
  decidable_of_iff (v.isJson = true ∧ v.IsKeyed)
    ⟨fun ⟨json, keyed⟩ => ⟨json, keyed⟩, fun data => ⟨data.json, data.keyed⟩⟩

theorem isJsonLike_list (items : List Value) :
    (Value.list items).IsJsonLike ↔ ∀ item ∈ items, item.IsJsonLike := by
  constructor
  · exact fun ⟨json, keyed⟩ item inside =>
      ⟨(isJson_list items).1 json item inside, (everyDictionary_list items).1 keyed item inside⟩
  · exact fun all => ⟨(isJson_list items).2 fun item inside => (all item inside).json,
      (everyDictionary_list items).2 fun item inside => (all item inside).keyed⟩

theorem isJsonLike_dict (entries : Entries) :
    (Value.dict entries).IsJsonLike ↔ (entries.map Prod.fst).Nodup ∧
      ∀ entry ∈ entries, (∃ key, entry.1 = .str key) ∧ entry.2.IsJsonLike := by
  constructor
  · rintro ⟨json, keyed⟩
    obtain ⟨distinct, keyed⟩ := (everyDictionary_dict entries).1 keyed
    have each : ∀ entry ∈ entries, (∃ key, entry.1 = .str key) ∧ entry.2.IsJsonLike := by
      intro entry inside
      obtain ⟨text, json⟩ := (isJson_dict entries).1 json entry inside
      exact ⟨exists_eq_str_of_text? text, json, keyed entry inside⟩
    have texts := Entries.hasDistinctKeys_iff_nodup fun entry inside => (each entry inside).1
    exact ⟨texts.1 distinct, each⟩
  · rintro ⟨distinct, each⟩
    have distinct :=
      (Entries.hasDistinctKeys_iff_nodup fun entry inside => (each entry inside).1).2 distinct
    refine ⟨(isJson_dict entries).2 fun entry inside => ?_,
      (everyDictionary_dict entries).2 ⟨distinct, fun entry inside => (each entry inside).2.keyed⟩⟩
    obtain ⟨⟨key, isKey⟩, data⟩ := each entry inside
    exact ⟨by rw [isKey]; rfl, data.json⟩

/-- Values of equal types have equal joins of their types. -/
theorem equal_unionOf_ofValue {values others : List Value} (keyed : ∀ v ∈ values, v.IsKeyed)
    (keyed' : ∀ v ∈ others, v.IsKeyed) (left : IsCovered AreTypedAlike values others)
    (right : IsCovered AreTypedAlike others values) :
    Ty.equal (Ty.unionOf (values.map Ty.ofValue)) (Ty.unionOf (others.map Ty.ofValue)) = true :=
  Ty.equal_unionOf_of_isCovered (Ty.isWellFormed_of_mem_map_ofValue keyed)
    (Ty.isWellFormed_of_mem_map_ofValue keyed') (left.map fun _ _ => id) (right.map fun _ _ => id)

theorem equal_promote_unionOf_ofValue {values others : List Value}
    (keyed : ∀ v ∈ values, v.IsKeyed) (keyed' : ∀ v ∈ others, v.IsKeyed)
    (left : IsCovered AreTypedAlike values others)
    (right : IsCovered AreTypedAlike others values) :
    Ty.equal (Ty.unionOf (values.map Ty.ofValue)).promote
      (Ty.unionOf (others.map Ty.ofValue)).promote = true :=
  Ty.equal_promote (Ty.isWellFormed_unionOf_ofValue keyed)
    (Ty.isWellFormed_unionOf_ofValue keyed') (equal_unionOf_ofValue keyed keyed' left right)

theorem areTypedAlike_list {items others : List Value} (data : (Value.list items).IsJsonLike)
    (data' : (Value.list others).IsJsonLike) (left : IsCovered AreTypedAlike items others)
    (right : IsCovered AreTypedAlike others items) :
    (Value.list items).AreTypedAlike (.list others) := by
  have widened := equal_promote_unionOf_ofValue
    (fun v inside => ((isJsonLike_list items).1 data v inside).keyed)
    (fun v inside => ((isJsonLike_list others).1 data' v inside).keyed) left right
  rw [AreTypedAlike, Ty.ofValue_list, Ty.ofValue_list, Ty.equal, widened, beq_self_eq_true]
  rfl

/-- Whether two entries have one key and values of equal types. -/
def AreEntriesAlike (e f : Value × Value) : Prop :=
  e.1 = f.1 ∧ e.2.AreTypedAlike f.2

/-- The type of a dictionary has a field for each entry. -/
theorem exists_ofValue_dict {entries : Entries} (data : (Value.dict entries).IsJsonLike) :
    ∃ fields, Ty.ofValue (.dict entries) = .record fields ∧
      Ty.HasDistinctNames (.record fields) ∧
      List.Forall₂ (fun (entry : Value × Value) (field : String × Ty) =>
        entry.1 = .str field.1 ∧ field.2 = Ty.ofValue entry.2) entries fields := by
  have distinct := ((everyDictionary_dict entries).1 data.keyed).1
  obtain ⟨fields, known⟩ := Ty.exists_fields_of_texts fun entry inside =>
    ((isJson_dict entries).1 data.json entry inside).1
  have pairs := Ty.forall₂_of_ofEntries? known
  exact ⟨fields, by rw [Ty.ofValue, known], Ty.nodup_names_of_forall₂ distinct pairs, pairs⟩

theorem areTypedAlike_dict {entries others : Entries} (data : (Value.dict entries).IsJsonLike)
    (data' : (Value.dict others).IsJsonLike) (left : IsCovered AreEntriesAlike entries others)
    (right : IsCovered AreEntriesAlike others entries) :
    (Value.dict entries).AreTypedAlike (.dict others) := by
  have fields {entries others : Entries} {fs gs : List (String × Ty)}
      (covered : IsCovered AreEntriesAlike entries others)
      (pairs : List.Forall₂ (fun (entry : Value × Value) (field : String × Ty) =>
        entry.1 = .str field.1 ∧ field.2 = Ty.ofValue entry.2) entries fs)
      (pairs' : List.Forall₂ (fun (entry : Value × Value) (field : String × Ty) =>
        entry.1 = .str field.1 ∧ field.2 = Ty.ofValue entry.2) others gs) :
      IsCovered (fun f g => f.1 = g.1 ∧ Ty.equal f.2 g.2 = true) fs gs := by
    intro f inside
    obtain ⟨e, member, key, isType⟩ := Attempt.exists_of_mem_right pairs inside
    obtain ⟨e', member', sameKey, same⟩ := covered e member
    obtain ⟨g, inside', key', isType'⟩ := Attempt.exists_of_mem_right pairs'.flip member'
    refine ⟨g, inside', Value.str.inj (key.symm.trans (sameKey.trans key')), ?_⟩
    rw [isType, isType']
    exact same
  obtain ⟨fs, type, distinct, pairs⟩ := exists_ofValue_dict data
  obtain ⟨gs, type', distinct', pairs'⟩ := exists_ofValue_dict data'
  rw [AreTypedAlike, type, type']
  exact Ty.equal_record_of_isCovered distinct distinct' (fields left pairs pairs')
    (fields right pairs' pairs)

/-! ### Rearranged values -/

/-- One rearrangement in a value, at any depth: of the items of a list or of the entries of a
dictionary. -/
inductive Rearranges : Value → Value → Prop
  | list {items others : List Value} (perm : items.Perm others) :
      Rearranges (.list items) (.list others)
  | dict {entries others : Entries} (perm : entries.Perm others) :
      Rearranges (.dict entries) (.dict others)
  | item (before after : List Value) {v w : Value} (here : Rearranges v w) :
      Rearranges (.list (before ++ v :: after)) (.list (before ++ w :: after))
  | entry (before after : Entries) (key : Value) {v w : Value} (here : Rearranges v w) :
      Rearranges (.dict (before ++ (key, v) :: after)) (.dict (before ++ (key, w) :: after))

namespace Rearranges

variable {v w : Value}

theorem isJsonLike (step : v.Rearranges w) (data : v.IsJsonLike) : w.IsJsonLike := by
  induction step with
  | list perm =>
      rw [isJsonLike_list] at data ⊢
      exact fun item inside => data item (perm.mem_iff.2 inside)
  | dict perm =>
      rw [isJsonLike_dict] at data ⊢
      exact ⟨(perm.map Prod.fst).nodup_iff.1 data.1,
        fun entry inside => data.2 entry (perm.mem_iff.2 inside)⟩
  | item before after here ih =>
      simp only [isJsonLike_list, List.forall_mem_append, List.forall_mem_cons] at data ⊢
      exact ⟨data.1, ih data.2.1, data.2.2⟩
  | entry before after key here ih =>
      simp only [isJsonLike_dict, List.forall_mem_append, List.forall_mem_cons,
        List.map_append, List.map_cons] at data ⊢
      obtain ⟨distinct, earlier, ⟨isKey, inside⟩, later⟩ := data
      exact ⟨distinct, earlier, ⟨isKey, ih inside⟩, later⟩

/-- A rearrangement does not change the type of a value. -/
theorem areTypedAlike (step : v.Rearranges w) (data : v.IsJsonLike) : v.AreTypedAlike w := by
  have entryRefl (e : Value × Value) : AreEntriesAlike e e := ⟨rfl, .refl e.2⟩
  have data' := step.isJsonLike data
  induction step with
  | list perm =>
      exact areTypedAlike_list data data' (.of_subset .refl perm.subset)
        (.of_subset .refl perm.symm.subset)
  | dict perm =>
      exact areTypedAlike_dict data data' (.of_subset entryRefl perm.subset)
        (.of_subset entryRefl perm.symm.subset)
  | item before after here ih =>
      have inside := (isJsonLike_list _).1 data _ (List.mem_append_cons_self)
      have same := ih inside (here.isJsonLike inside)
      exact areTypedAlike_list data data' (.of_one .refl before after same)
        (.of_one .refl before after same.symm)
  | entry before after key here ih =>
      have inside := ((isJsonLike_dict _).1 data).2 _ (List.mem_append_cons_self)
      have same := ih inside.2 (here.isJsonLike inside.2)
      exact areTypedAlike_dict data data' (.of_one entryRefl before after ⟨rfl, same⟩)
        (.of_one entryRefl before after ⟨rfl, same.symm⟩)

end Rearranges

end Value

/-! ### Rearranged examples -/

namespace Example

/-- Whether all values of an example are made of what JSON has. -/
structure IsJsonLike (x : Example) : Prop where
  inputs : ∀ v ∈ x.inputs, v.IsJsonLike
  output : x.output.IsJsonLike

instance (x : Example) : Decidable x.IsJsonLike :=
  decidable_of_iff ((∀ v ∈ x.inputs, v.IsJsonLike) ∧ x.output.IsJsonLike)
    ⟨fun ⟨inputs, output⟩ => ⟨inputs, output⟩, fun data => ⟨data.inputs, data.output⟩⟩

/-- Whether two examples have values of equal types. -/
structure AreTypedAlike (x y : Example) : Prop where
  inputs : List.Forall₂ Value.AreTypedAlike x.inputs y.inputs
  output : x.output.AreTypedAlike y.output

namespace AreTypedAlike

theorem refl (x : Example) : x.AreTypedAlike x :=
  ⟨List.forall₂_same.2 fun v _ => .refl v, .refl x.output⟩

theorem symm {x y : Example} (same : x.AreTypedAlike y) : y.AreTypedAlike x :=
  ⟨(same.inputs.imp fun _ _ => Value.AreTypedAlike.symm).flip, same.output.symm⟩

theorem trans {x y z : Example} (first : x.AreTypedAlike y) (second : y.AreTypedAlike z) :
    x.AreTypedAlike z := by
  refine ⟨(Attempt.forall₂_comp first.inputs second.inputs).imp ?_,
    first.output.trans second.output⟩
  exact fun _ _ ⟨_, _, here, there⟩ => here.trans there

end AreTypedAlike

/-- One rearrangement in a value of an example. -/
inductive Rearranges : Example → Example → Prop
  | input (before after : List Value) (output : Value) {v w : Value} (here : v.Rearranges w) :
      Rearranges ⟨before ++ v :: after, output⟩ ⟨before ++ w :: after, output⟩
  | output (inputs : List Value) {v w : Value} (here : v.Rearranges w) :
      Rearranges ⟨inputs, v⟩ ⟨inputs, w⟩

/-- One rearrangement of examples: of their order, or in a value of one of them. -/
inductive AreRearranged : List Example → List Example → Prop
  | order {examples others : List Example} (perm : examples.Perm others) :
      AreRearranged examples others
  | one (before after : List Example) {x y : Example} (here : x.Rearranges y) :
      AreRearranged (before ++ x :: after) (before ++ y :: after)

theorem Rearranges.isJsonLike {x y : Example} (step : x.Rearranges y) (data : x.IsJsonLike) :
    y.IsJsonLike := by
  cases step with
  | input before after output here =>
      obtain ⟨inputs, output⟩ := data
      simp only [List.forall_mem_append, List.forall_mem_cons] at inputs
      refine ⟨?_, output⟩
      simp only [List.forall_mem_append, List.forall_mem_cons]
      exact ⟨inputs.1, here.isJsonLike inputs.2.1, inputs.2.2⟩
  | output inputs here => exact ⟨data.inputs, here.isJsonLike data.output⟩

theorem Rearranges.areTypedAlike {x y : Example} (step : x.Rearranges y) (data : x.IsJsonLike) :
    x.AreTypedAlike y := by
  cases step with
  | input before after output here =>
      have same := here.areTypedAlike (data.inputs _ List.mem_append_cons_self)
      refine ⟨List.rel_append ?_ (.cons same ?_), .refl output⟩ <;>
        exact List.forall₂_same.2 fun v _ => .refl v
  | output inputs here =>
      exact ⟨List.forall₂_same.2 fun v _ => .refl v, here.areTypedAlike data.output⟩

/-- Whether examples have values of equal types, up to their order and to repetitions. -/
structure AreMatched (examples others : List Example) : Prop where
  left : IsCovered AreTypedAlike examples others
  right : IsCovered AreTypedAlike others examples
  data : ∀ y ∈ others, y.IsJsonLike

theorem AreRearranged.areMatched {examples others : List Example}
    (step : AreRearranged examples others) (data : ∀ x ∈ examples, x.IsJsonLike) :
    AreMatched examples others := by
  cases step with
  | order perm =>
      exact ⟨.of_subset .refl perm.subset, .of_subset .refl perm.symm.subset,
        fun y inside => data y (perm.mem_iff.2 inside)⟩
  | one before after here =>
      have inside := data _ List.mem_append_cons_self
      have same := here.areTypedAlike inside
      refine ⟨.of_one .refl before after same, .of_one .refl before after same.symm, ?_⟩
      simp only [List.forall_mem_append, List.forall_mem_cons] at data ⊢
      exact ⟨data.1, here.isJsonLike inside, data.2.2⟩

/-- Any number of rearrangements keeps the types of the values. -/
theorem areMatched_of_reflTransGen {examples others : List Example}
    (steps : Relation.ReflTransGen AreRearranged examples others)
    (data : ∀ x ∈ examples, x.IsJsonLike) : AreMatched examples others := by
  induction steps with
  | refl =>
      exact ⟨.of_subset .refl (List.Subset.refl examples),
        .of_subset .refl (List.Subset.refl examples), data⟩
  | tail _ step ih =>
      have next := step.areMatched ih.data
      exact ⟨ih.left.trans .trans next.left, next.right.trans .trans ih.right, next.data⟩

/-! ### The types that are inferred -/

theorem equal_argumentType {values others : List Value} (keyed : ∀ v ∈ values, v.IsKeyed)
    (keyed' : ∀ v ∈ others, v.IsKeyed) (left : IsCovered Value.AreTypedAlike values others)
    (right : IsCovered Value.AreTypedAlike others values) :
    Ty.equal (argumentType values) (argumentType others) = true := by
  have joined := Value.equal_unionOf_ofValue keyed keyed' left right
  unfold argumentType
  dsimp only
  rw [Ty.isUnion_eq_of_equal joined]
  split
  · exact Value.equal_promote_unionOf_ofValue keyed keyed' left right
  · exact joined

theorem equal_resultType {examples others : List Example} (data : ∀ x ∈ examples, x.IsJsonLike)
    (matched : AreMatched examples others) :
    Ty.equal (resultType examples) (resultType others) = true := by
  have widened := Value.equal_promote_unionOf_ofValue
    (List.forall_mem_map.2 fun x inside => (data x inside).output.keyed)
    (List.forall_mem_map.2 fun y inside => (matched.data y inside).output.keyed)
    (matched.left.map fun _ _ same => same.output) (matched.right.map fun _ _ same => same.output)
  rwa [List.map_map, List.map_map] at widened

/-- The values of one argument. -/
theorem isCovered_column {examples others : List Example}
    (covered : IsCovered AreTypedAlike examples others) (i : Nat) :
    IsCovered Value.AreTypedAlike (examples.filterMap fun x => x.inputs[i]?)
      (others.filterMap fun x => x.inputs[i]?) := by
  refine covered.filterMap fun x y same v found => ?_
  have long : i < y.inputs.length :=
    same.inputs.length_eq ▸ (List.getElem?_eq_some_iff.1 found).1
  obtain ⟨here, rfl⟩ := List.getElem?_eq_some_iff.1 found
  exact ⟨_, List.getElem?_eq_getElem long, same.inputs.get here long⟩

theorem isKeyed_column {examples : List Example} (data : ∀ x ∈ examples, x.IsJsonLike) (i : Nat) :
    ∀ v ∈ examples.filterMap (fun x => x.inputs[i]?), v.IsKeyed := by
  intro v found
  obtain ⟨x, inside, found⟩ := List.mem_filterMap.1 found
  exact ((data x inside).inputs v (List.mem_of_getElem? found)).keyed

theorem AreMatched.even {examples others : List Example} (matched : AreMatched examples others)
    (nonempty : examples ≠ []) (even : ∀ x ∈ examples, x.inputs.length = arityOf examples) :
    others ≠ [] ∧ arityOf others = arityOf examples ∧
      ∀ y ∈ others, y.inputs.length = arityOf examples := by
  have each : ∀ y ∈ others, y.inputs.length = arityOf examples := by
    intro y inside
    obtain ⟨x, inside', same⟩ := matched.right y inside
    exact same.inputs.length_eq.trans (even x inside')
  obtain ⟨x, inside⟩ := List.exists_mem_of_ne_nil examples nonempty
  obtain ⟨y, inside', _⟩ := matched.left x inside
  refine ⟨List.ne_nil_of_mem inside', ?_, each⟩
  cases others with
  | nil => cases inside'
  | cons y others => exact each y List.mem_cons_self

/-- The signature of examples does not depend on their order, nor on the order of items and of
entries anywhere in their values: the arguments keep their names, and all types are equal. -/
theorem signature_rearranged (examples others : List Example) (nonempty : examples ≠ [])
    (even : ∀ x ∈ examples, x.inputs.length = arityOf examples)
    (data : ∀ x ∈ examples, x.IsJsonLike)
    (steps : Relation.ReflTransGen AreRearranged examples others) :
    ∃ env goal env' goal', signature examples = .ok (env, goal) ∧
      signature others = .ok (env', goal') ∧
      List.Forall₂ (fun binding binding' => binding.1 = binding'.1 ∧
        binding.2.checkedEqual binding'.2 = .ok true) env env' ∧
      goal.checkedEqual goal' = .ok true := by
  have matched := areMatched_of_reflTransGen steps data
  obtain ⟨nonempty', arity, even'⟩ := matched.even nonempty even
  refine ⟨_, _, _, _, signature_eq_ok nonempty fun x inside => (even x inside).ge,
    signature_eq_ok nonempty' fun y inside => (arity.trans (even' y inside).symm).le, ?_, ?_⟩
  · rw [arity, List.forall₂_map_left_iff, List.forall₂_map_right_iff, List.forall₂_same]
    refine fun i _ => ⟨rfl, ?_⟩
    rw [Ty.checkedEqual_of_isOrdinary (isInferred_argumentType _).isOrdinary
      (isInferred_argumentType _).isOrdinary, Except.ok.injEq]
    exact equal_argumentType (isKeyed_column data i) (isKeyed_column matched.data i)
      (isCovered_column matched.left i) (isCovered_column matched.right i)
  · rw [Ty.checkedEqual_of_isOrdinary (isGeneral_resultType _).isInferred.isOrdinary
      (isGeneral_resultType _).isInferred.isOrdinary, Except.ok.injEq]
    exact equal_resultType data matched

/-- Two examples in the other order, with the keys of a dictionary in a list exchanged. -/
theorem signature_rearranged_nested :
    let x : Example := ⟨[.list [.dict [(.str "a", .int 1), (.str "b", .list [])], .none]], .int 0⟩
    let y : Example := ⟨[.list [.dict [(.str "b", .list []), (.str "a", .int 1)], .none]], .int 0⟩
    let z : Example := ⟨[.str "a"], .list [.bool true, .float .nan]⟩
    ∃ env goal env' goal', signature [x, z] = .ok (env, goal) ∧
      signature [z, y] = .ok (env', goal') ∧
      List.Forall₂ (fun binding binding' => binding.1 = binding'.1 ∧
        binding.2.checkedEqual binding'.2 = .ok true) env env' ∧
      goal.checkedEqual goal' = .ok true := by
  intro x y z
  have entries : x.Rearranges y :=
    .input [] [] (.int 0) (.item [] [.none] (.dict (List.Perm.swap _ _ [])))
  refine signature_rearranged [x, z] [z, y] (by simp) (by decide) (by decide) ?_
  exact .tail (.single (.one [] [z] entries)) (.order (List.Perm.swap z y []))

end Example

end FunctionSynthesis
