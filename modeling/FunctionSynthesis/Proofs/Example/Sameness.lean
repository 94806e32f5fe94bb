import FunctionSynthesis.Proofs.Example.Admission
import FunctionSynthesis.Proofs.Example.Summary
import FunctionSynthesis.Proofs.Grammar.Rule
import FunctionSynthesis.Proofs.Trial.Normalization

/-!
# Arguments that are the results

Two values are the same when they are equal and of the same classes throughout
(`Value.isSame`). When in all examples one argument is the same value as the output, the type
of this argument is below the goal (`argumentType_le_resultType`), whether it is the precise
one or had to be widened, and what JSON makes of the argument reproduces the output
(`reproduces_of_isSame`).
-/

namespace FunctionSynthesis

open Attempt (Succeeds)

/-! ### The same values -/

namespace Value

mutual

/-- Whether two values are equal and of the same classes throughout. Sets are not looked
into. -/
def isSame : Value → Value → Bool
  | .list xs, .list ys => areSame xs ys
  | .tuple xs, .tuple ys => areSame xs ys
  | .dict es, .dict fs => es.length == fs.length && haveSame es fs
  | v, w => v.sameLiteral w
termination_by structural v => v

def areSame : List Value → List Value → Bool
  | [], [] => true
  | x :: xs, y :: ys => isSame x y && areSame xs ys
  | _, _ => false
termination_by structural xs => xs

/-- Whether the keys of a dictionary have the same values in another one. -/
def haveSame : Entries → Entries → Bool
  | [], _ => true
  | (k, v) :: es, fs =>
      (fs.any fun f => k.sameLiteral f.1 && isSame v f.2) && haveSame es fs
termination_by structural es => es

end

theorem areSame_iff (xs ys : List Value) :
    areSame xs ys = true ↔ List.Forall₂ (fun x y => x.isSame y = true) xs ys := by
  induction xs generalizing ys with
  | nil => cases ys <;> simp [areSame]
  | cons x xs ih => cases ys <;> simp [areSame, ih]

theorem haveSame_iff (es fs : Entries) :
    haveSame es fs = true ↔
      ∀ e ∈ es, ∃ f ∈ fs, e.1.sameLiteral f.1 = true ∧ e.2.isSame f.2 = true := by
  induction es with
  | nil => simp [haveSame]
  | cons e es ih =>
      obtain ⟨k, v⟩ := e
      rw [haveSame, Bool.and_eq_true, ih, List.forall_mem_cons, List.any_eq_true]
      simp only [Bool.and_eq_true]

theorem isSame_of_isAtom {v w : Value} (atom : v.isAtom = true) :
    v.isSame w = v.sameLiteral w := by
  cases v <;> first | rfl | cases atom

theorem isSame_list_iff (xs : List Value) (w : Value) :
    (Value.list xs).isSame w = true ↔
      ∃ ys, w = .list ys ∧ List.Forall₂ (fun x y => x.isSame y = true) xs ys := by
  cases w with
  | list ys => simp [isSame, areSame_iff]
  | special kind plain literal =>
      have apart : (Value.list xs == .special kind plain literal) = false := rfl
      simp [isSame, sameLiteral, apart]
  | _ =>
      constructor
      · exact Bool.noConfusion
      · rintro ⟨_, shape, _⟩
        cases shape

theorem isSame_dict_iff (es : Entries) (w : Value) :
    (Value.dict es).isSame w = true ↔
      ∃ fs, w = .dict fs ∧ es.length = fs.length ∧
        ∀ e ∈ es, ∃ f ∈ fs, e.1.sameLiteral f.1 = true ∧ e.2.isSame f.2 = true := by
  cases w with
  | dict fs => simp [isSame, haveSame_iff]
  | special kind plain literal =>
      have apart : (Value.dict es == .special kind plain literal) = false := rfl
      simp [isSame, sameLiteral, apart]
  | _ =>
      constructor
      · exact Bool.noConfusion
      · rintro ⟨_, shape, _⟩
        cases shape

/-! ### Data as JSON has it -/

/-- Whether a value is what a JSON text tells: dictionaries have texts as keys, each of them
once, and all numbers are some. -/
structure IsJsonData (v : Value) : Prop where
  json : v.isJson = true
  keyed : v.IsKeyed
  numbers : v.all (fun leaf => !leaf.isNan) = true

theorem IsJsonData.of_mem_list {items : List Value} {item : Value}
    (data : (Value.list items).IsJsonData) (member : item ∈ items) : item.IsJsonData :=
  ⟨(isJson_list items).1 data.json item member,
    (everyDictionary_list items).1 data.keyed item member,
    (all_list _ items).1 data.numbers item member⟩

theorem IsJsonData.of_mem_dict {entries : Entries} {entry : Value × Value}
    (data : (Value.dict entries).IsJsonData) (member : entry ∈ entries) :
    (∃ key, entry.1 = .str key) ∧ entry.2.IsJsonData := by
  obtain ⟨text, json⟩ := (isJson_dict entries).1 data.json entry member
  exact ⟨exists_eq_str_of_text? text, json,
    ((everyDictionary_dict entries).1 data.keyed).2 entry member,
    ((all_dict _ entries).1 data.numbers entry member).2⟩

/-- Induction on data as JSON has it. -/
theorem inductionOnJson {motive : (v : Value) → v.IsJsonData → Prop}
    (atom : ∀ (v : Value) data, v.isAtom = true → motive v data)
    (list : ∀ (items : List Value) (data : (Value.list items).IsJsonData),
      (∀ item (inside : item ∈ items), motive item (data.of_mem_list inside)) →
      motive (.list items) data)
    (dict : ∀ (entries : Entries) (data : (Value.dict entries).IsJsonData),
      (∀ entry (inside : entry ∈ entries), motive entry.2 (data.of_mem_dict inside).2) →
      motive (.dict entries) data)
    (v : Value) (data : v.IsJsonData) : motive v data := by
  induction v using inductionOn with
  | atom v isAtom => exact atom v data isAtom
  | list items ih => exact list items data fun item inside => ih item inside _
  | dict entries ih => exact dict entries data fun entry inside => ih entry inside _
  | tuple items => cases data.json
  | set items => cases data.json
  | special kind plain literal => cases data.json

/-- JSON leaves its own data as they are if all integers can be written. -/
theorem throughJson_eq_self {v : Value} (data : v.IsJsonData) (writable : v.isWritable = true) :
    v.throughJson = .ok v := by
  induction v, data using inductionOnJson with
  | atom v data isAtom =>
      cases v with
      | int n =>
          have written : Json.integerText n = pure (toString n) := if_pos writable
          rw [throughJson, written]
          rfl
      | none => rfl
      | bool b => rfl
      | float x => rfl
      | str s => rfl
      | _ => cases isAtom
  | list items data ih =>
      exact (throughJson_list_iff items _).2 ⟨items, rfl, List.forall₂_same.2 fun item inside =>
        ih item inside ((all_list _ items).1 writable item inside)⟩
  | dict entries data ih =>
      have distinct := ((everyDictionary_dict entries).1 data.keyed).1
      refine (throughJson_dict_iff entries _).2
        ⟨entries, by rw [Entries.ofList_eq_self distinct], List.forall₂_same.2 ?_⟩
      intro entry inside
      obtain ⟨⟨key, isKey⟩, _⟩ := data.of_mem_dict inside
      exact ⟨key, by rw [isKey]; rfl, isKey,
        ih entry inside ((all_dict _ entries).1 writable entry inside).2⟩

/-- Induction on two values that are the same. The keys of a dictionary are found in the other
one by their texts. -/
theorem inductionOnSame {motive : Value → Value → Prop}
    (atom : ∀ v w : Value, v.IsJsonData → w.isAtom = true → w.sameLiteral v = true →
      motive v w)
    (list : ∀ found wanted : List Value, (Value.list found).IsJsonData →
      (Value.list wanted).IsJsonData → List.Forall₂ motive found wanted →
      motive (.list found) (.list wanted))
    (dict : ∀ found wanted : Entries, (Value.dict found).IsJsonData →
      (Value.dict wanted).IsJsonData → wanted.length = found.length →
      (∀ entry ∈ wanted, ∃ v, found.valueOf? (.str entry.1.plainText) = some v ∧
        motive v entry.2) → motive (.dict found) (.dict wanted))
    {v w : Value} (data : v.IsJsonData) (data' : w.IsJsonData) (same : w.isSame v = true) :
    motive v w := by
  induction w, data' using inductionOnJson generalizing v with
  | atom w data' isAtom => exact atom v w data isAtom (isSame_of_isAtom isAtom ▸ same)
  | list wanted data' ih =>
      obtain ⟨found, rfl, pairs⟩ := (isSame_list_iff wanted v).1 same
      have each : List.Forall₂ (fun w v => v.IsJsonData → motive v w) wanted found :=
        ((List.forall₂_and_left _ _).2 ⟨fun w inside => inside, pairs⟩).imp
          fun w v ⟨inside, same⟩ data => ih w inside data same
      exact list found wanted data data' (((List.forall₂_and_left _ _).2
        ⟨fun v inside => data.of_mem_list inside, each.flip⟩).imp fun v w ⟨data, here⟩ => here data)
  | dict wanted data' ih =>
      obtain ⟨found, rfl, many, covered⟩ := (isSame_dict_iff wanted v).1 same
      have distinct := ((everyDictionary_dict found).1 data.keyed).1
      refine dict found wanted data data' many fun ⟨k, w⟩ member => ?_
      obtain ⟨⟨k', v⟩, member', sameKey, same⟩ := covered _ member
      obtain ⟨⟨key, rfl⟩, _⟩ := data'.of_mem_dict member
      obtain ⟨⟨key', rfl⟩, inner⟩ := data.of_mem_dict member'
      obtain rfl : key = key' := by simpa [sameLiteral_iff_equal, className, equal] using sameKey
      exact ⟨v, distinct.valueOf?_of_mem member', ih (.str key, w) member inner same⟩

/-! ### Outputs and types -/

theorem isAtom_of_sameLiteral {v w : Value} (json : v.isJson = true) (atom : w.isAtom = true)
    (same : w.sameLiteral v = true) : v.isAtom = true := by
  obtain ⟨_, same⟩ := (sameLiteral_iff_equal w v).1 same
  cases v with
  | list items => cases w <;> first | cases same | cases atom
  | dict entries => cases w <;> first | cases same | cases atom
  | _ => first | rfl | cases json

theorem agrees_of_sameLiteral {v w : Value} (data : v.IsJsonData) (atom : w.isAtom = true)
    (same : w.sameLiteral v = true) : v.agrees w = true := by
  have atom' := isAtom_of_sameLiteral data.json atom same
  obtain ⟨classes, same⟩ := (sameLiteral_iff_equal w v).1 same
  have truths : v.isTruth = w.isTruth := by
    cases v with
    | bool a =>
        cases w with
        | bool b => rfl
        | special kind plain literal => cases atom
        | _ => simp [className] at classes
    | special kind plain literal => cases atom'
    | _ =>
        cases w with
        | bool b => simp [className] at classes
        | _ => rfl
  exact (agrees_iff v w).2 ⟨truths, isNan_eq_false_of_all atom' data.numbers,
    equal_symm (isHashable_of_isAtom atom') same⟩

/-- A value reproduces what is the same. -/
theorem reproduces_of_isSame {v w : Value} (data : v.IsJsonData) (data' : w.IsJsonData)
    (same : w.isSame v = true) : v.reproduces w = .ok true := by
  refine inductionOnSame (motive := fun v w => v.reproduces w = .ok true) ?atom ?list ?dict
    data data' same
  case atom =>
    intro v w data isAtom same
    rw [reproduces_of_isAtom isAtom, agrees_of_sameLiteral data isAtom same]
  case list =>
    intro found wanted _ _ pairs
    exact (reproduces_sequence_iff _ wanted).2 ⟨found, Or.inl rfl, pairs⟩
  case dict =>
    intro found wanted _ data _ covered
    refine (reproducesEntries_iff found wanted).2 fun entry inside => ⟨?_, covered entry inside⟩
    obtain ⟨⟨key, isKey⟩, _⟩ := data.of_mem_dict inside
    rw [isKey]
    rfl

/-- Two dictionaries with as many keys have the same keys if one has all of the other. -/
theorem keys_subset_of_subset {es fs : Entries} (data : (Value.dict es).IsJsonData)
    (many : es.length = fs.length) (covered : es.map Prod.fst ⊆ fs.map Prod.fst) :
    fs.map Prod.fst ⊆ es.map Prod.fst := by
  have distinct : (es.map Prod.fst).Nodup :=
    (Entries.hasDistinctKeys_iff_nodup fun entry inside => (data.of_mem_dict inside).1).1
      ((everyDictionary_dict es).1 data.keyed).1
  have permuted := (List.subperm_of_subset distinct covered).perm_of_length_le
    (by rw [List.length_map, List.length_map, many])
  exact permuted.symm.subset

theorem isSame_symm {v w : Value} (data : v.IsJsonData) (data' : w.IsJsonData)
    (same : w.isSame v = true) : v.isSame w = true := by
  refine inductionOnSame (motive := fun v w => v.isSame w = true) ?atom ?list ?dict
    data data' same
  case atom =>
    intro v w data isAtom same
    have isAtom' := isAtom_of_sameLiteral data.json isAtom same
    rw [isSame_of_isAtom isAtom']
    exact sameLiteral_symm (isHashable_of_isAtom isAtom') same
  case list =>
    intro found wanted _ _ pairs
    exact (isSame_list_iff found _).2 ⟨wanted, rfl, pairs⟩
  case dict =>
    intro found wanted data data' many covered
    refine (isSame_dict_iff found _).2 ⟨wanted, rfl, many.symm, fun ⟨k, v⟩ member => ?_⟩
    have distinct := ((everyDictionary_dict found).1 data.keyed).1
    have keys : wanted.map Prod.fst ⊆ found.map Prod.fst := by
      intro k inside
      obtain ⟨entry, member, rfl⟩ := List.mem_map.1 inside
      obtain ⟨⟨key, isKey⟩, _⟩ := data'.of_mem_dict member
      obtain ⟨v, located, _⟩ := covered entry member
      rw [isKey] at located ⊢
      exact List.mem_map_of_mem (Entries.mem_of_valueOf? located)
    obtain ⟨entry, member', rfl⟩ := List.mem_map.1
      (keys_subset_of_subset data' many keys (List.mem_map_of_mem member))
    obtain ⟨v', located, same⟩ := covered entry member'
    obtain ⟨⟨key, isKey⟩, _⟩ := data'.of_mem_dict member'
    rw [isKey] at located member
    obtain rfl := Option.some.inj ((distinct.valueOf?_of_mem member).symm.trans located)
    exact ⟨entry, member', sameLiteral_refl (by rw [isKey]; rfl), same⟩

end Value

namespace Ty

theorem promote_ofValue_of_isAtom {v : Value} (atom : v.isAtom = true) :
    (ofValue v).promote = .nominal v.className := by
  cases v <;> first | rfl | cases atom

/-- The type of a value is below the widened one of the same value. -/
theorem ofValue_le_promote_of_isSame {v w : Value} (data : v.IsJsonData) (data' : w.IsJsonData)
    (same : w.isSame v = true) : (ofValue v).le (ofValue w).promote = true := by
  refine Value.inductionOnSame (motive := fun v w => (ofValue v).le (ofValue w).promote = true)
    ?atom ?list ?dict data data' same
  case atom =>
    intro v w data isAtom same
    have atom' := Value.isAtom_of_sameLiteral data.json isAtom same
    rw [promote_ofValue_of_isAtom isAtom, Value.className_eq_of_sameLiteral same,
      ← promote_ofValue_of_isAtom atom']
    exact le_promote (isWellFormed_ofValue atom')
  case list =>
    intro found wanted data data' pairs
    refine list_le_promote_list ?_ ?_ fun v inside => ?_
    · exact fun v inside => isWellFormed_ofValue_of_isKeyed (data.of_mem_list inside).keyed
    · exact fun w inside => isWellFormed_ofValue_of_isKeyed (data'.of_mem_list inside).keyed
    · exact Attempt.exists_of_mem_right pairs.flip inside
  case dict =>
    intro found wanted data data' _ covered
    exact dict_le_promote_dict data.json data.keyed data'.keyed covered

end Ty

/-! ### Examples of a projection -/

namespace Example

/-- Whether examples with as many arguments each have the same value as one of them for their
output. -/
structure AreProjections (examples : List Example) (position : Nat) : Prop where
  nonempty : examples ≠ []
  even : ∀ x ∈ examples, x.inputs.length = arityOf examples
  inputs : ∀ x ∈ examples, ∀ v ∈ x.inputs, v.IsJsonData
  outputs : ∀ x ∈ examples, x.output.IsJsonData
  same : ∀ x ∈ examples, ∃ v, x.inputs[position]? = some v ∧ x.output.isSame v = true

variable {examples : List Example} {position : Nat}

theorem areProjections_singleton {x : Example} {v : Value}
    (inputs : ∀ v ∈ x.inputs, v.IsJsonData) (output : x.output.IsJsonData)
    (given : x.inputs[position]? = some v) (same : x.output.isSame v = true) :
    AreProjections [x] position where
  nonempty := List.cons_ne_nil x []
  even := List.forall_mem_singleton.2 rfl
  inputs := List.forall_mem_singleton.2 inputs
  outputs := List.forall_mem_singleton.2 output
  same := List.forall_mem_singleton.2 ⟨v, given, same⟩

namespace AreProjections

theorem lt_arityOf (projections : AreProjections examples position) :
    position < arityOf examples := by
  obtain ⟨x, inside⟩ := List.exists_mem_of_ne_nil examples projections.nonempty
  obtain ⟨v, found, _⟩ := projections.same x inside
  exact projections.even x inside ▸ (List.getElem?_eq_some_iff.1 found).1

/-- The type of the argument is below the goal, be it the one of a literal or widened. -/
theorem argumentType_le_resultType (projections : AreProjections examples position) :
    (argumentType (examples.filterMap fun x => x.inputs[position]?)).le (resultType examples) =
      true := by
  generalize known : (examples.filterMap fun x => x.inputs[position]?) = column
  have ofColumn : ∀ v ∈ column, ∃ x ∈ examples, x.inputs[position]? = some v :=
    fun v member => List.mem_filterMap.1 (known ▸ member)
  have inner : ∀ v ∈ column, (Ty.ofValue v).IsWellFormed := by
    intro v member
    obtain ⟨x, inside, found⟩ := ofColumn v member
    exact Ty.isWellFormed_ofValue_of_isKeyed
      (projections.inputs x inside v (List.mem_of_getElem? found)).keyed
  have outer : ∀ w ∈ examples.map output, (Ty.ofValue w).IsWellFormed :=
    List.forall_mem_map.2 fun x inside =>
      Ty.isWellFormed_ofValue_of_isKeyed (projections.outputs x inside).keyed
  have below : (Ty.unionOf (column.map Ty.ofValue)).le
      (Ty.unionOf ((examples.map output).map Ty.ofValue)).promote = true := by
    refine Ty.unionOf_le_promote_unionOf inner outer fun v member => ?_
    obtain ⟨x, inside, found⟩ := ofColumn v member
    obtain ⟨v', found', same⟩ := projections.same x inside
    obtain rfl := Option.some.inj (found.symm.trans found')
    exact ⟨x.output, List.mem_map_of_mem inside, Ty.ofValue_le_promote_of_isSame
      (projections.inputs x inside v (List.mem_of_getElem? found)) (projections.outputs x inside)
      same⟩
  have precise := Ty.isWellFormed_unionOf (List.forall_mem_map.2 inner)
  have wide := Ty.isWellFormed_promote (Ty.isWellFormed_unionOf (List.forall_mem_map.2 outer))
  have result : resultType examples =
      (Ty.unionOf ((examples.map output).map Ty.ofValue)).promote := by
    rw [List.map_map]
    rfl
  rw [result]
  unfold argumentType
  dsimp only
  split
  · have widened := Ty.promote_le_promote precise wide below
    have again := Ty.le_of_equal (Ty.promote_promote
      (Ty.isWellFormed_unionOf (List.forall_mem_map.2 outer)))
    exact Ty.le_trans (Ty.isWellFormed_promote precise).toIsRegular
      (Ty.isWellFormed_promote wide).toIsRegular wide.toIsRegular widened again
  · exact below

end AreProjections

end Example

namespace Pools

theorem succeeds_ofExamples (examples : List Example) {maxSize maxLength : Value}
    {size length : Int} (isSize : maxSize = .int size) (isLength : maxLength = .int length) :
    Succeeds (ofExamples examples maxSize maxLength) := by
  have usable (leaf : Value) : ∃ text, usableText? maxLength leaf = .ok text := by
    subst isLength
    unfold usableText?
    split
    · split
      · exact ⟨_, rfl⟩
      · exact ⟨_, rfl⟩
    · exact ⟨_, rfl⟩
  obtain ⟨texts, used⟩ := Attempt.exists_forall₂ fun leaf (_ : leaf ∈ leavesIn examples) =>
    usable leaf
  refine Attempt.succeeds_bind ⟨texts, Attempt.mapM_eq_ok_of_forall₂ used⟩ fun _ _ => ?_
  refine Attempt.succeeds_bind (Limits.succeeds_leading_of_integer isSize _) fun _ _ => ?_
  exact Attempt.succeeds_bind (Limits.succeeds_leading_of_integer isSize _) fun _ _ =>
    Attempt.succeeds_pure _

end Pools

namespace Query

/-- Examples of a projection give a query in which the type of the argument fits the goal. It
can be summed up if the types of all arguments can be written. -/
theorem exists_ofExamples_of_areProjections {examples : List Example} {position : Nat}
    (projections : Example.AreProjections examples position)
    (writable : ∀ i < Example.arityOf examples,
      (Example.argumentType (examples.filterMap fun x => x.inputs[i]?)).isWritable = true)
    {settings : Settings} {size length : Int} (isSize : settings.maxPoolSize = .int size)
    (isLength : settings.maxLiteralLength = .int length) :
    ∃ query type, ofExamples examples settings none = .ok query ∧ query.isWritable = true ∧
      (Term.parameterName position, type) ∈ query.env ∧ type.le query.goal = true := by
  have signature := Example.signature_eq_ok projections.nonempty fun x inside =>
    (projections.even x inside).ge
  obtain ⟨pools, collected⟩ := Pools.succeeds_ofExamples examples isSize isLength
  refine ⟨_, _, Attempt.bind_eq_ok_iff.2 ⟨_, signature, Attempt.bind_eq_ok_iff.2
    ⟨pools, collected, rfl⟩⟩, ?_, ?_, projections.argumentType_le_resultType⟩
  · have goal := (Example.isGeneral_resultType examples).isWritable
    refine Bool.and_eq_true_iff.2 ⟨List.all_eq_true.2 (List.forall_mem_map.2 ?_), goal⟩
    exact fun i below => writable i (List.mem_range.1 below)
  · exact List.mem_map.2 ⟨position, List.mem_range.2 projections.lt_arityOf, rfl⟩

end Query

end FunctionSynthesis
