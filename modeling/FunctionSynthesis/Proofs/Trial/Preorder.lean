import FunctionSynthesis.Proofs.Example.Sameness
import FunctionSynthesis.Proofs.Trial.Comparison

/-!
# The order of outputs

Reproducing is a preorder on data as JSON has it: a dictionary may always have further keys,
and numbers reproduce the ones that they equal. Two outputs that reproduce each other are the
same JSON (`reproduces_preorder`), which `IsSameJson` says without a comparison: it looks up
keys, and asks what a number counts exactly.
-/

namespace FunctionSynthesis.Value

/-! ### The same JSON -/

/-- What a number counts exactly: a rational or one of two infinities. A truth value counts
nothing here. -/
def amount? : Value → Option (Bool ⊕ Rat)
  | .int n => some (.inr n)
  | .float x => x.rank?
  | _ => Option.none

/-- Whether two values are the same JSON. -/
inductive IsSameJson : Value → Value → Prop
  | none : IsSameJson .none .none
  | bool (b : Bool) : IsSameJson (.bool b) (.bool b)
  | str (s : String) : IsSameJson (.str s) (.str s)
  | number {v w : Value} {amount : Bool ⊕ Rat} (left : v.amount? = some amount)
      (right : w.amount? = some amount) : IsSameJson v w
  | list {found wanted : List Value} (items : List.Forall₂ IsSameJson found wanted) :
      IsSameJson (.list found) (.list wanted)
  /-- The order of the keys does not matter. -/
  | dict {found wanted : Entries}
      (entries : ∀ key : String,
        Option.Rel IsSameJson (found.valueOf? (.str key)) (wanted.valueOf? (.str key))) :
      IsSameJson (.dict found) (.dict wanted)

/-- Dictionaries are the same JSON when each key of one is a key of the other one, with a
value that is the same JSON. -/
theorem isSameJson_dict_iff (found wanted : Entries) :
    (Value.dict found).IsSameJson (.dict wanted) ↔
      (∀ key v, found.valueOf? (.str key) = some v →
        ∃ w, wanted.valueOf? (.str key) = some w ∧ v.IsSameJson w) ∧
      ∀ key w, wanted.valueOf? (.str key) = some w →
        ∃ v, found.valueOf? (.str key) = some v ∧ v.IsSameJson w := by
  have atKey (left right : Option Value) : Option.Rel IsSameJson left right ↔
      (∀ v, left = some v → ∃ w, right = some w ∧ v.IsSameJson w) ∧
        ∀ w, right = some w → ∃ v, left = some v ∧ v.IsSameJson w := by
    cases left <;> cases right <;> simp
  constructor
  · intro same
    cases same with
    | number left right => cases left
    | dict entries => exact forall_and.1 fun key => (atKey _ _).1 (entries key)
  · exact fun both => .dict fun key => (atKey _ _).2 ⟨both.1 key, both.2 key⟩

theorem IsSameJson.symm {v w : Value} (same : v.IsSameJson w) : w.IsSameJson v := by
  induction v using inductionOn generalizing w with
  | list found ih =>
      cases same with
      | number left right => cases left
      | list items =>
          exact .list (Attempt.forall₂_imp_of_mem items fun v inside w _ => ih v inside).flip
  | dict found ih =>
      cases same with
      | number left right => cases left
      | @dict _ wanted entries =>
          obtain ⟨covers, covered⟩ := (isSameJson_dict_iff found wanted).1 (.dict entries)
          refine (isSameJson_dict_iff wanted found).2 ⟨fun key w isWanted => ?_,
            fun key v isFound => ?_⟩
          · obtain ⟨v, isFound, same⟩ := covered key w isWanted
            exact ⟨v, isFound, ih (.str key, v) (Entries.mem_of_valueOf? isFound) same⟩
          · obtain ⟨w, isWanted, same⟩ := covers key v isFound
            exact ⟨w, isWanted, ih (.str key, v) (Entries.mem_of_valueOf? isFound) same⟩
  | atom v isAtom =>
      cases same with
      | none => exact .none
      | bool b => exact .bool b
      | str s => exact .str s
      | number left right => exact .number right left
      | list items => cases isAtom
      | dict entries => cases isAtom
  | _ => cases same with | number left right => exact .number right left

/-! ### Atoms -/

/-- JSON data that equals an atom is one. -/
theorem isAtom_of_equal {v w : Value} (json : v.isJson = true) (atom : w.isAtom = true)
    (same : v.equal w = true) : v.isAtom = true := by
  have hashable := isHashable_of_equal (isHashable_of_isAtom atom) same
  cases v <;> first | rfl | cases json | cases hashable

theorem rank?_of_amount? {v : Value} {amount : Bool ⊕ Rat} (counts : v.amount? = some amount) :
    v.isTruth = false ∧ ∃ x, v.number? = some x ∧ x.rank? = some amount := by
  cases v with
  | int n => exact ⟨rfl, _, rfl, counts⟩
  | float x => exact ⟨rfl, _, rfl, counts⟩
  | _ => cases counts

theorem isNan_of_amount? {v : Value} {amount : Bool ⊕ Rat} (counts : v.amount? = some amount) :
    v.isNan = false := by
  cases v with
  | float x => cases x <;> first | rfl | cases counts
  | _ => rfl

theorem exists_amount? {v : Value} {x : Number} (data : v.IsJsonData)
    (truth : v.isTruth = false) (number : v.number? = some x) :
    ∃ amount, x.rank? = some amount ∧ v.amount? = some amount := by
  cases v with
  | int n => exact Option.some.inj number ▸ ⟨_, rfl, rfl⟩
  | float y =>
      obtain rfl := Option.some.inj number
      cases y <;> first | exact ⟨_, rfl, rfl⟩ | cases data.numbers
  | bool b => cases truth
  | _ => cases number

/-- Equal numbers that are no truth values are the same JSON. -/
theorem isSameJson_of_number? {v w : Value} {y : Number} (data : v.IsJsonData)
    (data' : w.IsJsonData) (truth : v.isTruth = false) (truth' : w.isTruth = false)
    (number' : w.number? = some y) (same : w.equal v = true) : v.IsSameJson w := by
  obtain ⟨x, number, ranks⟩ := (equal_iff_of_number? number' v).1 same
  obtain ⟨amount, rank, left⟩ := exists_amount? data truth number
  obtain ⟨amount', rank', right⟩ := exists_amount? data' truth' number'
  obtain rfl : amount' = amount := Option.some.inj (rank'.symm.trans (ranks.trans rank))
  exact .number left right

/-- Data reproduces an atom if it is the same JSON. -/
theorem reproduces_atom_iff {v w : Value} (data : v.IsJsonData) (data' : w.IsJsonData)
    (atom : w.isAtom = true) : v.reproduces w = .ok true ↔ v.IsSameJson w := by
  rw [reproduces_of_isAtom atom, Except.ok.injEq, agrees_iff]
  constructor
  · rintro ⟨truths, _, same⟩
    have symm := equal_symm (isHashable_of_isAtom atom) same
    cases w with
    | none => cases v <;> first | exact .none | cases same
    | bool b =>
        cases v with
        | bool a => cases a <;> cases b <;> first | exact .bool _ | cases same
        | _ => cases truths
    | int n => exact isSameJson_of_number? data data' truths rfl rfl symm
    | float y => exact isSameJson_of_number? data data' truths rfl rfl symm
    | str s => exact (beq_str_iff v s).1 same ▸ .str s
    | _ => cases atom
  · intro same
    cases same with
    | none => exact ⟨rfl, rfl, rfl⟩
    | bool b => exact ⟨rfl, rfl, equal_refl rfl⟩
    | str s => exact ⟨rfl, rfl, equal_refl rfl⟩
    | number left right =>
        obtain ⟨truth, x, number, rank⟩ := rank?_of_amount? left
        obtain ⟨truth', y, number', rank'⟩ := rank?_of_amount? right
        exact ⟨truth.trans truth'.symm, isNan_of_amount? left,
          (equal_iff_of_number? number w).2 ⟨y, number', rank.trans rank'.symm⟩⟩
    | list items => cases atom
    | dict entries => cases atom

/-! ### Items and entries -/

theorem reproduces_list_iff {v : Value} (json : v.isJson = true) (wanted : List Value) :
    v.reproduces (.list wanted) = .ok true ↔
      ∃ found, v = .list found ∧
        List.Forall₂ (fun v w => v.reproduces w = .ok true) found wanted := by
  refine (reproduces_sequence_iff v wanted).trans (exists_congr fun found => ?_)
  refine and_congr_left fun _ => or_iff_left ?_
  rintro rfl
  cases json

/-- What a dictionary reproduces has no other keys than it, and each of its values is
reproduced. -/
theorem reproduces_dict_iff_of_keyed {v : Value} {wanted : Entries}
    (data : (Value.dict wanted).IsJsonData) :
    v.reproduces (.dict wanted) = .ok true ↔
      ∃ found : Entries, v = .dict found ∧ ∀ key w, wanted.valueOf? (.str key) = some w →
        ∃ v, found.valueOf? (.str key) = some v ∧ v.reproduces w = .ok true := by
  have distinct := ((everyDictionary_dict wanted).1 data.keyed).1
  refine (reproduces_dict_iff v wanted).trans (exists_congr fun found => ?_)
  refine and_congr_right fun _ => (reproducesEntries_iff found wanted).trans ?_
  constructor
  · intro covered key w isValue
    exact (covered _ (Entries.mem_of_valueOf? isValue)).2
  · rintro covered ⟨k, w⟩ member
    obtain ⟨⟨key, rfl⟩, _⟩ := data.of_mem_dict member
    exact ⟨rfl, covered key w (distinct.valueOf?_of_mem member)⟩

theorem IsJsonData.of_valueOf? {entries : Entries} {key : String} {v : Value}
    (data : (Value.dict entries).IsJsonData) (isValue : entries.valueOf? (.str key) = some v) :
    v.IsJsonData :=
  (data.of_mem_dict (Entries.mem_of_valueOf? isValue)).2

/-! ### The preorder -/

theorem reproduces_self {v : Value} (data : v.IsJsonData) : v.reproduces v = .ok true := by
  induction v, data using inductionOnJson with
  | atom v data isAtom =>
      rw [reproduces_of_isAtom isAtom,
        agrees_self isAtom (isNan_eq_false_of_all isAtom data.numbers)]
  | list items data ih =>
      refine (reproduces_list_iff data.json items).2 ⟨items, rfl, List.forall₂_same.2 ?_⟩
      exact ih
  | dict entries data ih =>
      refine (reproduces_dict_iff_of_keyed data).2 ⟨entries, rfl, fun key v isValue => ?_⟩
      exact ⟨v, isValue, ih (.str key, v) (Entries.mem_of_valueOf? isValue)⟩

theorem reproduces_trans {u v w : Value} (first : u.IsJsonData) (second : v.IsJsonData)
    (third : w.IsJsonData) (left : u.reproduces v = .ok true) (right : v.reproduces w = .ok true) :
    u.reproduces w = .ok true := by
  induction w, third using inductionOnJson generalizing u v with
  | atom w third isAtom =>
      rw [reproduces_of_isAtom isAtom, Except.ok.injEq, agrees_iff] at right ⊢
      obtain ⟨truths', _, same'⟩ := right
      have isAtom' := isAtom_of_equal second.json isAtom same'
      rw [reproduces_of_isAtom isAtom', Except.ok.injEq, agrees_iff] at left
      obtain ⟨truths, some, same⟩ := left
      exact ⟨truths.trans truths', some, equal_trans (isHashable_of_isAtom isAtom) same same'⟩
  | list wanted third ih =>
      obtain ⟨middle, rfl, rights⟩ := (reproduces_list_iff second.json wanted).1 right
      obtain ⟨found, rfl, lefts⟩ := (reproduces_list_iff first.json middle).1 left
      refine (reproduces_list_iff first.json wanted).2 ⟨found, rfl, ?_⟩
      refine Attempt.forall₂_imp_of_mem (Attempt.forall₂_comp lefts rights) ?_
      rintro u inside w inside'' ⟨v, inside', here, here'⟩
      exact ih w inside'' (first.of_mem_list inside) (second.of_mem_list inside') here here'
  | dict wanted third ih =>
      obtain ⟨middle, rfl, rights⟩ := (reproduces_dict_iff_of_keyed third).1 right
      obtain ⟨found, rfl, lefts⟩ := (reproduces_dict_iff_of_keyed second).1 left
      refine (reproduces_dict_iff_of_keyed third).2 ⟨found, rfl, fun key w isWanted => ?_⟩
      obtain ⟨v, isMiddle, here'⟩ := rights key w isWanted
      obtain ⟨u, isFound, here⟩ := lefts key v isMiddle
      exact ⟨u, isFound, ih (.str key, w) (Entries.mem_of_valueOf? isWanted)
        (first.of_valueOf? isFound) (second.of_valueOf? isMiddle) here here'⟩

/-! ### Outputs that reproduce each other -/

/-- What is the same JSON is reproduced. -/
theorem reproduces_of_isSameJson {v w : Value} (first : v.IsJsonData) (second : w.IsJsonData)
    (same : v.IsSameJson w) : v.reproduces w = .ok true := by
  induction w, second using inductionOnJson generalizing v with
  | atom w second isAtom => exact (reproduces_atom_iff first second isAtom).2 same
  | list wanted second ih =>
      cases same with
      | number left right => cases right
      | list items =>
          refine (reproduces_list_iff first.json wanted).2 ⟨_, rfl, ?_⟩
          exact Attempt.forall₂_imp_of_mem items fun v inside w inside' =>
            ih w inside' (first.of_mem_list inside)
  | dict wanted second ih =>
      cases same with
      | number left right => cases right
      | @dict found _ entries =>
          obtain ⟨_, covered⟩ := (isSameJson_dict_iff found wanted).1 (.dict entries)
          refine (reproduces_dict_iff_of_keyed second).2 ⟨found, rfl, fun key w isWanted => ?_⟩
          obtain ⟨v, isFound, same⟩ := covered key w isWanted
          exact ⟨v, isFound, ih (.str key, w) (Entries.mem_of_valueOf? isWanted)
            (first.of_valueOf? isFound) same⟩

/-- Data that reproduces each other is the same JSON. -/
theorem isSameJson_of_reproduces {v w : Value} (first : v.IsJsonData) (second : w.IsJsonData)
    (left : v.reproduces w = .ok true) (right : w.reproduces v = .ok true) : v.IsSameJson w := by
  induction w, second using inductionOnJson generalizing v with
  | atom w second isAtom => exact (reproduces_atom_iff first second isAtom).1 left
  | list wanted second ih =>
      obtain ⟨found, rfl, lefts⟩ := (reproduces_list_iff first.json wanted).1 left
      obtain ⟨_, same, rights⟩ := (reproduces_list_iff second.json found).1 right
      obtain rfl := Value.list.inj same
      refine .list (Attempt.forall₂_imp_of_mem (Attempt.forall₂_both lefts rights.flip) ?_)
      exact fun v inside w inside' ⟨here, here'⟩ =>
        ih w inside' (first.of_mem_list inside) here here'
  | dict wanted second ih =>
      obtain ⟨found, rfl, lefts⟩ := (reproduces_dict_iff_of_keyed second).1 left
      obtain ⟨_, same, rights⟩ := (reproduces_dict_iff_of_keyed first).1 right
      obtain rfl := Value.dict.inj same
      -- The values of one key are the ones that the two comparisons meet.
      have pair {key : String} {v w : Value} (isFound : found.valueOf? (.str key) = some v)
          (isWanted : wanted.valueOf? (.str key) = some w) : v.IsSameJson w := by
        obtain ⟨_, isFound', here⟩ := lefts key w isWanted
        obtain ⟨_, isWanted', here'⟩ := rights key v isFound
        obtain rfl := Option.some.inj (isFound.symm.trans isFound')
        obtain rfl := Option.some.inj (isWanted.symm.trans isWanted')
        exact ih (.str key, w) (Entries.mem_of_valueOf? isWanted) (first.of_valueOf? isFound)
          here here'
      refine (isSameJson_dict_iff found wanted).2 ⟨?_, ?_⟩
      · intro key v isFound
        obtain ⟨w, isWanted, _⟩ := rights key v isFound
        exact ⟨w, isWanted, pair isFound isWanted⟩
      · intro key w isWanted
        obtain ⟨v, isFound, _⟩ := lefts key w isWanted
        exact ⟨v, isFound, pair isFound isWanted⟩

/-- All keys of JSON data are texts, so that they can be written. -/
theorem IsJsonData.hasWritableKeys {v : Value} (data : v.IsJsonData) :
    v.EveryDictionary Entries.HasWritableKeys := by
  induction v, data using inductionOnJson with
  | atom v data isAtom => exact everyDictionary_of_isAtom isAtom
  | list items data ih => exact (everyDictionary_list items).2 ih
  | dict entries data ih =>
      refine (everyDictionary_dict entries).2 ⟨fun entry inside => ?_, ih⟩
      obtain ⟨⟨key, isKey⟩, _⟩ := data.of_mem_dict inside
      rw [isKey]
      rfl

/-- Reproducing is a preorder on JSON data, in which exactly the same JSON reproduces each
other, and for any two of them a comparison says whether one reproduces the other. -/
theorem reproduces_preorder (u v w : Value) (first : u.IsJsonData) (second : v.IsJsonData)
    (third : w.IsJsonData) :
    (∃ same, u.reproduces v = .ok same) ∧
    u.reproduces u = .ok true ∧
    (u.reproduces v = .ok true → v.reproduces w = .ok true → u.reproduces w = .ok true) ∧
    (u.reproduces v = .ok true ∧ v.reproduces u = .ok true ↔ u.IsSameJson v) := by
  refine ⟨succeeds_reproduces second.hasWritableKeys u, reproduces_self first,
    reproduces_trans first second third, ?_, fun same => ?_⟩
  · exact fun ⟨left, right⟩ => isSameJson_of_reproduces first second left right
  · exact ⟨reproduces_of_isSameJson first second same,
      reproduces_of_isSameJson second first same.symm⟩

/-- Entries in another order with a floating number for an integer, and fewer entries. -/
theorem reproduces_preorder_reordered :
    let u : Value := .dict [(.str "a", .int 1), (.str "b", .list [.bool true, .none])]
    let v : Value := .dict [(.str "b", .list [.bool true, .none]),
      (.str "a", .float (.finite false (2 ^ 52) (-52) (by decide)))]
    let w : Value := .dict [(.str "a", .int 1)]
    u.reproduces w = .ok true ∧ u.IsSameJson v := by
  intro u v w
  obtain ⟨_, _, trans, same⟩ := reproduces_preorder u v w ⟨by decide, by decide, by decide⟩
    ⟨by decide, by decide, by decide⟩ ⟨by decide, by decide, by decide⟩
  exact ⟨trans rfl rfl, same.1 ⟨rfl, rfl⟩⟩

end FunctionSynthesis.Value
