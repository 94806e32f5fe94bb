import FunctionSynthesis.Proofs.Grammar.Expander
import FunctionSynthesis.Proofs.Typing.Layers

/-!
# Layers in what the grammar proposes

For a well-formed goal everything that may be proposed is layered
(`Rule.IsProposed.isLayered`). Holes for the members of a union come for unions only, and
displays for records only, so for a class there is neither in it
(`Rule.IsProposed.isPlain`).
-/

namespace FunctionSynthesis

open Term (Everywhere IsPlainNode IsFinishedNode IsLayered IsBuilt)

/-- Whether all types of a query are well-formed, its variables have different names and its
literals are scalars or texts, to be combined by the methods of the standard catalog. -/
structure Query.IsWellFormed (query : Query) : Prop where
  env : query.env.IsWellFormed
  names : (query.env.map Prod.fst).Nodup
  goal : query.goal.IsWellFormed
  pools : ∀ value ∈ query.pools.all, value.isAtom = true
  catalog : query.catalog = Catalog.standard

theorem Query.IsWellFormed.isOrdinary {query : Query} (wellFormed : query.IsWellFormed) :
    query.IsOrdinary where
  env := fun binding member => (wellFormed.env binding member).ordinary
  goal := wellFormed.goal.ordinary
  pools := wellFormed.pools
  catalog := wellFormed.catalog ▸ Catalog.isOrdinary_standard
  results := wellFormed.catalog ▸ Catalog.item_of_standard

namespace Term

variable {env : Environment}

theorem IsBuilt.isPlain {t : Term} (built : IsBuilt env t) : Everywhere IsPlainNode t := by
  intro node inside
  have here := built node inside
  cases node <;> first | exact here | trivial

theorem IsBuilt.isFinished {t : Term} (built : IsBuilt env t) :
    Everywhere (IsFinishedNode env) t := by
  intro node inside
  have here := built node inside
  cases node <;> first | exact here | trivial

/-! ### Entries that are parsed -/

/-- What a text is split into is a list of texts, as far as anything is known of it. -/
theorem callType_split_cases {receiver type : Ty} {args : List Ty}
    (ordinary : ∀ t ∈ args, t.isOrdinary = true)
    (typed : callType Catalog.standard receiver "split" args = .ok type) :
    type = .top ∨ type = .generic "list" .string := by
  have indirect : directCallType? receiver "split" args = none := by
    cases direct : directCallType? receiver "split" args with
    | none => rfl
    | some _ =>
        rcases directCallType?_cases direct with ⟨_, arithmetic, _⟩ | ⟨_, other, _⟩ | ⟨_, other, _⟩
        · simp [isArithmetic] at arithmetic
        · simp at other
        · simp at other
  rw [callType, indirect] at typed
  rcases listedCallType_cases "split" Catalog.isOrdinary_standard ordinary with
    unknown | ⟨className, signature, _, listed, _, known⟩
  · exact Or.inl (Except.ok.inj (typed.symm.trans unknown))
  · obtain rfl : signature.resultFor receiver = type := Except.ok.inj (known.symm.trans typed)
    rcases className_of_listed listed with rfl | rfl
    · rw [resultFor_of_listed_str listed]
      rcases listed_str_cases listed with ⟨_, result⟩ | ⟨other, _⟩ | ⟨other, _⟩
      · exact Or.inr result
      · simp at other
      · simp [Value.textValuedMethods] at other
    · have other := (listed_list_cases listed).1
      simp at other

/-- The key of an entry that is parsed is not known. -/
theorem staticKey?_keyValueEntry {x : Term} {type : Ty}
    (typed : typeIn Catalog.standard env x.keyValueEntry.1 = .ok type) :
    staticKey? type = none := by
  obtain ⟨pieces, positions, ofPieces, ofPositions, item⟩ := typeIn_field_eq_ok_iff.1 typed
  obtain ⟨receiver, separators, _, ofSeparators, split⟩ := typeIn_call_eq_ok_iff.1 ofPieces
  have single {v : Value} {types : List Ty} (typed : List.Forall₂ (fun t type =>
      typeIn Catalog.standard env t = .ok type) [.literal v] types) : types = [.ofValue v] := by
    obtain ⟨type, rest, here, none, rfl⟩ := List.forall₂_cons_left_iff.1 typed
    rw [List.forall₂_nil_left_iff.1 none, ← Attempt.pure_eq_ok_iff.1 here]
  obtain rfl := single ofPositions
  have ordinary : ∀ t ∈ separators, t.isOrdinary = true := by
    rw [single ofSeparators]
    exact List.forall_mem_singleton.2 rfl
  rcases callType_split_cases ordinary split with rfl | rfl
  · obtain rfl : Ty.top = type := Except.ok.inj (Eq.trans rfl item)
    rfl
  · obtain rfl : Ty.string = type := Except.ok.inj (Eq.trans rfl item)
    rfl

theorem isFinished_keyValueEntries {texts : List Term} (built : ∀ x ∈ texts, IsBuilt env x) :
    Everywhere (IsFinishedNode env) (.record (texts.map keyValueEntry)) := by
  have dynamic : staticKeys env (texts.map keyValueEntry) = [] := by
    rw [staticKeys, List.filterMap_map, List.filterMap_eq_nil_iff]
    intro x _
    cases typed : typeIn Catalog.standard env x.keyValueEntry.1 with
    | ok type => simp [typed, staticKey?_keyValueEntry typed]
    | error fault => simp [typed]
  refine (everywhere_record _).2 ⟨?_, List.forall_mem_map.2 fun x member => ?_⟩
  · change (staticKeys env _).Nodup
    rw [dynamic]
    exact List.nodup_nil
  · have pieces := (built x member).splitAt "="
    exact ⟨(pieces.item 0).isFinished, (pieces.item 1).isFinished⟩

end Term

namespace Rule

variable {query : Query} {goal : Ty} {t : Term}

/-! ### Proposals -/

theorem isPlain_callOf (wellFormed : query.IsWellFormed)
    {entry : String × String × Signature} (callable : entry ∈ query.callableEntries) :
    Everywhere IsPlainNode (callOf entry.1 entry.2.1 entry.2.2) := by
  have listed : entry ∈ Catalog.standard.entries :=
    wellFormed.catalog ▸ (List.mem_filter.1 callable).1
  have classes : ∀ entry ∈ Catalog.standard.entries, ∀ t ∈ entry.2.2.arguments,
      t.isClass = true := by decide
  exact everywhere_callOf (fun _ _ _ => ⟨trivial, trivial⟩)
    ⟨rfl, Ty.isWellFormed_nominal _, rfl⟩ fun t member =>
      ⟨rfl, Catalog.isWellFormed_of_mem_arguments listed t member, classes entry listed t member⟩

/-- No display is proposed for a class, and no hole that is filled from the context. -/
theorem IsProposed.isPlain (wellFormed : query.IsWellFormed) (isClass : goal.isClass = true)
    (proposed : IsProposed query goal t) : Everywhere IsPlainNode t := by
  have undivided : goal.isUndivided = true := by
    cases goal <;> first | rfl | exact absurd isClass Bool.false_ne_true
  obtain ⟨noSplit, noRecord, noText⟩ := shapeless_of_isUndivided undivided query
  cases proposed with
  | built built => exact built.isPlain
  | called callable => exact isPlain_callOf wellFormed callable
  | split proposed => exact absurd (noSplit ▸ proposed) List.not_mem_nil
  | displayed proposed => exact absurd (noRecord ▸ proposed) List.not_mem_nil
  | parsed proposed => exact absurd (noText ▸ proposed) List.not_mem_nil

theorem isLayered_of_mem_caseSplit {env : Environment} (goalWellFormed : goal.IsWellFormed)
    (proposed : t ∈ proposeCaseSplit goal) : IsLayered env t := by
  cases goal with
  | union members =>
      obtain ⟨alternative, inside, rfl⟩ := List.mem_map.1 proposed
      exact .hole true ((Ty.isWellFormed_union.1 goalWellFormed).2 alternative inside)
  | _ => exact absurd proposed List.not_mem_nil

theorem isLayered_of_mem_records {env : Environment} (goalWellFormed : goal.IsWellFormed)
    (proposed : t ∈ proposeRecords goal) : IsLayered env t := by
  cases goal with
  | record fields =>
      obtain ⟨distinct, inner⟩ := Ty.isWellFormed_record.1 goalWellFormed
      obtain ⟨keys, sublist, rfl⟩ := exists_keys_of_mem_records proposed
      let hole (key : String) : String × Term := (key, .hole (fieldGoal fields key) false)
      have layers : IsLayered env (.named (keys.map hole)) := by
        refine .named ?_ (List.forall_mem_map.2 fun key _ => .hole false ?_)
        · rw [List.map_map]
          exact (List.map_id keys).symm ▸ distinct.sublist sublist
        · rcases fieldGoal_cases fields key with same | ⟨field, inside, same⟩
          · exact same ▸ Ty.isWellFormed_of_leaf rfl rfl trivial trivial
          · exact same ▸ inner field inside
      rw [Term.named, List.map_map] at layers
      exact layers
  | _ => exact absurd proposed List.not_mem_nil

/-- All that is proposed for a well-formed goal is layered. -/
theorem IsProposed.isLayered (wellFormed : query.IsWellFormed)
    (goalWellFormed : goal.IsWellFormed) (proposed : IsProposed query goal t) :
    IsLayered query.env t := by
  cases proposed with
  | built built => exact .plain built.isPlain
  | called callable => exact .plain (isPlain_callOf wellFormed callable)
  | split proposed => exact isLayered_of_mem_caseSplit goalWellFormed proposed
  | displayed proposed => exact isLayered_of_mem_records goalWellFormed proposed
  | parsed proposed =>
      obtain ⟨texts, built, rfl⟩ := exists_texts_of_mem_queryStrings proposed
      exact .finished (Term.isFinished_keyValueEntries built)

end Rule

end FunctionSynthesis
