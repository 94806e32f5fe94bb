import FunctionSynthesis.Proofs.Typing.Soundness
import FunctionSynthesis.Proofs.Value.Plain

/-!
# Types of values

A plain value is a member of its precise type and of its general one, and whatever
types it is a member of, it stays one of the types above them and of what they are
widened to (`members_kept`).
-/

namespace FunctionSynthesis.Ty

variable {classes : Classification}

/-! ### Widening literals -/

theorem ofValues_eq_map (values : List Value) : ofValues values = values.map ofValue := by
  induction values with
  | nil => rfl
  | cons v values ih => rw [ofValues, ih, List.map_cons]

/-- Scalars have no class with a parameter, so that both ways to widen them agree. -/
theorem promoteWith_classOf {t : Ty} (ordinary : t.isOrdinary = true) :
    promoteWith classOf t = t.promote := by
  unfold promote
  induction t with
  | literal v =>
      rw [isOrdinary_literal] at ordinary
      rw [promoteWith, promoteWith, generalType_of_isScalar ordinary]
  | generic base param ih =>
      rw [isOrdinary_generic] at ordinary
      rw [promoteWith, promoteWith, ih ordinary]
  | union ts ih =>
      rw [isOrdinary_union] at ordinary
      rw [promoteWith, promoteWith, promoteAllWith_eq_map, promoteAllWith_eq_map,
        List.map_congr_left fun t inside => ih t inside (ordinary t inside)]
  | record fields ih =>
      rw [isOrdinary_record] at ordinary
      have widened : ∀ field ∈ fields, (field.1, promoteWith classOf field.2) =
          (field.1, promoteWith generalType field.2) := by
        intro field inside
        rw [ih field inside (ordinary field inside)]
      rw [promoteWith, promoteWith, promoteFieldsWith_eq_map, promoteFieldsWith_eq_map,
        List.map_congr_left widened]
  | _ => rfl

/-! ### Precise types -/

/-- The fields of a dictionary are its entries, if all keys are texts. -/
theorem forall₂_of_ofEntries? {entries : Entries} {fields : List (String × Ty)}
    (known : ofEntries? entries = some fields) :
    List.Forall₂ (fun (entry : Value × Value) (field : String × Ty) =>
      entry.1 = .str field.1 ∧ field.2 = ofValue entry.2) entries fields := by
  induction entries generalizing fields with
  | nil =>
      obtain rfl := Option.some.inj known
      exact .nil
  | cons entry entries ih =>
      obtain ⟨k, v⟩ := entry
      rw [ofEntries?] at known
      cases k with
      | str key =>
          cases rest : ofEntries? entries with
          | none => simp [rest] at known
          | some others =>
              have joined : (key, ofValue v) :: others = fields := by
                simpa [rest, Value.text?] using known
              subst joined
              exact .cons ⟨rfl, rfl⟩ (ih rest)
      | _ => simp [Value.text?] at known

theorem isOrdinary_ofValue_of_isPlain {v : Value} (plain : v.isPlain = true) :
    (ofValue v).isOrdinary = true := by
  refine Value.inductionOnPlain (fun v atom => isOrdinary_ofValue atom) ?list ?dict v plain
  case list =>
      intro items ih
      have ordinary : ∀ t ∈ ofValues items, t.isOrdinary = true := by
        intro t inside
        rw [ofValues_eq_map] at inside
        obtain ⟨item, here, rfl⟩ := List.mem_map.1 inside
        exact (ih item here).2
      have joined := isOrdinary_unionOf ordinary
      rw [ofValue, isOrdinary_generic, promoteWith_classOf joined]
      exact isOrdinary_promote joined
  case dict =>
      intro entries _ ih
      rw [ofValue]
      cases known : ofEntries? entries with
      | none => rfl
      | some fields =>
          rw [isOrdinary_record]
          intro field inside
          obtain ⟨entry, here, _, type⟩ :=
            Attempt.exists_of_mem_right (forall₂_of_ofEntries? known) inside
          rw [type]
          exact ih entry here

/-- Among the entries of a plain dictionary there is one for every field. -/
theorem exists_valueOf?_of_lastField? {entries : Entries} {fields : List (String × Ty)}
    (plain : (Value.dict entries).isPlain = true)
    (matched : List.Forall₂ (fun (entry : Value × Value) (field : String × Ty) =>
      entry.1 = .str field.1 ∧ field.2 = ofValue entry.2) entries fields)
    {key : String} {t : Ty} (last : lastField? fields key = some t) :
    ∃ v, entries.valueOf? (.str key) = some v ∧ t = ofValue v ∧
      ∃ entry ∈ entries, entry.2 = v := by
  induction matched with
  | nil => simp [lastField?, firstField?] at last
  | @cons entry field entries fields here rest ih =>
      obtain ⟨k, v⟩ := entry
      obtain ⟨name, type⟩ := field
      obtain ⟨isKey, isType⟩ := here
      dsimp only at isKey isType
      subst isKey isType
      obtain ⟨_, _, fresh, plain⟩ := (Value.isPlain_dict_cons _ _ _).1 plain
      rw [lastField?_cons] at last
      by_cases later : hasField fields key = true
      · rw [if_pos later] at last
        obtain ⟨w, found, type, entry, inside, same⟩ := ih plain last
        have different : (Value.str name == .str key) = false := by
          rw [Bool.eq_false_iff, ne_eq, Value.beq_str_iff, Value.str.injEq]
          rintro rfl
          have present : Entries.hasKey entries (.str name) = true := by
            obtain ⟨located, found, _⟩ := Option.map_eq_some_iff.1 found
            exact List.any_eq_true.2
              ⟨located, List.mem_of_find?_eq_some found, by simpa using List.find?_some found⟩
          exact absurd (fresh.symm.trans present) Bool.false_ne_true
        refine ⟨w, ?_, type, entry, List.mem_cons_of_mem _ inside, same⟩
        simpa [Entries.valueOf?, List.find?_cons, different] using found
      · rw [if_neg later] at last
        by_cases same : name = key
        · subst same
          rw [if_pos (beq_self_eq_true name), Option.some.injEq] at last
          refine ⟨v, ?_, last.symm, (.str name, v), List.mem_cons_self, rfl⟩
          simp [Entries.valueOf?, Value.beq_str_iff]
        · simp [same] at last

theorem containsBy_ofValue_of_isPlain {v : Value} (plain : v.isPlain = true) :
    ContainsBy classes (ofValue v) v := by
  refine Value.inductionOnPlain (fun v atom => Term.containsBy_ofValue atom)
    ?list ?dict v plain
  case list =>
      intro items ih
      have ordinary : ∀ t ∈ ofValues items, t.isOrdinary = true := by
        intro t inside
        rw [ofValues_eq_map] at inside
        obtain ⟨item, here, rfl⟩ := List.mem_map.1 inside
        exact isOrdinary_ofValue_of_isPlain (ih item here).1
      rw [ofValue, promoteWith_classOf (isOrdinary_unionOf ordinary), containsBy_list]
      refine ⟨items, rfl, fun item here => ?_⟩
      have inside : ofValue item ∈ ofValues items := by
        rw [ofValues_eq_map]
        exact List.mem_map_of_mem here
      exact Term.containsBy_promote_unionOf ordinary inside (ih item here).2
  case dict =>
      intro entries plain ih
      rw [ofValue]
      cases known : ofEntries? entries with
      | none => exact Or.inr (classes.dict entries)
      | some fields =>
          rw [containsBy_record]
          refine ⟨entries, rfl, fun key t last => ?_⟩
          obtain ⟨v, found, rfl, entry, inside, rfl⟩ :=
            exists_valueOf?_of_lastField? plain (forall₂_of_ofEntries? known) last
          exact ⟨entry.2, found, ih entry inside⟩

theorem containsBy_generalType_of_isPlain {v : Value} (plain : v.isPlain = true) :
    ContainsBy classes (generalType v) v := by
  have ordinary := isOrdinary_ofValue_of_isPlain plain
  have widened : ContainsBy classes (promoteWith classOf (ofValue v)) v := by
    rw [promoteWith_classOf ordinary]
    exact containsBy_promote ordinary (containsBy_ofValue_of_isPlain plain)
  have ofClass (atom : v.isAtom = true) : ContainsBy classes (classOf v) v :=
    Or.inr (classes.atom v atom)
  cases v with
  | list items => exact widened
  | dict entries => exact widened
  | tuple items => exact widened
  | _ => exact ofClass plain

/-! ### Members -/

/-- What a plain value is a member of: a type above one that has it, its precise type
and its general one, and the widening of every type that has it. -/
theorem members_kept {v : Value} (plain : v.isPlain = true) :
    (∀ a b : Ty, a.isOrdinary = true → b.isOrdinary = true → a.checkedLe b = .ok true →
      a.Contains v → b.Contains v) ∧
    (ofValue v).Contains v ∧ (generalType v).Contains v ∧
    ∀ t : Ty, t.isOrdinary = true → t.Contains v → t.promote.Contains v := by
  refine ⟨fun a b ha hb below member => ?_, containsBy_ofValue_of_isPlain plain,
    containsBy_generalType_of_isPlain plain, fun t ordinary member => ?_⟩
  · rw [checkedLe_of_isOrdinary ha hb, Except.ok.injEq] at below
    exact containsBy_of_le ha hb below member
  · exact containsBy_promote ordinary member

/-- A dictionary with keys of several kinds inside one with texts only, a record in
which a name is given twice below a union in a union, and a record that is widened. -/
theorem members_kept_nested :
    let v : Value := .dict [(.str "a", .list [.int 1, .none]),
      (.str "b", .dict [(.int 0, .str "x"), (.none, .bool true)])]
    let narrow : Ty := .record [("a", .string), ("a", .generic "list" .top),
      ("b", .nominal "dict")]
    let wide : Ty := .union [.union [.unit, .record [("a", .nominal "list")]], .integer]
    wide.Contains v ∧ (ofValue v).Contains v ∧ (generalType v).Contains v ∧
      narrow.promote.Contains v := by
  intro v narrow wide
  have plain : v.isPlain = true := by decide
  have member : narrow.Contains v := by
    have absent : (Value.str "a" == Value.str "b") = false := by decide
    simp [narrow, v, Ty.Contains, ContainsBy, FieldsContainBy, hasField, Entries.valueOf?,
      Value.beq_str_iff, absent, Classification.byName, Value.className]
  obtain ⟨upward, precise, general, widened⟩ := members_kept plain
  have below : narrow.checkedLe wide = .ok true := by rfl
  exact ⟨upward narrow wide rfl rfl below member, precise, general,
    widened narrow rfl member⟩

end FunctionSynthesis.Ty
