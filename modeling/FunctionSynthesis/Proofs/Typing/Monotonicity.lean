import FunctionSynthesis.Proofs.Term.Replacement
import FunctionSynthesis.Proofs.Typing.WellFormed

/-!
# Filling holes narrows types

Every construct of terms is typed monotonically as long as the types of its parts are
neither empty nor unions: calls (`callType_le`), slices (`sliceType_le`) and displays
(`container_le`, `displayType_le`). So a program whose holes are filled with terms of the
promised types has a type below that of the program (`le_of_promises_kept`).
-/

namespace FunctionSynthesis

namespace Ty

/-- Whether a type is below another one and both are well-formed. -/
structure IsWellBelow (a b : Ty) : Prop where
  left : a.IsWellFormed
  right : b.IsWellFormed
  below : a.le b = true

/-- Whether a type is neither empty nor a union. -/
def IsPlain (t : Ty) : Prop :=
  t.isBottom = false ∧ t.isUnion = false

theorem IsWellBelow.refl {t : Ty} (wellFormed : t.IsWellFormed) : t.IsWellBelow t :=
  ⟨wellFormed, wellFormed, le_refl wellFormed.ordinary⟩

theorem IsWellBelow.trans {a b c : Ty} (first : a.IsWellBelow b) (second : b.IsWellBelow c) :
    a.IsWellBelow c :=
  ⟨first.left, second.right, le_trans first.left.toIsRegular first.right.toIsRegular
    second.right.toIsRegular first.below second.below⟩

theorem isWellBelow_top {t : Ty} (wellFormed : t.IsWellFormed) : t.IsWellBelow .top :=
  ⟨wellFormed, isWellFormed_top, le_top t⟩

/-- A plain type is the greatest one or simple. -/
theorem IsPlain.eq_top_or_isSimple {t : Ty} (plain : t.IsPlain) : t = .top ∨ t.IsSimple := by
  rcases extreme_or_isSimple plain.2 with greatest | rfl | simple
  · exact Or.inl greatest
  · exact absurd plain.1 Bool.noConfusion
  · exact Or.inr simple

/-! ### Classes -/

/-- What is below a class other than that of all values and that of records is listed
under it. -/
theorem isNarrower_nominal_iff {t : Ty} {name : String} (ordinary : t.isOrdinary = true)
    (notDict : name ≠ "dict") :
    IsNarrower t (.nominal name) ↔ t.receiverClass? = some name := by
  cases t with
  | literal v =>
      rw [isOrdinary_literal] at ordinary
      simp [IsNarrower, receiverClass?, generalType_of_isScalar ordinary, classOf]
  | record fields => simp [IsNarrower, receiverClass?, notDict]
  | _ => simp [IsNarrower, receiverClass?, string]

theorem receiverClass?_of_le {t : Ty} {name : String} (notObject : name ≠ "object")
    (notDict : name ≠ "dict") (ordinary : t.isOrdinary = true) (plain : t.IsPlain)
    (below : t.le (.nominal name) = true) : t.receiverClass? = some name := by
  rcases plain.eq_top_or_isSimple with rfl | simple
  · simp [top_le_iff] at below
  · rw [le_iff_of_isSimple ordinary (isWellFormed_nominal name).toIsRegular simple rfl] at below
    rcases below with impossible | object | reason
    · cases impossible
    · exact absurd (Ty.nominal.inj object) notObject
    · exact (isNarrower_nominal_iff ordinary notDict).1 reason

theorem isSimple_of_receiverClass? {t : Ty} {name : String}
    (listed : t.receiverClass? = some name) : t.IsSimple := by
  cases t <;> first | exact ⟨rfl, rfl, rfl⟩ | simp [receiverClass?] at listed

theorem le_of_receiverClass? {t : Ty} {name : String} (notDict : name ≠ "dict")
    (ordinary : t.isOrdinary = true) (listed : t.receiverClass? = some name) :
    t.le (.nominal name) = true := by
  rw [le_iff_of_isSimple ordinary (isWellFormed_nominal name).toIsRegular
    (isSimple_of_receiverClass? listed) rfl]
  exact Or.inr (Or.inr ((isNarrower_nominal_iff ordinary notDict).2 listed))

theorem receiverClass?_of_isStringLike {t : Ty} (ordinary : t.isOrdinary = true)
    (plain : t.IsPlain) (textual : t.isStringLike = true) : t.receiverClass? = some "str" := by
  rw [isStringLike, Bool.and_eq_true] at textual
  exact receiverClass?_of_le (by decide) (by decide) ordinary plain textual.2

theorem receiverClass?_of_isIntegerLike {t : Ty} (ordinary : t.isOrdinary = true)
    (plain : t.IsPlain) (integral : t.isIntegerLike = true) : t.receiverClass? = some "int" := by
  rw [isIntegerLike, Bool.and_eq_true] at integral
  exact receiverClass?_of_le (by decide) (by decide) ordinary plain integral.2

theorem IsWellBelow.isStringLike {a b : Ty} (below : a.IsWellBelow b) (plain : a.IsPlain)
    (textual : b.isStringLike = true) : a.isStringLike = true := by
  rw [Ty.isStringLike, Bool.and_eq_true] at textual ⊢
  have string := IsWellBelow.mk below.right (isWellFormed_nominal "str") textual.2
  exact ⟨by simp [plain.1], (below.trans string).below⟩

theorem IsWellBelow.isIntegerLike {a b : Ty} (below : a.IsWellBelow b) (plain : a.IsPlain)
    (integral : b.isIntegerLike = true) : a.isIntegerLike = true := by
  rw [Ty.isIntegerLike, Bool.and_eq_true] at integral ⊢
  have integer := IsWellBelow.mk below.right (isWellFormed_nominal "int") integral.2
  exact ⟨by simp [plain.1], (below.trans integer).below⟩

/-- A plain type below a list type is a list type. -/
theorem IsWellBelow.exists_generic {a param : Ty} {base : String}
    (below : a.IsWellBelow (.generic base param)) (plain : a.IsPlain)
    (own : base ≠ "object") :
    ∃ param', a = .generic base param' ∧ param'.IsWellBelow param := by
  rcases plain.eq_top_or_isSimple with rfl | simple
  · have impossible := below.below
    simp [top_le_iff] at impossible
  · have reason := (le_iff_of_isSimple below.left.ordinary below.right.toIsRegular simple
      rfl).1 below.below
    rcases reason with impossible | impossible | reason
    · cases impossible
    · cases impossible
    · cases a with
      | generic base' param' =>
          obtain rfl := reason.1.resolve_right own
          exact ⟨param', rfl, isWellFormed_generic.1 below.left,
            isWellFormed_generic.1 below.right, reason.2⟩
      | _ => exact reason.elim

/-! ### Containers -/

theorem isWellBelow_promote {a b : Ty} (below : a.IsWellBelow b) :
    a.promote.IsWellBelow b.promote :=
  ⟨isWellFormed_promote below.left, isWellFormed_promote below.right,
    promote_le_promote below.left below.right below.below⟩

theorem isWellBelow_generic {a b : Ty} (base : String) (below : a.IsWellBelow b) :
    (generic base a).IsWellBelow (.generic base b) :=
  ⟨isWellFormed_generic.2 below.left, isWellFormed_generic.2 below.right,
    (generic_le_generic_iff base base a b).2 ⟨Or.inl rfl, below.below⟩⟩

/-- A record with the same names and narrower types is narrower. -/
theorem isWellBelow_record {fields fields' : List (String × Ty)}
    (below : List.Forall₂ (fun field' field => field'.1 = field.1 ∧ field'.2.IsWellBelow field.2)
      fields' fields)
    (wellFormed : (record fields).IsWellFormed) :
    (record fields').IsWellBelow (.record fields) := by
  have sameNames : fields'.map Prod.fst = fields.map Prod.fst := by
    rw [← List.forall₂_eq_eq_eq, List.forall₂_map_left_iff, List.forall₂_map_right_iff]
    exact below.imp fun _ _ => And.left
  have wellFormed' : (record fields').IsWellFormed := by
    refine isWellFormed_record.2 ⟨sameNames ▸ (isWellFormed_record.1 wellFormed).1, ?_⟩
    exact fun field' member => (Attempt.exists_of_mem_right below.flip member).elim
      fun _ h => h.2.2.left
  refine ⟨wellFormed', wellFormed, ?_⟩
  rw [record_le_record_iff fields' wellFormed.toIsRegular]
  intro field member
  obtain ⟨field', member', sameName, narrower⟩ := Attempt.exists_of_mem_right below member
  exact ⟨field'.2, sameName ▸ wellFormed'.toIsRegular.lastField?_of_mem member', narrower.below⟩

theorem isWellBelow_unionOf {types types' : List Ty}
    (below : List.Forall₂ IsWellBelow types' types) :
    (unionOf types').IsWellBelow (unionOf types) := by
  have left : ∀ t ∈ types', t.IsWellFormed := fun t member =>
    (Attempt.exists_of_mem_right below.flip member).elim fun _ h => h.2.left
  have right : ∀ t ∈ types, t.IsWellFormed := fun t member =>
    (Attempt.exists_of_mem_right below member).elim fun _ h => h.2.right
  have joined := isWellFormed_unionOf right
  refine ⟨isWellFormed_unionOf left, joined, ?_⟩
  rw [unionOf_le_iff left joined.toIsRegular]
  intro t member
  obtain ⟨u, inside, narrower⟩ := Attempt.exists_of_mem_right below.flip member
  exact (narrower.trans ⟨right u inside, joined, le_unionOf right u inside⟩).below

end Ty

/-! ### Calls -/

namespace Catalog

/-- Every method of the standard catalog has one signature. -/
theorem lookup?_standard {className method : String} {signature : Signature}
    (listed : (className, method, signature) ∈ standard.entries) :
    standard.lookup? className method = some [signature] := by
  rw [entries_standard] at listed
  simp only [List.mem_cons, Prod.mk.injEq, List.not_mem_nil, or_false] at listed
  rcases listed with ⟨rfl, rfl, rfl⟩ | ⟨rfl, rfl, rfl⟩ | ⟨rfl, rfl, rfl⟩ | ⟨rfl, rfl, rfl⟩ |
    ⟨rfl, rfl, rfl⟩ | ⟨rfl, rfl, rfl⟩ | ⟨rfl, rfl, rfl⟩ | ⟨rfl, rfl, rfl⟩ | ⟨rfl, rfl, rfl⟩ |
    ⟨rfl, rfl, rfl⟩ | ⟨rfl, rfl, rfl⟩ | ⟨rfl, rfl, rfl⟩ <;> rfl

theorem isWellFormed_of_mem_arguments {className method : String} {signature : Signature}
    (listed : (className, method, signature) ∈ standard.entries) :
    ∀ t ∈ signature.arguments, t.IsWellFormed := by
  have plain : ∀ entry ∈ standard.entries, ∀ t ∈ entry.2.2.arguments, t.IsWellFormed := by
    rw [entries_standard]
    simp [Ty.isWellFormed_generic, Ty.string, Ty.integer, Ty.isWellFormed_nominal]
  exact plain _ listed

end Catalog

namespace Signature

theorem takes_iff_forall₂ (signature : Signature) (args : List Ty) :
    signature.takes args = true ↔
      List.Forall₂ (fun arg expected =>
        arg.le expected = true ∨ arg.promote.le expected = true) args signature.arguments := by
  rw [takes, Bool.and_eq_true, beq_iff_eq, List.all_eq_true, List.forall₂_iff_zip, eq_comm]
  simp only [Prod.forall, Bool.or_eq_true]

/-- A signature that takes arguments takes narrower ones. -/
theorem takes_of_isWellBelow {signature : Signature} {args args' : List Ty}
    (wellFormed : ∀ t ∈ signature.arguments, t.IsWellFormed)
    (below : List.Forall₂ Ty.IsWellBelow args' args) (takes : signature.takes args = true) :
    signature.takes args' = true := by
  rw [takes_iff_forall₂] at takes ⊢
  have fits := (List.forall₂_and_left _ _).2 ⟨wellFormed, takes.flip⟩
  refine Attempt.forall₂_of_common (fun arg _ arg' expected narrower fits => ?_) below.flip
    fits.flip
  obtain ⟨expectedWellFormed, fits | fits⟩ := fits
  · exact Or.inl (narrower.trans ⟨narrower.right, expectedWellFormed, fits⟩).below
  · have widened := Ty.isWellBelow_promote narrower
    exact Or.inr (widened.trans ⟨widened.right, expectedWellFormed, fits⟩).below

end Signature

namespace Term

/-- The type of a call of a listed method by its only signature. -/
theorem listedCallType_of_listed {className method : String} {signature : Signature}
    {receiver : Ty} {args : List Ty}
    (listed : (className, method, signature) ∈ Catalog.standard.entries)
    (isClass : receiver.receiverClass? = some className)
    (ordinary : ∀ t ∈ args, t.isOrdinary = true) (takes : signature.takes args = true) :
    listedCallType Catalog.standard receiver method args =
      .ok (signature.resultFor receiver) := by
  have accepts : signature.accepts args = .ok true := by
    rw [Signature.accepts_eq_takes (Catalog.isOrdinary_standard _ listed) ordinary, takes]
  have found : [signature].findM? (fun s => s.accepts args) = .ok (some signature) := by
    rw [List.findM?, accepts]
    rfl
  simp only [listedCallType, isClass, Catalog.lookup?_standard listed, found]
  rfl

/-- An item of a text is a text, at whatever position. -/
theorem directCallType?_getitem {receiver : Ty} {args : List Ty} (given : args ≠ [])
    (textual : receiver.isStringLike = true) :
    directCallType? receiver "__getitem__" args = some .string := by
  match args with
  | [] => exact absurd rfl given
  | [_] => simp [directCallType?, isArithmetic, textual]
  | _ :: _ :: _ => simp [directCallType?, textual]

/-- What two texts are joined to is a text. -/
theorem directCallType?_add {receiver arg : Ty} (ordinary : receiver.isOrdinary = true)
    (plain : receiver.IsPlain) (textual : receiver.isStringLike = true)
    (argTextual : arg.isStringLike = true) :
    directCallType? receiver "__add__" [arg] = some .string := by
  have noInteger : receiver.isIntegerLike = false := by
    rw [← Bool.not_eq_true]
    intro integral
    have first := Ty.receiverClass?_of_isStringLike ordinary plain textual
    have second := Ty.receiverClass?_of_isIntegerLike ordinary plain integral
    simp [first] at second
  simp [directCallType?, isArithmetic, noInteger, textual, argTextual]

theorem directCallType?_nil (receiver : Ty) (method : String) :
    directCallType? receiver method [] = none := by
  simp [directCallType?]

/-- The type of a call that is settled without the catalog is that of all calls with
narrower parts. -/
theorem directCallType?_of_isWellBelow {receiver receiver' type : Ty} {method : String}
    {args args' : List Ty} (below : receiver'.IsWellBelow receiver) (plain : receiver'.IsPlain)
    (argsBelow : List.Forall₂ Ty.IsWellBelow args' args) (argsPlain : ∀ t ∈ args', t.IsPlain)
    (direct : directCallType? receiver method args = some type) :
    directCallType? receiver' method args' = some type := by
  rcases directCallType?_cases direct with
    ⟨rfl, arithmetic, integral, arg, rfl, argIntegral⟩ |
    ⟨rfl, rfl, textual, arg, rfl, argTextual⟩ | ⟨rfl, rfl, textual⟩
  · obtain ⟨arg', _, argBelow, none, rfl⟩ := List.forall₂_cons_right_iff.1 argsBelow
    obtain rfl := List.forall₂_nil_right_iff.1 none
    have argPlain := argsPlain arg' (List.mem_singleton_self arg')
    simp [directCallType?, arithmetic, below.isIntegerLike plain integral,
      argBelow.isIntegerLike argPlain argIntegral]
  · obtain ⟨arg', _, argBelow, none, rfl⟩ := List.forall₂_cons_right_iff.1 argsBelow
    obtain rfl := List.forall₂_nil_right_iff.1 none
    have argPlain := argsPlain arg' (List.mem_singleton_self arg')
    have textual' := below.isStringLike plain textual
    exact directCallType?_add below.left.ordinary plain textual'
      (argBelow.isStringLike argPlain argTextual)
  · refine directCallType?_getitem ?_ (below.isStringLike plain textual)
    rintro rfl
    rw [List.forall₂_nil_left_iff.1 argsBelow, directCallType?_nil] at direct
    cases direct

/-- No call of a method of lists is settled without the catalog. -/
theorem directCallType?_list {receiver : Ty} (ordinary : receiver.isOrdinary = true)
    (plain : receiver.IsPlain) (isList : receiver.receiverClass? = some "list")
    (method : String) (args : List Ty) : directCallType? receiver method args = none := by
  cases direct : directCallType? receiver method args with
  | none => rfl
  | some type =>
      rcases directCallType?_cases direct with ⟨_, _, integral, _⟩ | ⟨_, _, textual, _⟩ |
        ⟨_, _, textual⟩
      · simp [Ty.receiverClass?_of_isIntegerLike ordinary plain integral] at isList
      · simp [Ty.receiverClass?_of_isStringLike ordinary plain textual] at isList
      · simp [Ty.receiverClass?_of_isStringLike ordinary plain textual] at isList

/-- A listed method of texts gives what the catalog says, also where the catalog is not
asked. -/
theorem callType_of_listed_str {method : String} {signature : Signature} {receiver : Ty}
    {args : List Ty} (listed : ("str", method, signature) ∈ Catalog.standard.entries)
    (ordinary : receiver.isOrdinary = true) (plain : receiver.IsPlain)
    (isText : receiver.receiverClass? = some "str")
    (argsOrdinary : ∀ t ∈ args, t.isOrdinary = true) (takes : signature.takes args = true) :
    callType Catalog.standard receiver method args = .ok signature.result := by
  unfold callType
  cases direct : directCallType? receiver method args with
  | none =>
      rw [← resultFor_of_listed_str listed receiver]
      exact listedCallType_of_listed listed isText argsOrdinary takes
  | some type =>
      rcases directCallType?_cases direct with ⟨_, _, integral, _⟩ | ⟨rfl, rfl, _⟩ |
        ⟨rfl, rfl, _⟩
      · simp [Ty.receiverClass?_of_isIntegerLike ordinary plain integral] at isText
      all_goals
        rcases listed_str_cases listed with ⟨other, _⟩ | ⟨other, _⟩ | ⟨_, result⟩
        · simp at other
        · simp at other
        · rw [result]
          rfl

/-- A call of which receiver and arguments are narrower has a narrower type. -/
theorem callType_le {receiver receiver' type type' : Ty} {method : String} {args args' : List Ty}
    (below : receiver'.IsWellBelow receiver) (plain : receiver'.IsPlain)
    (argsBelow : List.Forall₂ Ty.IsWellBelow args' args) (argsPlain : ∀ t ∈ args', t.IsPlain)
    (typed : callType Catalog.standard receiver method args = .ok type)
    (typed' : callType Catalog.standard receiver' method args' = .ok type') :
    type'.IsWellBelow type := by
  have left : ∀ t ∈ args', t.isOrdinary = true := fun t member =>
    (Attempt.exists_of_mem_right argsBelow.flip member).elim fun _ h => h.2.left.ordinary
  have right : ∀ t ∈ args, t.isOrdinary = true := fun t member =>
    (Attempt.exists_of_mem_right argsBelow member).elim fun _ h => h.2.right.ordinary
  have wellFormed := isWellFormed_callType below.left left typed'
  cases direct : directCallType? receiver method args with
  | some known =>
      have direct' := directCallType?_of_isWellBelow below plain argsBelow argsPlain direct
      rw [callType, direct] at typed
      rw [callType, direct'] at typed'
      obtain rfl := Attempt.pure_eq_ok_iff.1 typed
      obtain rfl := Attempt.pure_eq_ok_iff.1 typed'
      exact .refl wellFormed
  | none =>
      rw [callType, direct] at typed
      rcases listedCallType_cases method Catalog.isOrdinary_standard right with
        unknown | ⟨className, signature, isClass, listed, takes, known⟩
      · obtain rfl : Ty.top = type := Except.ok.inj (unknown.symm.trans typed)
        exact Ty.isWellBelow_top wellFormed
      · obtain rfl : signature.resultFor receiver = type :=
          Except.ok.inj (known.symm.trans typed)
        have takes' := Signature.takes_of_isWellBelow
          (Catalog.isWellFormed_of_mem_arguments listed) argsBelow takes
        rcases className_of_listed listed with rfl | rfl
        · have textual := Ty.le_of_receiverClass? (by decide) below.right.ordinary isClass
          have textual' := (below.trans ⟨below.right, Ty.isWellFormed_nominal "str", textual⟩).below
          have isText := Ty.receiverClass?_of_le (by decide) (by decide) below.left.ordinary
            plain textual'
          rw [callType_of_listed_str listed below.left.ordinary plain isText left takes',
            Except.ok.injEq] at typed'
          obtain rfl := typed'
          rw [resultFor_of_listed_str listed]
          exact .refl wellFormed
        · have result := (listed_list_cases listed).2
          cases receiver with
          | generic base param =>
              obtain rfl : base = "list" := by simpa [Ty.receiverClass?] using isClass
              obtain ⟨param', rfl, narrower⟩ := below.exists_generic plain (by decide)
              rw [callType, directCallType?_list below.left.ordinary plain rfl] at typed'
              have known' := listedCallType_of_listed listed
                (show (Ty.generic "list" param').receiverClass? = some "list" from rfl) left takes'
              obtain rfl := Except.ok.inj (known'.symm.trans typed')
              simpa [Signature.resultFor, result] using narrower
          | _ =>
              simp only [Signature.resultFor, result]
              exact Ty.isWellBelow_top wellFormed

/-! ### Slices and displays -/

theorem sliceType_list (param : Ty) :
    sliceType (.generic "list" param) = .generic "list" param.promote :=
  rfl

theorem sliceType_cases (receiver : Ty) :
    (receiver.isStringLike = true ∧ sliceType receiver = .string) ∨
      (∃ param, receiver = .generic "list" param) ∨ sliceType receiver = .top := by
  unfold sliceType
  split
  next textual => exact Or.inl ⟨textual, rfl⟩
  next =>
    split
    next param _ => exact Or.inr (Or.inl ⟨param, rfl⟩)
    next => exact Or.inr (Or.inr rfl)

theorem sliceType_le {receiver receiver' : Ty} (below : receiver'.IsWellBelow receiver)
    (plain : receiver'.IsPlain) : (sliceType receiver').IsWellBelow (sliceType receiver) := by
  rcases sliceType_cases receiver with ⟨textual, known⟩ | ⟨param, rfl⟩ | unknown
  · have known' : sliceType receiver' = .string := by
      unfold sliceType
      exact if_pos (below.isStringLike plain textual)
    rw [known, known']
    exact .refl (Ty.isWellFormed_nominal "str")
  · obtain ⟨param', rfl, narrower⟩ := below.exists_generic plain (by decide)
    rw [sliceType_list, sliceType_list]
    exact Ty.isWellBelow_generic "list" (Ty.isWellBelow_promote narrower)
  · rw [unknown]
    exact Ty.isWellBelow_top (isWellFormed_sliceType below.left)

theorem container_le {types types' : List Ty} (base : String)
    (below : List.Forall₂ Ty.IsWellBelow types' types) :
    (Ty.generic base (Ty.unionOf types').promote).IsWellBelow
      (.generic base (Ty.unionOf types).promote) :=
  Ty.isWellBelow_generic base (Ty.isWellBelow_promote (Ty.isWellBelow_unionOf below))

/-- A display with the same keys and narrower values has a narrower type. -/
theorem displayType_le {entries entries' : List (Term × Term)} {types types' : List (Ty × Ty)}
    {type type' : Ty}
    (below : List.Forall₂ (fun pair' pair => pair'.1 = pair.1 ∧ pair'.2.IsWellBelow pair.2)
      types' types)
    (wellFormed : type.IsWellFormed) (displayed : displayType entries types = .ok type)
    (displayed' : displayType entries' types' = .ok type') : type'.IsWellBelow type := by
  have left : ∀ pair ∈ types', pair.2.isOrdinary = true := fun pair member =>
    (Attempt.exists_of_mem_right below.flip member).elim fun _ h => h.2.2.left.ordinary
  have right : ∀ pair ∈ types, pair.2.isOrdinary = true := fun pair member =>
    (Attempt.exists_of_mem_right below member).elim fun _ h => h.2.2.right.ordinary
  rcases displayType_cases entries right displayed with
    ⟨fields, rfl, rfl⟩ | ⟨⟨pair, member, dynamic⟩, rfl⟩
  · rcases displayType_cases entries' left displayed' with
      ⟨fields', rfl, rfl⟩ | ⟨⟨pair', member', dynamic'⟩, rfl⟩
    · refine Ty.isWellBelow_record ?_ wellFormed
      rw [List.forall₂_map_left_iff, List.forall₂_map_right_iff] at below
      exact below.imp fun _ _ narrower => ⟨Ty.text.inj narrower.1, narrower.2⟩
    · obtain ⟨pair, member, sameKey, _⟩ := Attempt.exists_of_mem_right below.flip member'
      obtain ⟨field, _, rfl⟩ := List.mem_map.1 member
      rw [sameKey] at dynamic'
      cases dynamic'
  · rcases displayType_cases entries' left displayed' with
      ⟨fields', rfl, rfl⟩ | ⟨_, rfl⟩
    · obtain ⟨pair', member', sameKey, _⟩ := Attempt.exists_of_mem_right below member
      obtain ⟨field', _, rfl⟩ := List.mem_map.1 member'
      rw [← sameKey] at dynamic
      cases dynamic
    · refine container_le "dict" ?_
      rw [List.forall₂_map_left_iff, List.forall₂_map_right_iff]
      exact below.imp fun _ _ => And.right

/-! ### Programs -/

/-- Whether a hole is replaced by a tidy term of the type that it promises, and another
leaf by itself. -/
def KeepsPromise (env : Environment) : Term → Term → Prop
  | .hole goal _, u =>
      Everywhere (IsTidyNode env) u ∧
        ∃ type, typeIn Catalog.standard env u = .ok type ∧ type.checkedLe goal = .ok true
  | t, u => u = t

/-- Whether a node, if it displays a record, has no hole in a key. -/
def HasClosedKeys : Term → Prop
  | .record entries => ∀ entry ∈ entries, entry.1.isClosed = true
  | _ => True

/-- Whether the type of a node, if it has one, is neither empty nor a union. -/
def HasPlainType (env : Environment) (node : Term) : Prop :=
  ∀ type, typeIn Catalog.standard env node = .ok type → type.IsPlain

instance (env : Environment) : DecidablePred (HasPlainType env) := fun node =>
  decidable_of_iff (∀ type ∈ (typeIn Catalog.standard env node).toOption,
      type.isBottom = false ∧ type.isUnion = false) <| by
    unfold HasPlainType
    cases typeIn Catalog.standard env node <;> simp [Except.toOption, Ty.IsPlain]

/-- A key without holes stays as it is. -/
theorem eq_of_isClosed {env : Environment} {t u : Term} (closed : t.isClosed = true)
    (replaced : Replaced (KeepsPromise env) t u) : u = t := by
  refine replaced.eq_self fun leaf member _ v related => ?_
  have notHole := List.all_eq_true.1 closed leaf member
  cases leaf with
  | hole goal dependent => cases dependent <;> simp [isRegularHole, isDependentHole] at notHole
  | _ => exact related

/-- Whether a term with its holes filled as promised, if none of its parts has an empty
type or a union, has a type below its own. -/
def Narrows (env : Environment) (t : Term) : Prop :=
  ∀ u type type', Replaced (KeepsPromise env) t u → Everywhere (HasPlainType env) u →
    typeIn Catalog.standard env t = .ok type → typeIn Catalog.standard env u = .ok type' →
    type'.IsWellBelow type

section Constructs

variable {env : Environment}

theorem narrows_of_eq {t : Term}
    (wellFormed : ∀ type, typeIn Catalog.standard env t = .ok type → type.IsWellFormed)
    (kept : ∀ u, Replaced (KeepsPromise env) t u → u = t) : Narrows env t := by
  intro u type type' replaced _ typed typed'
  obtain rfl := kept u replaced
  obtain rfl := Except.ok.inj (typed'.symm.trans typed)
  exact .refl (wellFormed type' typed)

theorem narrows_hole (envWellFormed : env.IsWellFormed) {goal : Ty} (dependent : Bool)
    (goalWellFormed : goal.IsWellFormed) : Narrows env (.hole goal dependent) := by
  intro u type type' replaced _ typed typed'
  obtain ⟨tidy, actual, ofFilling, below⟩ := replaced.related_of_leaf rfl
  obtain rfl : goal = type := Attempt.pure_eq_ok_iff.1 typed
  obtain rfl : actual = type' := Except.ok.inj (ofFilling.symm.trans typed')
  have wellFormed := isWellFormed_of_typeIn envWellFormed tidy ofFilling
  rw [Ty.checkedLe_of_isOrdinary wellFormed.ordinary goalWellFormed.ordinary, Except.ok.injEq]
    at below
  exact ⟨wellFormed, goalWellFormed, below⟩

/-- The types of terms in turn narrow one by one. -/
theorem isWellBelow_of_narrows {ts us : List Term} {types types' : List Ty}
    (narrows : ∀ t ∈ ts, Narrows env t)
    (replaced : List.Forall₂ (Replaced (KeepsPromise env)) ts us)
    (plain : ∀ u ∈ us, Everywhere (HasPlainType env) u)
    (typed : List.Forall₂ (fun t type => typeIn Catalog.standard env t = .ok type) ts types)
    (typed' : List.Forall₂ (fun u type => typeIn Catalog.standard env u = .ok type) us types') :
    List.Forall₂ Ty.IsWellBelow types' types ∧ ∀ type ∈ types', type.IsPlain := by
  constructor
  · refine Attempt.forall₂_of_common ?_ (Attempt.forall₂_comp replaced typed') typed
    rintro t member type' type ⟨u, member', replaced, typed'⟩ typed
    exact narrows t member u type type' replaced (plain u member') typed typed'
  · intro type member
    obtain ⟨u, member', typed'⟩ := Attempt.exists_of_mem_right typed' member
    exact (plain u member').here type typed'

theorem narrows_call {r : Term} {as : List Term} (m : String) (receiver : Narrows env r)
    (args : ∀ t ∈ as, Narrows env t) : Narrows env (.call r m as) := by
  intro u type type' replaced plain typed typed'
  obtain ⟨r', as', rfl, replacedReceiver, replacedArgs⟩ := Replaced.call_iff.1 replaced
  obtain ⟨receiverType, argTypes, ofReceiver, ofArgs, result⟩ := typeIn_call_eq_ok_iff.1 typed
  obtain ⟨receiverType', argTypes', ofReceiver', ofArgs', result'⟩ :=
    typeIn_call_eq_ok_iff.1 typed'
  obtain ⟨_, plainReceiver, plainArgs⟩ := (everywhere_call r' m as').1 plain
  obtain ⟨below, argsPlain⟩ := isWellBelow_of_narrows args replacedArgs plainArgs ofArgs ofArgs'
  exact callType_le (receiver r' _ _ replacedReceiver plainReceiver ofReceiver ofReceiver')
    (plainReceiver.here _ ofReceiver') below argsPlain result result'

theorem narrows_field {r : Term} {as : List Term} (name : String) (receiver : Narrows env r)
    (args : ∀ t ∈ as, Narrows env t) : Narrows env (.field r name as) := by
  intro u type type' replaced plain typed typed'
  obtain ⟨r', as', rfl, replacedReceiver, replacedArgs⟩ := Replaced.field_iff.1 replaced
  obtain ⟨receiverType, argTypes, ofReceiver, ofArgs, result⟩ := typeIn_field_eq_ok_iff.1 typed
  obtain ⟨receiverType', argTypes', ofReceiver', ofArgs', result'⟩ :=
    typeIn_field_eq_ok_iff.1 typed'
  obtain ⟨_, plainReceiver, plainArgs⟩ := (everywhere_field r' name as').1 plain
  obtain ⟨below, argsPlain⟩ := isWellBelow_of_narrows args replacedArgs plainArgs ofArgs ofArgs'
  exact callType_le (receiver r' _ _ replacedReceiver plainReceiver ofReceiver ofReceiver')
    (plainReceiver.here _ ofReceiver') below argsPlain result result'

theorem narrows_array {ts : List Term} (items : ∀ t ∈ ts, Narrows env t) :
    Narrows env (.array ts) := by
  intro u type type' replaced plain typed typed'
  obtain ⟨us, rfl, replacedItems⟩ := Replaced.array_iff.1 replaced
  obtain ⟨types, ofItems, result⟩ := typeIn_array_eq_ok_iff.1 typed
  obtain ⟨types', ofItems', result'⟩ := typeIn_array_eq_ok_iff.1 typed'
  obtain ⟨below, _⟩ := isWellBelow_of_narrows items replacedItems
    ((everywhere_array us).1 plain).2 ofItems ofItems'
  have left : ∀ t ∈ types', t.isOrdinary = true := fun t member =>
    (Attempt.exists_of_mem_right below.flip member).elim fun _ h => h.2.left.ordinary
  have right : ∀ t ∈ types, t.isOrdinary = true := fun t member =>
    (Attempt.exists_of_mem_right below member).elim fun _ h => h.2.right.ordinary
  rw [containerType_of_isOrdinary "list" ts right] at result
  rw [containerType_of_isOrdinary "list" us left] at result'
  obtain rfl := Except.ok.inj result
  obtain rfl := Except.ok.inj result'
  exact container_le "list" below

theorem narrows_slice {r : Term} (a b : Term) (step : Option Term)
    (receiver : Narrows env r) : Narrows env (.slice r a b step) := by
  intro u type type' replaced plain typed typed'
  obtain ⟨r', a', b', step', rfl, replacedReceiver, _⟩ := Replaced.slice_iff.1 replaced
  obtain ⟨receiverType, ofReceiver, rfl⟩ := typeIn_slice_eq_ok_iff.1 typed
  obtain ⟨receiverType', ofReceiver', rfl⟩ := typeIn_slice_eq_ok_iff.1 typed'
  have plainReceiver := ((everywhere_slice r' a' b' step').1 plain).2.1
  exact sliceType_le (receiver r' _ _ replacedReceiver plainReceiver ofReceiver ofReceiver')
    (plainReceiver.here _ ofReceiver')

theorem narrows_record {entries : List (Term × Term)} (distinct : (staticKeys env entries).Nodup)
    (closed : ∀ entry ∈ entries, entry.1.isClosed = true)
    (values : ∀ entry ∈ entries, Narrows env entry.2) : Narrows env (.record entries) := by
  intro u type type' replaced plain typed typed'
  obtain ⟨entries', rfl, replacedEntries⟩ := Replaced.record_iff.1 replaced
  obtain ⟨types, ofEntries, displayed⟩ := typeIn_record_eq_ok_iff.1 typed
  obtain ⟨types', ofEntries', displayed'⟩ := typeIn_record_eq_ok_iff.1 typed'
  have plainEntries := ((everywhere_record entries').1 plain).2
  have below : List.Forall₂ (fun pair' pair =>
      pair'.1 = pair.1 ∧ pair'.2.IsWellBelow pair.2) types' types := by
    refine Attempt.forall₂_of_common ?_ (Attempt.forall₂_comp replacedEntries ofEntries')
      ofEntries
    rintro entry member pair' pair ⟨entry', member', ⟨key, value⟩, ofKey', ofValue'⟩
      ⟨ofKey, ofValue⟩
    rw [eq_of_isClosed (closed entry member) key] at ofKey'
    exact ⟨Except.ok.inj (ofKey'.symm.trans ofKey),
      values entry member _ _ _ value (plainEntries entry' member').2 ofValue ofValue'⟩
  have wellFormed : type.IsWellFormed := isWellFormed_displayType distinct ofEntries
    (fun pair member => (Attempt.exists_of_mem_right below member).elim
      fun _ h => h.2.2.right) displayed
  exact displayType_le below wellFormed displayed displayed'

end Constructs

/-- Every construct narrows with its parts, so tidy terms narrow. -/
theorem narrows_of_everywhere {env : Environment} (envWellFormed : env.IsWellFormed) {t : Term}
    (tidy : Everywhere (IsTidyNode env) t) (closedKeys : Everywhere HasClosedKeys t) :
    Narrows env t := by
  induction t with
  | hole goal dependent =>
      exact narrows_hole envWellFormed dependent ((everywhere_hole goal dependent).1 tidy)
  | call r m as ihReceiver ihArgs =>
      rw [everywhere_call] at tidy closedKeys
      exact narrows_call m (ihReceiver tidy.2.1 closedKeys.2.1) fun t member =>
        ihArgs t member (tidy.2.2 t member) (closedKeys.2.2 t member)
  | field r name as ihReceiver ihArgs =>
      rw [everywhere_field] at tidy closedKeys
      exact narrows_field name (ihReceiver tidy.2.1 closedKeys.2.1) fun t member =>
        ihArgs t member (tidy.2.2 t member) (closedKeys.2.2 t member)
  | array ts ih =>
      rw [everywhere_array] at tidy closedKeys
      exact narrows_array fun t member => ih t member (tidy.2 t member) (closedKeys.2 t member)
  | record entries ih =>
      rw [everywhere_record] at tidy closedKeys
      exact narrows_record tidy.1 closedKeys.1 fun entry member =>
        (ih entry member).2 (tidy.2 entry member).2 (closedKeys.2 entry member).2
  | slice r a b step ihReceiver =>
      rw [everywhere_slice] at tidy closedKeys
      exact narrows_slice a b step (ihReceiver tidy.2.1 closedKeys.2.1)
  | _ =>
      exact narrows_of_eq (fun _ => isWellFormed_of_typeIn envWellFormed tidy)
        fun u replaced => replaced.related_of_leaf rfl

/-- Filling the holes of a program with terms of the promised types never widens its type:
if no part of the filled program has an empty type or a union, its type is below that of
the program. -/
theorem le_of_promises_kept {env : Environment} {program filled : Term} {type type' : Ty}
    (envWellFormed : env.IsWellFormed) (tidy : Everywhere (IsTidyNode env) program)
    (closedKeys : Everywhere HasClosedKeys program)
    (kept : Replaced (KeepsPromise env) program filled)
    (typed : typeIn Catalog.standard env program = .ok type)
    (typed' : typeIn Catalog.standard env filled = .ok type')
    (plain : Everywhere (HasPlainType env) filled) : type'.checkedLe type = .ok true := by
  obtain ⟨left, right, below⟩ := narrows_of_everywhere envWellFormed tidy closedKeys filled type
    type' kept plain typed typed'
  rw [Ty.checkedLe_of_isOrdinary left.ordinary right.ordinary, below]

/-- A record of an item of a list and of a text that is cut, with holes for the list, the
text and what is replaced in it. -/
theorem le_of_promises_kept_display :
    let env : Environment := [("s", .string)]
    let program : Term := .record
      [(.str "n", .field (.hole (.generic "list" .integer) false) "__getitem__" [.int 0]),
        (.str "t", .slice (.call (.hole .string false) "replace" [.hole .string true, .str "b"])
          (.int 0) (.hole .integer false) none)]
    let filled : Term := .record
      [(.str "n", .field (.array [.int 1, .int 2]) "__getitem__" [.int 0]),
        (.str "t", .slice (.call (.var "s") "replace" [.str "a", .str "b"])
          (.int 0) (.int 1) none)]
    ∃ type type', typeIn Catalog.standard env program = .ok type ∧
      typeIn Catalog.standard env filled = .ok type' ∧ type'.checkedLe type = .ok true := by
  intro env program filled
  have envWellFormed : env.IsWellFormed := by
    simp [Environment.IsWellFormed, env, Ty.string, Ty.isWellFormed_nominal]
  have tidy : Everywhere (IsTidyNode env) program := by
    have keys : IsTidyNode env program := by
      change (staticKeys env _).Nodup
      decide
    refine (everywhere_record _).2 ⟨keys, ?_⟩
    simp [IsTidyNode, Ty.string, Ty.integer, Ty.isWellFormed_nominal, Ty.isWellFormed_generic,
      Value.isAtom, Value.isScalar, Term.str, Term.int]
  have closedKeys : Everywhere HasClosedKeys program := by
    have keys : HasClosedKeys program := by
      change ∀ entry ∈ ([_, _] : List (Term × Term)), entry.1.isClosed = true
      decide
    refine (everywhere_record _).2 ⟨keys, ?_⟩
    simp [HasClosedKeys, Term.str, Term.int]
  have known {t : Term} (leaf : t.isLeaf = true) (same : KeepsPromise env t t) :
      Replaced (KeepsPromise env) t t := .leaf leaf same
  have ofList : KeepsPromise env (.hole (.generic "list" .integer) false)
      (.array [.int 1, .int 2]) := by
    refine ⟨?_, _, rfl, rfl⟩
    simp [IsTidyNode, Term.int, Value.isAtom, Value.isScalar]
  have ofText : KeepsPromise env (.hole .string false) (.var "s") :=
    ⟨by simp [IsTidyNode], _, rfl, rfl⟩
  have ofPart : KeepsPromise env (.hole .string true) (.str "a") :=
    ⟨by simp [IsTidyNode, Term.str, Value.isAtom], _, rfl, rfl⟩
  have ofStop : KeepsPromise env (.hole .integer false) (.int 1) :=
    ⟨by simp [IsTidyNode, Term.int, Value.isAtom, Value.isScalar], _, rfl, rfl⟩
  have kept : Replaced (KeepsPromise env) program filled := by
    have item : Replaced (KeepsPromise env)
        (.field (.hole (.generic "list" .integer) false) "__getitem__" [.int 0])
        (.field (.array [.int 1, .int 2]) "__getitem__" [.int 0]) :=
      Replaced.field_iff.2 ⟨_, _, rfl, .leaf rfl ofList, .cons (known rfl rfl) .nil⟩
    have text : Replaced (KeepsPromise env)
        (.call (.hole .string false) "replace" [.hole .string true, .str "b"])
        (.call (.var "s") "replace" [.str "a", .str "b"]) :=
      Replaced.call_iff.2 ⟨_, _, rfl, .leaf rfl ofText,
        .cons (.leaf rfl ofPart) (.cons (known rfl rfl) .nil)⟩
    have cut : Replaced (KeepsPromise env)
        (.slice (.call (.hole .string false) "replace" [.hole .string true, .str "b"])
          (.int 0) (.hole .integer false) none)
        (.slice (.call (.var "s") "replace" [.str "a", .str "b"]) (.int 0) (.int 1) none) :=
      Replaced.slice_iff.2 ⟨_, _, _, _, rfl, text, known rfl rfl, .leaf rfl ofStop, .nil⟩
    exact Replaced.record_iff.2 ⟨_, rfl,
      .cons ⟨known rfl rfl, item⟩ (.cons ⟨known rfl rfl, cut⟩ .nil)⟩
  have plain : ∀ node ∈ filled.walk, HasPlainType env node := by decide
  exact ⟨_, _, rfl, rfl, le_of_promises_kept envWellFormed tidy closedKeys kept rfl rfl plain⟩

end Term

end FunctionSynthesis
