import FunctionSynthesis.Proofs.Attempt
import FunctionSynthesis.Proofs.Term.Structure
import FunctionSynthesis.Proofs.Ty.Ordinary
import FunctionSynthesis.Typing

/-!
# Typing ordinary terms

In an ordinary environment and with an ordinary catalog every term that is built
from literals, variables in scope and holes with ordinary goals has a type, and
this type is ordinary again (`typeIn_of_everywhere`).
-/

namespace FunctionSynthesis

/-- Whether all types of an environment are ordinary. -/
def Environment.IsOrdinary (env : Environment) : Prop :=
  ∀ binding ∈ env, binding.2.isOrdinary = true

def Signature.IsOrdinary (signature : Signature) : Prop :=
  (∀ t ∈ signature.arguments, t.isOrdinary = true) ∧
    signature.result.isOrdinary = true

def Catalog.IsOrdinary (catalog : Catalog) : Prop :=
  ∀ entry ∈ catalog.entries, entry.2.2.IsOrdinary

theorem Environment.isOrdinary_of_typeOf? {env : Environment} {name : String}
    {t : Ty} (ordinary : env.IsOrdinary) (found : env.typeOf? name = some t) :
    t.isOrdinary = true :=
  ordinary _ (Ty.mem_of_firstField? found)

theorem Environment.typeOf?_of_mem {env : Environment} (distinct : (env.map Prod.fst).Nodup)
    {binding : String × Ty} (member : binding ∈ env) :
    env.typeOf? binding.1 = some binding.2 := by
  induction env with
  | nil => exact absurd member List.not_mem_nil
  | cons first env ih =>
      rw [List.map_cons, List.nodup_cons] at distinct
      rcases List.mem_cons.1 member with rfl | later
      · simp [typeOf?, Ty.firstField?]
      · have other : first.1 ≠ binding.1 := fun same =>
          distinct.1 (same ▸ List.mem_map_of_mem later)
        have rest := ih distinct.2 later
        simpa [typeOf?, Ty.firstField?, other] using rest

/-! ### Calls -/

namespace Catalog

theorem entries_standard : standard.entries =
    [("str", "upper", ⟨[], .string, false⟩), ("str", "lower", ⟨[], .string, false⟩),
      ("str", "capitalize", ⟨[], .string, false⟩),
      ("str", "title", ⟨[], .string, false⟩), ("str", "strip", ⟨[], .string, false⟩),
      ("str", "replace", ⟨[.string, .string], .string, false⟩),
      ("str", "split", ⟨[.string], .generic "list" .string, false⟩),
      ("str", "join", ⟨[.generic "list" .string], .string, false⟩),
      ("str", "startswith", ⟨[.string], .boolean, false⟩),
      ("str", "__add__", ⟨[.string], .string, false⟩),
      ("str", "__getitem__", ⟨[.integer], .string, true⟩),
      ("list", "__getitem__", ⟨[.integer], .var "T", true⟩)] :=
  rfl

theorem isOrdinary_standard : standard.IsOrdinary := by
  intro entry member
  rw [entries_standard] at member
  have checked : ∀ entry ∈ standard.entries,
      (entry.2.2.arguments.all Ty.isOrdinary && entry.2.2.result.isOrdinary) = true := by
    decide
  have ordinary := checked entry (entries_standard ▸ member)
  rw [Bool.and_eq_true, List.all_eq_true] at ordinary
  exact ordinary

/-- In the standard catalog only methods that take items have a variable result. -/
theorem item_of_standard : ∀ entry ∈ standard.entries, ∀ name,
    entry.2.2.result = .var name → entry.2.1 = "__getitem__" := by
  rw [entries_standard]
  simp [Ty.string, Ty.boolean]

theorem mem_entries_of_lookup? {catalog : Catalog} {className method : String}
    {signatures : List Signature} {signature : Signature}
    (found : catalog.lookup? className method = some signatures)
    (member : signature ∈ signatures) :
    (className, method, signature) ∈ catalog.entries := by
  obtain ⟨listing, located, rfl⟩ := Option.map_eq_some_iff.1 found
  have listed := List.find?_some located
  have here : listing.className = className ∧ listing.method = method := by
    simpa [isListed] using listed
  obtain ⟨rfl, rfl⟩ := here
  exact List.mem_flatMap.2 ⟨listing, List.mem_of_find?_eq_some located,
    List.mem_map_of_mem member⟩

end Catalog

namespace Signature

/-- Whether arguments may be passed, told without attempts. -/
def takes (signature : Signature) (args : List Ty) : Bool :=
  signature.arguments.length == args.length &&
    (args.zip signature.arguments).all fun pair =>
      pair.1.le pair.2 || pair.1.promote.le pair.2

theorem accepts_eq_takes_of_isHashable {signature : Signature} {args : List Ty}
    (hashable : ∀ t ∈ signature.arguments, t.isHashable = true)
    (argsHashable : ∀ t ∈ args, t.isHashable = true) :
    signature.accepts args = .ok (signature.takes args) := by
  unfold accepts takes
  by_cases sameLength : signature.arguments.length = args.length
  · simp only [sameLength, bne_self_eq_false, Bool.false_eq_true, if_false,
      beq_self_eq_true, Bool.true_and]
    refine Attempt.allM_eq_ok fun pair member => ?_
    have inside := List.of_mem_zip (show (pair.1, pair.2) ∈ _ from member)
    exact Ty.checkedFits_of_isHashable (argsHashable _ inside.1) (hashable _ inside.2)
  · simp [sameLength, pure, Except.pure]

theorem accepts_eq_takes {signature : Signature} {args : List Ty}
    (ordinary : signature.IsOrdinary)
    (argsOrdinary : ∀ t ∈ args, t.isOrdinary = true) :
    signature.accepts args = .ok (signature.takes args) :=
  accepts_eq_takes_of_isHashable
    (fun t member => Ty.isHashable_of_isOrdinary (ordinary.1 t member))
    fun t member => Ty.isHashable_of_isOrdinary (argsOrdinary t member)

theorem isOrdinary_resultFor {signature : Signature} {receiver : Ty}
    (ordinary : signature.IsOrdinary) (receiverOrdinary : receiver.isOrdinary = true) :
    (signature.resultFor receiver).isOrdinary = true := by
  unfold resultFor
  split
  · simpa using receiverOrdinary
  · rfl
  · exact ordinary.2

end Signature

namespace Term

variable {catalog : Catalog} {env : Environment}

/-- The type of a call that is looked up: that of the first signature which
takes the arguments, or the greatest type. -/
theorem listedCallType_cases_of_isHashable {receiver : Ty} (method : String) {args : List Ty}
    (catalogHashable : ∀ entry ∈ catalog.entries, ∀ t ∈ entry.2.2.arguments,
      t.isHashable = true)
    (argsHashable : ∀ t ∈ args, t.isHashable = true) :
    listedCallType catalog receiver method args = .ok .top ∨
      ∃ className signature,
        receiver.receiverClass? = some className ∧
        (className, method, signature) ∈ catalog.entries ∧
        signature.takes args = true ∧
        listedCallType catalog receiver method args =
          .ok (signature.resultFor receiver) := by
  unfold listedCallType
  cases isClass : receiver.receiverClass? with
  | none => exact Or.inl rfl
  | some className =>
      cases found : catalog.lookup? className method with
      | none => exact Or.inl (by simp [found, pure, Except.pure])
      | some signatures =>
          have looked : signatures.findM? (fun s => s.accepts args) =
              .ok (signatures.find? fun s => s.takes args) :=
            Attempt.findM?_eq_ok fun s member => Signature.accepts_eq_takes_of_isHashable
              (catalogHashable _ (Catalog.mem_entries_of_lookup? found member))
              argsHashable
          simp only [found, looked]
          cases chosen : signatures.find? fun s => s.takes args with
          | none => exact Or.inl rfl
          | some signature =>
              refine Or.inr ⟨className, signature, rfl, ?_, ?_, rfl⟩
              · exact Catalog.mem_entries_of_lookup? found
                  (List.mem_of_find?_eq_some chosen)
              · simpa using List.find?_some chosen

theorem listedCallType_cases {receiver : Ty} (method : String) {args : List Ty}
    (catalogOrdinary : catalog.IsOrdinary)
    (argsOrdinary : ∀ t ∈ args, t.isOrdinary = true) :
    listedCallType catalog receiver method args = .ok .top ∨
      ∃ className signature,
        receiver.receiverClass? = some className ∧
        (className, method, signature) ∈ catalog.entries ∧
        signature.takes args = true ∧
        listedCallType catalog receiver method args =
          .ok (signature.resultFor receiver) :=
  listedCallType_cases_of_isHashable method
    (fun entry listed t member =>
      Ty.isHashable_of_isOrdinary ((catalogOrdinary entry listed).1 t member))
    fun t member => Ty.isHashable_of_isOrdinary (argsOrdinary t member)

theorem directCallType?_cases {receiver : Ty} {method : String} {args : List Ty}
    {type : Ty} (direct : directCallType? receiver method args = some type) :
    (type = .integer ∧ isArithmetic method = true ∧ receiver.isIntegerLike = true ∧
        ∃ arg, args = [arg] ∧ arg.isIntegerLike = true) ∨
      (type = .string ∧ method = "__add__" ∧ receiver.isStringLike = true ∧
        ∃ arg, args = [arg] ∧ arg.isStringLike = true) ∨
      (type = .string ∧ method = "__getitem__" ∧
        receiver.isStringLike = true) := by
  have subscript : (if method == "__getitem__" && !args.isEmpty &&
      receiver.isStringLike then some Ty.string else none) = some type →
      type = .string ∧ method = "__getitem__" ∧ receiver.isStringLike = true := by
    intro taken
    simp only [Option.ite_none_right_eq_some, Bool.and_eq_true, beq_iff_eq,
      Option.some.injEq] at taken
    exact ⟨taken.2.symm, taken.1.1.1, taken.1.2⟩
  match args with
  | [] => simp [directCallType?] at direct
  | [arg] =>
      by_cases arithmetic : isArithmetic method = true
      · by_cases integers : (receiver.isIntegerLike && arg.isIntegerLike) = true
        · have result : type = .integer := by
            simpa [directCallType?, arithmetic, integers] using direct.symm
          rw [Bool.and_eq_true] at integers
          exact Or.inl ⟨result, arithmetic, integers.1, arg, rfl, integers.2⟩
        · by_cases texts : (method == "__add__" && receiver.isStringLike &&
              arg.isStringLike) = true
          · have result : type = .string := by
              simpa [directCallType?, arithmetic, integers, texts] using direct.symm
            rw [Bool.and_eq_true, Bool.and_eq_true, beq_iff_eq] at texts
            exact Or.inr (Or.inl ⟨result, texts.1.1, texts.1.2, arg, rfl, texts.2⟩)
          · refine Or.inr (Or.inr (subscript ?_))
            simpa only [directCallType?, arithmetic, integers, texts, Bool.not_true,
              Bool.false_eq_true, if_false] using direct
      · refine Or.inr (Or.inr (subscript ?_))
        simpa only [directCallType?, arithmetic, Bool.not_false, if_true] using direct
  | _ :: _ :: _ =>
      exact Or.inr (Or.inr (subscript (by simpa only [directCallType?] using direct)))

theorem callType_of_isOrdinary {receiver : Ty} {method : String} {args : List Ty}
    (catalogOrdinary : catalog.IsOrdinary)
    (receiverOrdinary : receiver.isOrdinary = true)
    (argsOrdinary : ∀ t ∈ args, t.isOrdinary = true) :
    ∃ type, callType catalog receiver method args = .ok type ∧
      type.isOrdinary = true := by
  unfold callType
  cases direct : directCallType? receiver method args with
  | some type =>
      refine ⟨type, rfl, ?_⟩
      rcases directCallType?_cases direct with ⟨rfl, _⟩ | ⟨rfl, _⟩ | ⟨rfl, _⟩ <;> rfl
  | none =>
      rcases listedCallType_cases method catalogOrdinary argsOrdinary with
        unknown | ⟨_, signature, _, listed, _, known⟩
      · exact ⟨.top, unknown, rfl⟩
      · exact ⟨_, known,
          Signature.isOrdinary_resultFor (catalogOrdinary _ listed) receiverOrdinary⟩

/-! ### Containers -/

theorem containerType_of_isOrdinary (base : String) (items : List Term)
    {types : List Ty} (ordinary : ∀ t ∈ types, t.isOrdinary = true) :
    containerType base items types =
      .ok (.generic base (Ty.unionOf types).promote) := by
  simp [containerType, Ty.unionFails_of_isOrdinary ordinary, pure, Except.pure]

theorem isOrdinary_containerType (base : String) {types : List Ty}
    (ordinary : ∀ t ∈ types, t.isOrdinary = true) :
    (Ty.generic base (Ty.unionOf types).promote).isOrdinary = true := by
  rw [Ty.isOrdinary_generic]
  exact Ty.isOrdinary_promote (Ty.isOrdinary_unionOf ordinary)

theorem displayType_of_isOrdinary (entries : List (Term × Term))
    {types : List (Ty × Ty)}
    (ordinary : ∀ pair ∈ types, pair.2.isOrdinary = true) :
    ∃ type, displayType entries types = .ok type ∧ type.isOrdinary = true := by
  simp only [displayType]
  split
  next fields known =>
    refine ⟨.record fields, rfl, ?_⟩
    rw [Ty.isOrdinary_record]
    intro field inside
    obtain ⟨pair, member, made⟩ :=
      Attempt.exists_of_mem_right (Attempt.forall₂_of_mapM_eq_some known) inside
    obtain ⟨name, _, rfl⟩ := Option.map_eq_some_iff.1 made
    exact ordinary pair member
  next =>
    have values : ∀ t ∈ types.map (·.2), t.isOrdinary = true := by
      intro t inside
      obtain ⟨pair, member, rfl⟩ := List.mem_map.1 inside
      exact ordinary pair member
    exact ⟨_, containerType_of_isOrdinary "dict" _ values,
      isOrdinary_containerType "dict" values⟩

theorem isOrdinary_sliceType {receiver : Ty}
    (ordinary : receiver.isOrdinary = true) :
    (sliceType receiver).isOrdinary = true := by
  unfold sliceType
  split
  · rfl
  · split
    · exact Ty.isOrdinary_promote ordinary
    · rfl

/-! ### Terms -/

theorem liftM_eq_ok_iff {α : Type} {attempt : Except Fault α} {a : α} :
    (liftM attempt : Except TypingError α) = .ok a ↔ attempt = .ok a := by
  cases attempt <;>
    simp [liftM, monadLift, MonadLift.monadLift, Except.mapError]

attribute [local simp] typeIn typesIn entryTypesIn

theorem typesIn_eq_ok_iff (ts : List Term) (types : List Ty) :
    typesIn catalog env ts = .ok types ↔
      List.Forall₂ (fun t type => typeIn catalog env t = .ok type) ts types := by
  induction ts generalizing types with
  | nil =>
      rw [typesIn, Attempt.pure_eq_ok_iff, List.forall₂_nil_left_iff]
      exact eq_comm
  | cons t ts ih =>
      simp only [typesIn, Attempt.bind_eq_ok_iff, Attempt.pure_eq_ok_iff, ih,
        List.forall₂_cons_left_iff]
      constructor
      · rintro ⟨type, here, types, rest, rfl⟩
        exact ⟨type, types, here, rest, rfl⟩
      · rintro ⟨type, types, here, rest, rfl⟩
        exact ⟨type, here, types, rest, rfl⟩

theorem entryTypesIn_eq_ok_iff (entries : List (Term × Term))
    (types : List (Ty × Ty)) :
    entryTypesIn catalog env entries = .ok types ↔
      List.Forall₂ (fun entry pair => typeIn catalog env entry.1 = .ok pair.1 ∧
        typeIn catalog env entry.2 = .ok pair.2) entries types := by
  induction entries generalizing types with
  | nil =>
      rw [entryTypesIn, Attempt.pure_eq_ok_iff, List.forall₂_nil_left_iff]
      exact eq_comm
  | cons entry entries ih =>
      simp only [entryTypesIn, Attempt.bind_eq_ok_iff, Attempt.pure_eq_ok_iff, ih,
        List.forall₂_cons_left_iff]
      constructor
      · rintro ⟨valueType, ofValue, keyType, ofKey, types, rest, rfl⟩
        exact ⟨(keyType, valueType), types, ⟨ofKey, ofValue⟩, rest, rfl⟩
      · rintro ⟨⟨keyType, valueType⟩, types, ⟨ofKey, ofValue⟩, rest, rfl⟩
        exact ⟨valueType, ofValue, keyType, ofKey, types, rest, rfl⟩

theorem typeIn_call_eq_ok_iff {r : Term} {m : String} {as : List Term} {type : Ty} :
    typeIn catalog env (.call r m as) = .ok type ↔
      ∃ receiver args, typeIn catalog env r = .ok receiver ∧
        List.Forall₂ (fun t arg => typeIn catalog env t = .ok arg) as args ∧
        callType catalog receiver m args = .ok type := by
  simp [Attempt.bind_eq_ok_iff, liftM_eq_ok_iff, typesIn_eq_ok_iff]

theorem typeIn_field_eq_ok_iff {r : Term} {name : String} {as : List Term}
    {type : Ty} :
    typeIn catalog env (.field r name as) = .ok type ↔
      ∃ receiver args, typeIn catalog env r = .ok receiver ∧
        List.Forall₂ (fun t arg => typeIn catalog env t = .ok arg) as args ∧
        callType catalog receiver name args = .ok type := by
  simp [Attempt.bind_eq_ok_iff, liftM_eq_ok_iff, typesIn_eq_ok_iff]

theorem typeIn_array_eq_ok_iff {ts : List Term} {type : Ty} :
    typeIn catalog env (.array ts) = .ok type ↔
      ∃ types, List.Forall₂ (fun t type => typeIn catalog env t = .ok type) ts types ∧
        containerType "list" ts types = .ok type := by
  simp [Attempt.bind_eq_ok_iff, liftM_eq_ok_iff, typesIn_eq_ok_iff]

theorem typeIn_record_eq_ok_iff {entries : List (Term × Term)} {type : Ty} :
    typeIn catalog env (.record entries) = .ok type ↔
      ∃ types, List.Forall₂ (fun entry pair =>
          typeIn catalog env entry.1 = .ok pair.1 ∧
          typeIn catalog env entry.2 = .ok pair.2) entries types ∧
        displayType entries types = .ok type := by
  simp [Attempt.bind_eq_ok_iff, liftM_eq_ok_iff, entryTypesIn_eq_ok_iff]

theorem typeIn_slice_eq_ok_iff {r a b : Term} {s : Option Term} {type : Ty} :
    typeIn catalog env (.slice r a b s) = .ok type ↔
      ∃ receiver, typeIn catalog env r = .ok receiver ∧
        sliceType receiver = type := by
  simp only [typeIn, Attempt.bind_eq_ok_iff, Attempt.pure_eq_ok_iff]

theorem typeIn_var_eq_ok_iff {name : String} {type : Ty} :
    typeIn catalog env (.var name) = .ok type ↔ env.typeOf? name = some type := by
  rw [typeIn]
  cases env.typeOf? name <;> simp [pure, Except.pure, throw, throwThe, MonadExceptOf.throw]

/-- Whether a node is one that ordinary terms are built from. -/
def IsOrdinaryNode (env : Environment) : Term → Prop
  | .literal v => v.isAtom = true
  | .var name => (env.typeOf? name).isSome = true
  | .hole goal _ => goal.isOrdinary = true
  | .filled _ _ => False
  | .foreign => False
  | _ => True

/-- A term of ordinary nodes has a type, which is ordinary. -/
theorem typeIn_of_everywhere (catalogOrdinary : catalog.IsOrdinary)
    (envOrdinary : env.IsOrdinary) {t : Term}
    (ordinary : Everywhere (IsOrdinaryNode env) t) :
    ∃ type, typeIn catalog env t = .ok type ∧ type.isOrdinary = true := by
  -- a call and a field access are typed alike
  have called {r : Term} {m : String} {as : List Term}
      (receiverTyped : ∃ type, typeIn catalog env r = .ok type ∧
        type.isOrdinary = true)
      (argsTyped : ∀ t ∈ as, ∃ type, typeIn catalog env t = .ok type ∧
        type.isOrdinary = true) :
      ∃ receiver args, typeIn catalog env r = .ok receiver ∧
        List.Forall₂ (fun t arg => typeIn catalog env t = .ok arg) as args ∧
        ∃ type, callType catalog receiver m args = .ok type ∧
          type.isOrdinary = true := by
    obtain ⟨receiver, typed, receiverOrdinary⟩ := receiverTyped
    obtain ⟨args, pairs⟩ := Attempt.exists_forall₂ argsTyped
    refine ⟨receiver, args, typed, pairs.imp fun _ _ => And.left, ?_⟩
    exact callType_of_isOrdinary catalogOrdinary receiverOrdinary fun arg member =>
      (Attempt.exists_of_mem_right pairs member).elim fun _ h => h.2.2
  induction t with
  | literal v =>
      exact ⟨.ofValue v, rfl,
        Ty.isOrdinary_ofValue ((everywhere_of_leaf rfl).1 ordinary)⟩
  | var name =>
      obtain ⟨type, found⟩ :=
        Option.isSome_iff_exists.1 ((everywhere_of_leaf rfl).1 ordinary)
      exact ⟨type, typeIn_var_eq_ok_iff.2 found,
        Environment.isOrdinary_of_typeOf? envOrdinary found⟩
  | hole goal dependent => exact ⟨goal, rfl, (everywhere_of_leaf rfl).1 ordinary⟩
  | filled goal candidates => exact ((everywhere_of_leaf rfl).1 ordinary).elim
  | foreign => exact ((everywhere_of_leaf rfl).1 ordinary).elim
  | call r m as ihReceiver ihArgs =>
      rw [everywhere_call] at ordinary
      obtain ⟨receiver, args, typed, argsTyped, type, known, result⟩ :=
        called (m := m) (ihReceiver ordinary.2.1)
          fun t member => ihArgs t member (ordinary.2.2 t member)
      exact ⟨type,
        typeIn_call_eq_ok_iff.2 ⟨receiver, args, typed, argsTyped, known⟩, result⟩
  | field r name as ihReceiver ihArgs =>
      rw [everywhere_field] at ordinary
      obtain ⟨receiver, args, typed, argsTyped, type, known, result⟩ :=
        called (m := name) (ihReceiver ordinary.2.1)
          fun t member => ihArgs t member (ordinary.2.2 t member)
      exact ⟨type,
        typeIn_field_eq_ok_iff.2 ⟨receiver, args, typed, argsTyped, known⟩, result⟩
  | array ts ih =>
      rw [everywhere_array] at ordinary
      obtain ⟨types, pairs⟩ := Attempt.exists_forall₂
        fun t member => ih t member (ordinary.2 t member)
      have allOrdinary : ∀ type ∈ types, type.isOrdinary = true := fun type member =>
        (Attempt.exists_of_mem_right pairs member).elim fun _ h => h.2.2
      refine ⟨_, ?_, isOrdinary_containerType "list" allOrdinary⟩
      exact typeIn_array_eq_ok_iff.2 ⟨types, pairs.imp fun _ _ => And.left,
        containerType_of_isOrdinary "list" ts allOrdinary⟩
  | record entries ih =>
      rw [everywhere_record] at ordinary
      have each : ∀ entry ∈ entries, ∃ pair : Ty × Ty,
          (typeIn catalog env entry.1 = .ok pair.1 ∧
            typeIn catalog env entry.2 = .ok pair.2) ∧ pair.2.isOrdinary = true := by
        intro entry member
        obtain ⟨key, ofKey, _⟩ := (ih entry member).1 (ordinary.2 entry member).1
        obtain ⟨value, ofValue, result⟩ :=
          (ih entry member).2 (ordinary.2 entry member).2
        exact ⟨(key, value), ⟨ofKey, ofValue⟩, result⟩
      obtain ⟨types, pairs⟩ := Attempt.exists_forall₂ each
      obtain ⟨type, displayed, result⟩ := displayType_of_isOrdinary entries
        fun pair member =>
          (Attempt.exists_of_mem_right pairs member).elim fun _ h => h.2.2
      exact ⟨type, typeIn_record_eq_ok_iff.2
        ⟨types, pairs.imp fun _ _ => And.left, displayed⟩, result⟩
  | slice r a b s ihReceiver =>
      rw [everywhere_slice] at ordinary
      obtain ⟨receiver, typed, receiverOrdinary⟩ := ihReceiver ordinary.2.1
      exact ⟨sliceType receiver, typeIn_slice_eq_ok_iff.2 ⟨receiver, typed, rfl⟩,
        isOrdinary_sliceType receiverOrdinary⟩

end Term

end FunctionSynthesis
