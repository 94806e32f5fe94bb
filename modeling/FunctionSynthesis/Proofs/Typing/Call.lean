import FunctionSynthesis.Proofs.Term.Evaluation
import FunctionSynthesis.Proofs.Ty.Known
import FunctionSynthesis.Proofs.Ty.Soundness
import FunctionSynthesis.Proofs.Typing.Totality
import FunctionSynthesis.Proofs.Value.Method

/-!
# What the type of a call promises

Whatever a call computes from members of the types of its parts is a member of
the type of the call by the standard catalog (`containsBy_of_callGives`).
-/

namespace FunctionSynthesis

namespace Ty

/-- The members of a type are of the class under which its methods are listed. -/
theorem containsBy_nominal_of_receiverClass? {classes : Classification} {t : Ty}
    {name : String} {v : Value} (ordinary : t.isOrdinary = true)
    (listed : t.receiverClass? = some name) (member : ContainsBy classes t v) :
    ContainsBy classes (.nominal name) v := by
  cases t with
  | literal w =>
      rw [isOrdinary_literal] at ordinary
      have isClass : name = w.className := by
        simpa [receiverClass?, generalType_of_isScalar ordinary, classOf]
          using listed.symm
      rw [isClass]
      exact containsBy_classOf ordinary member
  | text s =>
      obtain rfl : "str" = name := by simpa [receiverClass?, string] using listed
      obtain rfl : v = .str s := member
      exact Or.inr (classes.atom (.str s) rfl)
  | nominal name' =>
      obtain rfl : name' = name := by simpa [receiverClass?] using listed
      exact member
  | generic base param =>
      obtain rfl : base = name := by simpa [receiverClass?] using listed
      exact isOf_of_containsBy_generic member
  | _ => simp [receiverClass?] at listed

end Ty

namespace Term

open Ty (ContainsBy)

theorem ofMethod?_of_isArithmetic {method : String}
    (arithmetic : isArithmetic method = true) :
    ∃ operator, Operator.ofMethod? method = some operator ∧
      (operator = .add ∨ operator = .multiply) := by
  rw [isArithmetic, Bool.or_eq_true, beq_iff_eq, beq_iff_eq] at arithmetic
  rcases arithmetic with rfl | rfl
  · exact ⟨.add, rfl, Or.inl rfl⟩
  · exact ⟨.multiply, rfl, Or.inr rfl⟩

/-- A call with one argument of a method that is an operator applies it. -/
theorem apply_of_callGives {receiver arg result : Value} {method : String}
    {operator : Operator} (isOperator : Operator.ofMethod? method = some operator)
    (gives : CallGives receiver method [arg] result) :
    operator.apply receiver arg = .ok result := by
  cases gives with
  | applied isOperator' applied =>
      obtain rfl : operator = _ := Option.some.inj (isOperator.symm.trans isOperator')
      exact applied
  | called other _ => simp [isOperator] at other
  | picked same _ => simp [same, Operator.ofMethod?] at isOperator

/-- A text is what a subscript of a text gives. -/
theorem callGives_str_getitem {s : String} {args : List Value} {result : Value}
    (gives : CallGives (.str s) "__getitem__" args result) :
    ∃ t, result = .str t := by
  cases gives with
  | applied isOperator _ => simp [Operator.ofMethod?] at isOperator
  | called _ called => exact Value.callMethod_str_getitem called
  | picked _ picked => exact Value.itemAt_str picked

theorem callGives_list_getitem {items args : List Value} {result : Value}
    (gives : CallGives (.list items) "__getitem__" args result) :
    result ∈ items := by
  cases gives with
  | applied isOperator _ => simp [Operator.ofMethod?] at isOperator
  | called _ called => exact Value.mem_of_callMethod_list called
  | picked _ picked => exact Value.mem_of_itemAt_list picked

theorem callGives_str_add {s : String} {args : List Value} {result : Value}
    (gives : CallGives (.str s) "__add__" args result) : ∃ t, result = .str t := by
  cases gives with
  | applied isOperator applied =>
      obtain rfl : Operator.add = _ := Option.some.inj isOperator
      exact Value.apply_add_str applied
  | called _ called => exact Value.callMethod_str_add called
  | picked same _ => simp at same

theorem callGives_textMethod {s method : String} {args : List Value} {result : Value}
    (known : method ∈ Value.textMethods)
    (gives : CallGives (.str s) method args result) :
    Value.callTextMethod s method args = .ok result := by
  have plain : ∀ m ∈ Value.textMethods, Text.isAscii m = true ∧
      Operator.ofMethod? m = none ∧ m ≠ "__getitem__" := by decide
  obtain ⟨ascii, noOperator, noSubscript⟩ := plain method known
  cases gives with
  | applied isOperator _ => simp [noOperator] at isOperator
  | called _ called =>
      rw [Text.plainForm_of_isAscii ascii] at called
      simpa [Value.callMethod, Value.sampleOf?, Value.callOwnMethod, noOperator,
        noSubscript] using called
  | picked same _ => exact absurd same noSubscript

/-- The listed methods of texts give texts, apart from two. -/
theorem listed_str_cases {method : String} {signature : Signature}
    (listed : ("str", method, signature) ∈ Catalog.standard.entries) :
    (method = "split" ∧ signature.result = .generic "list" .string) ∨
      (method = "startswith" ∧ signature.result = .boolean) ∨
      (method ∈ Value.textValuedMethods ++ ["__add__", "__getitem__"] ∧
        signature.result = .string) := by
  rw [Catalog.entries_standard] at listed
  simp only [List.mem_cons, Prod.mk.injEq, true_and, List.not_mem_nil, or_false]
    at listed
  rcases listed with ⟨rfl, rfl⟩ | ⟨rfl, rfl⟩ | ⟨rfl, rfl⟩ | ⟨rfl, rfl⟩ | ⟨rfl, rfl⟩ |
      ⟨rfl, rfl⟩ | ⟨rfl, rfl⟩ | ⟨rfl, rfl⟩ | ⟨rfl, rfl⟩ | ⟨rfl, rfl⟩ | ⟨rfl, rfl⟩ |
      ⟨impossible, _⟩ <;>
    simp_all [Value.textValuedMethods]

theorem listed_list_cases {method : String} {signature : Signature}
    (listed : ("list", method, signature) ∈ Catalog.standard.entries) :
    method = "__getitem__" ∧ signature.result = .var "T" := by
  rw [Catalog.entries_standard] at listed
  simp only [List.mem_cons, Prod.mk.injEq, String.reduceEq, false_and, true_and,
    List.not_mem_nil, or_false, false_or] at listed
  obtain ⟨rfl, rfl⟩ := listed
  exact ⟨rfl, rfl⟩

theorem className_of_listed {className method : String} {signature : Signature}
    (listed : (className, method, signature) ∈ Catalog.standard.entries) :
    className = "str" ∨ className = "list" := by
  have checked : ∀ entry ∈ Catalog.standard.entries,
      entry.1 = "str" ∨ entry.1 = "list" := by decide
  exact checked _ listed

/-- What a listed method of texts gives is a member of the type that the catalog
gives it. -/
theorem containsBy_of_listed_str {s method : String} {args : List Value}
    {result : Value} {signature : Signature}
    (listed : ("str", method, signature) ∈ Catalog.standard.entries)
    (gives : CallGives (.str s) method args result) :
    ContainsBy .known signature.result result := by
  rcases listed_str_cases listed with ⟨rfl, isTexts⟩ | ⟨rfl, isTruth⟩ | ⟨known, isText⟩
  · rcases Value.callTextMethod_cases (callGives_textMethod (by decide) gives) with
      ⟨impossible, _⟩ | ⟨_, items, rfl, texts⟩ | ⟨impossible, _⟩
    · simp [Value.textValuedMethods] at impossible
    · rw [isTexts, Ty.containsBy_list]
      refine ⟨items, rfl, fun item member => ?_⟩
      obtain ⟨t, rfl⟩ := texts item member
      exact Ty.containsBy_string t
    · simp at impossible
  · rcases Value.callTextMethod_cases (callGives_textMethod (by decide) gives) with
      ⟨impossible, _⟩ | ⟨impossible, _⟩ | ⟨_, b, rfl⟩
    · simp [Value.textValuedMethods] at impossible
    · simp at impossible
    · rw [isTruth]
      exact Or.inr ⟨rfl, rfl⟩
  · have text : ∃ t, result = .str t := by
      rcases List.mem_append.1 known with method | operator
      · have textMethod : ∀ m ∈ Value.textValuedMethods, m ∈ Value.textMethods ∧
            m ≠ "split" ∧ m ≠ "startswith" := by decide
        obtain ⟨textual, notSplit, notStart⟩ := textMethod _ method
        rcases Value.callTextMethod_cases (callGives_textMethod textual gives) with
          ⟨_, text⟩ | ⟨impossible, _⟩ | ⟨impossible, _⟩
        · exact text
        · exact absurd impossible notSplit
        · exact absurd impossible notStart
      · simp only [List.mem_cons, List.not_mem_nil, or_false] at operator
        rcases operator with rfl | rfl
        · exact callGives_str_add gives
        · exact callGives_str_getitem gives
    obtain ⟨t, rfl⟩ := text
    rw [isText]
    exact Ty.containsBy_string t

theorem resultFor_of_listed_str {method : String} {signature : Signature}
    (listed : ("str", method, signature) ∈ Catalog.standard.entries)
    (receiverType : Ty) :
    signature.resultFor receiverType = signature.result := by
  rcases listed_str_cases listed with ⟨_, result⟩ | ⟨_, result⟩ | ⟨_, result⟩ <;>
    simp [Signature.resultFor, result, Ty.boolean, Ty.string]

/-- What a listed method of lists gives is an item, and the type of the call is
the type of the items as far as it is known. -/
theorem containsBy_of_listed_list {receiverType : Ty} {method : String}
    {receiver result : Value} {args : List Value} {signature : Signature}
    (listed : ("list", method, signature) ∈ Catalog.standard.entries)
    (isClass : receiverType.receiverClass? = some "list")
    (receiverMember : ContainsBy .known receiverType receiver)
    (gives : CallGives receiver method args result) :
    ContainsBy .known (signature.resultFor receiverType) result := by
  obtain ⟨rfl, isVar⟩ := listed_list_cases listed
  unfold Signature.resultFor
  rw [isVar]
  cases receiverType with
  | generic base param =>
      obtain rfl : base = "list" := by simpa [Ty.receiverClass?] using isClass
      obtain ⟨items, rfl, all⟩ := (Ty.containsBy_list param receiver).1 receiverMember
      exact all result (callGives_list_getitem gives)
  | _ => exact Ty.containsBy_top result

/-- The type of a call has every value that the call computes from members of the
types of its parts. -/
theorem containsBy_of_callGives {receiverType type : Ty} {argTypes : List Ty}
    {method : String} {receiver result : Value} {args : List Value}
    (receiverOrdinary : receiverType.isOrdinary = true)
    (argsOrdinary : ∀ t ∈ argTypes, t.isOrdinary = true)
    (typed : callType Catalog.standard receiverType method argTypes = .ok type)
    (receiverMember : ContainsBy .known receiverType receiver)
    (argMembers : List.Forall₂ (ContainsBy .known) argTypes args)
    (gives : CallGives receiver method args result) :
    ContainsBy .known type result := by
  -- what is like a text or an integer is one
  have asText {t : Ty} {v : Value} (ordinary : t.isOrdinary = true)
      (textual : t.isStringLike = true) (member : ContainsBy .known t v) :
      ∃ s, v = .str s := by
    rw [Ty.isStringLike, Bool.and_eq_true] at textual
    exact Ty.eq_str_of_containsBy_string
      (Ty.containsBy_of_le ordinary rfl textual.2 member)
  have asInteger {t : Ty} {v : Value} (ordinary : t.isOrdinary = true)
      (integral : t.isIntegerLike = true) (member : ContainsBy .known t v) :
      ∃ n, v = .int n := by
    rw [Ty.isIntegerLike, Bool.and_eq_true] at integral
    exact Ty.eq_int_of_containsBy_integer
      (Ty.containsBy_of_le ordinary rfl integral.2 member)
  unfold callType at typed
  cases direct : directCallType? receiverType method argTypes with
  | some type' =>
      rw [direct] at typed
      obtain rfl := Attempt.pure_eq_ok_iff.1 typed
      rcases directCallType?_cases direct with
        ⟨rfl, arithmetic, integral, argType, rfl, argIntegral⟩ |
        ⟨rfl, rfl, textual, _⟩ | ⟨rfl, rfl, textual⟩
      · obtain ⟨n, rfl⟩ := asInteger receiverOrdinary integral receiverMember
        obtain ⟨arg, _, argMember, none, rfl⟩ := List.forall₂_cons_left_iff.1 argMembers
        obtain rfl := List.forall₂_nil_left_iff.1 none
        obtain ⟨m, rfl⟩ :=
          asInteger (argsOrdinary _ List.mem_cons_self) argIntegral argMember
        obtain ⟨operator, isOperator, kind⟩ := ofMethod?_of_isArithmetic arithmetic
        obtain ⟨k, rfl⟩ :=
          Value.apply_int_int kind (apply_of_callGives isOperator gives)
        exact Or.inr ⟨rfl, rfl⟩
      · obtain ⟨s, rfl⟩ := asText receiverOrdinary textual receiverMember
        obtain ⟨t, rfl⟩ := callGives_str_add gives
        exact Ty.containsBy_string t
      · obtain ⟨s, rfl⟩ := asText receiverOrdinary textual receiverMember
        obtain ⟨t, rfl⟩ := callGives_str_getitem gives
        exact Ty.containsBy_string t
  | none =>
      rw [direct] at typed
      rcases listedCallType_cases method Catalog.isOrdinary_standard
          argsOrdinary with unknown | ⟨className, signature, isClass, listed, _, known⟩
      · obtain rfl : Ty.top = type := Except.ok.inj (unknown.symm.trans typed)
        exact Ty.containsBy_top result
      · obtain rfl : signature.resultFor receiverType = type :=
          Except.ok.inj (known.symm.trans typed)
        have ofClass := Ty.containsBy_nominal_of_receiverClass? receiverOrdinary
          isClass receiverMember
        rcases className_of_listed listed with rfl | rfl
        · obtain ⟨s, rfl⟩ := Ty.eq_str_of_containsBy_string ofClass
          have member := containsBy_of_listed_str listed gives
          rwa [resultFor_of_listed_str listed]
        · exact containsBy_of_listed_list listed isClass receiverMember gives

end Term

end FunctionSynthesis
