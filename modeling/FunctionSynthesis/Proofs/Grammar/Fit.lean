import FunctionSynthesis.Proofs.Example.Inference

/-!
# Proposals fit their goals

The rules choose what they propose by tests of their own on the goal and on the variables. For
a query that is inferred from examples these tests agree with the types of terms: terms of a
class stay in it when they are combined (`isTextual_isOfClass`, `IsOfClass.plus`), and whatever
is proposed for a goal has a type below the goal (`fits_of_mem_propose`).
-/

namespace FunctionSynthesis

/-! ### Integers and texts among types -/

namespace Ty

variable {t : Ty}

theorem le_nominal_of_isSimple {name : String} (simple : t.IsSimple)
    (below : t.le (.nominal name) = true) : (!t.isBottom && t.le (.nominal name)) = true := by
  rw [simple.2.1, below]
  rfl

theorem isIntegerLike_of_receiverClass? (ordinary : t.isOrdinary = true)
    (listed : t.receiverClass? = some "int") : t.isIntegerLike = true :=
  le_nominal_of_isSimple (isSimple_of_receiverClass? listed)
    (le_of_receiverClass? (by decide) ordinary listed)

theorem isStringLike_of_receiverClass? (ordinary : t.isOrdinary = true)
    (listed : t.receiverClass? = some "str") : t.isStringLike = true :=
  le_nominal_of_isSimple (isSimple_of_receiverClass? listed)
    (le_of_receiverClass? (by decide) ordinary listed)

theorem IsGeneral.eq_integer (general : t.IsGeneral) (integral : t.isIntegerLike = true) :
    t = .integer := by
  rw [isIntegerLike, Bool.and_eq_true, Bool.not_eq_true'] at integral
  refine general.eq_nominal_of_le ?_ (by decide) integral.2
  rintro rfl
  exact Bool.noConfusion integral.1

theorem IsGeneral.eq_string (general : t.IsGeneral) (textual : t.isStringLike = true) :
    t = .string := by
  rw [isStringLike, Bool.and_eq_true, Bool.not_eq_true'] at textual
  refine general.eq_nominal_of_le ?_ (by decide) textual.2
  rintro rfl
  exact Bool.noConfusion textual.1

end Ty

namespace Query

variable {query : Query} {goal : Ty} {t u : Term}

/-- Whether a term has a type below a goal. -/
def Fits (query : Query) (goal : Ty) (t : Term) : Prop :=
  ∃ type, t.typeIn query.catalog query.env = .ok type ∧ type.checkedLe goal = .ok true

/-- Whether a term has a type that is listed under a class. -/
def IsOfClass (query : Query) (className : String) (t : Term) : Prop :=
  ∃ type, t.typeIn query.catalog query.env = .ok type ∧ type.isOrdinary = true ∧
    type.receiverClass? = some className

/-! ### Terms of a class -/

theorem isOfClass_int (n : Int) : query.IsOfClass "int" (.literal (.int n)) :=
  ⟨_, rfl, rfl, rfl⟩

theorem isOfClass_str (s : String) : query.IsOfClass "str" (.str s) :=
  ⟨_, rfl, rfl, rfl⟩

/-- The variables that are chosen for being below a class are of it: their types are no
unions, since these would be widened and no union of classes is below one of them. -/
theorem IsInferred.isOfClass_var (inferred : query.IsInferred) {className name : String}
    (proper : className ∉ ["object", "list", "dict"])
    (member : name ∈ query.env.namesWhere fun t => !t.isBottom && t.le (.nominal className)) :
    query.IsOfClass className (.var name) := by
  obtain ⟨binding, kept, rfl⟩ := List.mem_map.1 member
  obtain ⟨bound, tested⟩ := List.mem_filter.1 kept
  rw [Bool.and_eq_true, Bool.not_eq_true'] at tested
  obtain ⟨inhabited, below⟩ := tested
  have ordinary := inferred.isOrdinary.env binding bound
  have alone : binding.2.isUnion = false := by
    rw [← Bool.not_eq_true]
    intro several
    have general := inferred.unions binding bound several
    have same : binding.2 = .nominal className := by
      refine general.eq_nominal_of_le ?_ proper below
      intro isBottom
      rw [isBottom] at inhabited
      cases inhabited
    rw [same] at several
    cases several
  have distinct : className ≠ "object" ∧ className ≠ "dict" := by simp_all
  exact ⟨binding.2,
    Term.typeIn_var_eq_ok_iff.2 (Environment.typeOf?_of_mem inferred.names bound), ordinary,
    Ty.receiverClass?_of_le distinct.1 distinct.2 ordinary ⟨inhabited, alone⟩ below⟩

theorem isOfClass_call {receiver arg type : Ty} {method className : String}
    (first : t.typeIn query.catalog query.env = .ok receiver)
    (second : u.typeIn query.catalog query.env = .ok arg)
    (called : Term.directCallType? receiver method [arg] = some type)
    (ordinary : type.isOrdinary = true) (listed : type.receiverClass? = some className) :
    query.IsOfClass className (.call t method [u]) := by
  refine ⟨type, Term.typeIn_call_eq_ok_iff.2 ⟨receiver, [arg], first, .cons second .nil, ?_⟩,
    ordinary, listed⟩
  rw [Term.callType, called]
  rfl

theorem IsOfClass.arithmetic (first : query.IsOfClass "int" t) (second : query.IsOfClass "int" u)
    {method : String} (known : Term.isArithmetic method = true) :
    query.IsOfClass "int" (.call t method [u]) := by
  obtain ⟨receiver, ofFirst, receiverOrdinary, receiverListed⟩ := first
  obtain ⟨arg, ofSecond, argOrdinary, argListed⟩ := second
  have left := Ty.isIntegerLike_of_receiverClass? receiverOrdinary receiverListed
  have right := Ty.isIntegerLike_of_receiverClass? argOrdinary argListed
  have called : Term.directCallType? receiver method [arg] = some .integer := by
    simp [Term.directCallType?, known, left, right]
  exact isOfClass_call ofFirst ofSecond called rfl rfl

theorem IsOfClass.plus (first : query.IsOfClass "str" t) (second : query.IsOfClass "str" u) :
    query.IsOfClass "str" (t.plus u) := by
  obtain ⟨receiver, ofFirst, ordinary, listed⟩ := first
  obtain ⟨arg, ofSecond, argOrdinary, argListed⟩ := second
  have simple := Ty.isSimple_of_receiverClass? listed
  have called := Term.directCallType?_add ordinary simple.2
    (Ty.isStringLike_of_receiverClass? ordinary listed)
    (Ty.isStringLike_of_receiverClass? argOrdinary argListed)
  exact isOfClass_call ofFirst ofSecond called rfl rfl

theorem IsOfClass.slice (receiver : query.IsOfClass "str" t) (start stop : Term)
    (step : Option Term) : query.IsOfClass "str" (.slice t start stop step) := by
  obtain ⟨type, typed, ordinary, listed⟩ := receiver
  refine ⟨.string, Term.typeIn_slice_eq_ok_iff.2 ⟨type, typed, ?_⟩, rfl, rfl⟩
  unfold Term.sliceType
  exact if_pos (Ty.isStringLike_of_receiverClass? ordinary listed)

theorem isTextual_isOfClass (query : Query) : Term.IsTextual (query.IsOfClass "str") where
  text := isOfClass_str
  plus _ _ := IsOfClass.plus
  between _ _ _ receiver := receiver.slice _ _ _
  reversed _ receiver := receiver.slice _ _ _

/-! ### Wanted classes -/

/-- A term of a class fits when the class is one of the alternatives of the goal. -/
theorem IsOfClass.fits {className : String} (ofClass : query.IsOfClass className t)
    (proper : className ≠ "dict") (goalOrdinary : goal.isOrdinary = true)
    (wanted : .nominal className ∈ goal.alternatives) : query.Fits goal t := by
  obtain ⟨type, typed, ordinary, listed⟩ := ofClass
  refine ⟨type, typed, ?_⟩
  rw [Ty.checkedLe_of_isOrdinary ordinary goalOrdinary,
    (Ty.le_iff_exists_alternative (Ty.isSimple_of_receiverClass? listed)).2
      ⟨_, wanted, Ty.le_of_receiverClass? proper ordinary listed⟩]

theorem integer_mem_alternatives (general : goal.IsGeneral)
    (wanted : Rule.wantsInteger goal = true) : .integer ∈ goal.alternatives := by
  cases alone : goal.isUnion with
  | false =>
      have integral : goal.isIntegerLike = true := by
        cases goal <;> first | exact wanted | cases alone
      rw [general.eq_integer integral]
      exact List.mem_singleton_self _
  | true =>
      cases goal with
      | union ts =>
          have canonical : Ty.IsCanonicalUnion (.union ts) := general.here
          obtain ⟨t, member, integral⟩ := List.any_eq_true.1 wanted
          have same := Ty.IsGeneral.eq_integer
            (general.of_mem_parts (Ty.mem_parts_of_member member)) integral
          rw [canonical.alternatives_eq]
          exact same ▸ member
      | _ => cases alone

theorem string_mem_alternatives (general : goal.IsGeneral)
    (wanted : Rule.wantsString goal = true) : .string ∈ goal.alternatives := by
  rw [general.eq_string wanted]
  exact List.mem_singleton_self _

/-! ### Arrays and cases -/

/-- The literal arrays for a goal are lists of a class that all possible items are of. -/
theorem IsInferred.exists_class_of_arrayItems? (inferred : query.IsInferred)
    (general : goal.IsGeneral) (inhabited : .bottom ∉ goal.parts) {items : ArrayItems}
    (known : query.arrayItems? goal = some items) :
    ∃ className, goal = .generic "list" (.nominal className) ∧
      ∀ value, query.IsArrayItem goal value →
        (Ty.ofValue value).le (.nominal className) = true := by
  unfold Query.IsArrayItem
  rw [known]
  unfold arrayItems? at known
  split at known
  next element =>
    have elementGeneral : element.IsGeneral := ((Ty.everywhere_generic _ _).1 general).2
    have notBottom : element ≠ .bottom := by
      rintro rfl
      exact inhabited (by simp [Ty.parts])
    have isClass {name : String} (proper : name ∉ ["object", "list", "dict"])
        (below : element.le (.nominal name) = true) : element = .nominal name :=
      elementGeneral.eq_nominal_of_le notBottom proper below
    split at known
    next below =>
      obtain rfl := Option.some.inj known
      refine ⟨"int", congrArg (Ty.generic "list") (isClass (by decide) below), ?_⟩
      intro value member
      obtain ⟨n, rfl⟩ := inferred.integers value member
      exact Ty.le_of_receiverClass? (by decide) rfl rfl
    next =>
      split at known
      next below =>
        obtain rfl := Option.some.inj known
        refine ⟨"str", congrArg (Ty.generic "list") (isClass (by decide) below), ?_⟩
        intro value member
        obtain ⟨s, rfl⟩ := inferred.strings value member
        exact Ty.le_of_receiverClass? (by decide) rfl rfl
      next =>
        split at known
        next below =>
          obtain rfl := Option.some.inj known
          refine ⟨"bool", congrArg (Ty.generic "list") (isClass (by decide) below), ?_⟩
          intro value isTruth
          cases value <;> first
            | exact Ty.le_of_receiverClass? (by decide) rfl rfl
            | exact Bool.noConfusion isTruth
        next => cases known
  next => cases known

/-- A literal array of values below a class is a list of this class. -/
theorem fits_array {className : String} {values : List Value}
    (atoms : ∀ value ∈ values, value.isAtom = true)
    (below : ∀ value ∈ values, (Ty.ofValue value).le (.nominal className) = true) :
    query.Fits (.generic "list" (.nominal className)) (.array (values.map .literal)) := by
  have wellFormed : ∀ type ∈ values.map Ty.ofValue, type.IsWellFormed :=
    List.forall_mem_map.2 fun value member => Ty.isWellFormed_ofValue (atoms value member)
  have ordinary : ∀ type ∈ values.map Ty.ofValue, type.isOrdinary = true :=
    fun type member => (wellFormed type member).ordinary
  have isClass := Ty.isWellFormed_nominal className
  have joined : (Ty.unionOf (values.map Ty.ofValue)).IsWellBelow (.nominal className) :=
    ⟨Ty.isWellFormed_unionOf wellFormed, isClass,
      (Ty.unionOf_le_iff wellFormed isClass.toIsRegular).2 (List.forall_mem_map.2 below)⟩
  have typed : List.Forall₂ (fun t type => t.typeIn query.catalog query.env = .ok type)
      (values.map Term.literal) (values.map Ty.ofValue) := by
    rw [List.forall₂_map_left_iff, List.forall₂_map_right_iff, List.forall₂_same]
    exact fun _ _ => rfl
  refine ⟨_, Term.typeIn_array_eq_ok_iff.2
    ⟨_, typed, Term.containerType_of_isOrdinary "list" _ ordinary⟩, ?_⟩
  have list := Ty.isWellBelow_generic "list" (Ty.isWellBelow_promote joined)
  rw [Ty.promote_nominal] at list
  rw [Ty.checkedLe_of_isOrdinary list.left.ordinary list.right.ordinary, list.below]

/-- A hole for a member of a canonical union fits the union. -/
theorem fits_member {ts : List Ty} (canonical : Ty.IsCanonicalUnion (.union ts))
    (ordinary : (Ty.union ts).isOrdinary = true) {member : Ty} (inside : member ∈ ts)
    (dependent : Bool) : query.Fits (.union ts) (.hole member dependent) := by
  have memberOrdinary := (Ty.isOrdinary_union ts).1 ordinary member inside
  refine ⟨member, rfl, ?_⟩
  rw [Ty.checkedLe_of_isOrdinary memberOrdinary ordinary,
    ((canonical.2.2 member inside).le_union_iff canonical).2
      ⟨member, inside, Ty.le_refl memberOrdinary⟩]

end Query

/-! ### Rules -/

namespace Rule

open Proposals (AreAll)

variable {query : Query} {limits : Limits} {goal : Ty}

/-- The call of a listed method has the result that the catalog gives it. -/
theorem fits_callOf (inferred : query.IsInferred) {entry : String × String × Signature}
    (callable : entry ∈ query.callableEntries) (yields : entry.2.2.yields goal = .ok true) :
    query.Fits goal (callOf entry.1 entry.2.1 entry.2.2) := by
  obtain ⟨className, method, signature⟩ := entry
  have listed : (className, method, signature) ∈ Catalog.standard.entries :=
    inferred.catalog ▸ (List.mem_filter.1 callable).1
  obtain rfl : className = "str" := by
    rcases Term.className_of_listed listed with isText | rfl
    · exact isText
    · obtain ⟨rfl, _⟩ := Term.listed_list_cases listed
      exact absurd (List.mem_filter.1 callable).2 Bool.false_ne_true
  have ordinary := Catalog.isOrdinary_standard _ listed
  have takes : signature.takes signature.arguments = true := by
    refine (signature.takes_iff_forall₂ _).2 (List.forall₂_same.2 fun t member => Or.inl ?_)
    exact Ty.le_refl (ordinary.1 t member)
  have called : Term.callType query.catalog .string method signature.arguments =
      .ok signature.result := by
    rw [inferred.catalog]
    exact Term.callType_of_listed_str listed rfl ⟨rfl, rfl⟩ rfl ordinary.1 takes
  have args : List.Forall₂ (fun t type => t.typeIn query.catalog query.env = .ok type)
      (signature.arguments.map fun t => Term.hole t false) signature.arguments := by
    rw [List.forall₂_map_left_iff, List.forall₂_same]
    exact fun _ _ => rfl
  refine ⟨signature.result, ?_, ?_⟩
  · unfold callOf
    dsimp only
    split
    · exact Term.typeIn_field_eq_ok_iff.2 ⟨_, _, rfl, args, called⟩
    · exact Term.typeIn_call_eq_ok_iff.2 ⟨_, _, rfl, args, called⟩
  · unfold Signature.yields at yields
    split at yields
    next name isVariable =>
      exact absurd isVariable (inferred.isOrdinary.isComparable.result_ne_var callable name)
    next => exact yields

/-- A text in another case is a text. -/
theorem isOfClass_caseChange (inferred : query.IsInferred) {t : Term} {method : String}
    (receiver : query.IsOfClass "str" t) (listed : method ∈ caseMethods) :
    query.IsOfClass "str" (.call t method []) := by
  obtain ⟨type, typed, ordinary, isText⟩ := receiver
  have known : ∀ method ∈ caseMethods,
      ("str", method, ⟨[], .string, false⟩) ∈ Catalog.standard.entries := by
    rw [Catalog.entries_standard]
    simp [caseMethods]
  refine ⟨.string, Term.typeIn_call_eq_ok_iff.2 ⟨type, [], typed, .nil, ?_⟩, rfl, rfl⟩
  rw [inferred.catalog]
  exact Term.callType_of_listed_str (known method listed) ordinary
    (Ty.isSimple_of_receiverClass? isText).2 isText nofun rfl

theorem areAll_fits (inferred : query.IsInferred) (general : goal.IsGeneral)
    (inhabited : .bottom ∉ goal.parts) {rule : Rule} (kept : rule ∉ [.records, .queryStrings]) :
    AreAll limits (query.Fits goal) (rule.propose goal query limits) := by
  have comparable := inferred.isOrdinary.isComparable
  have goalOrdinary := general.isInferred.isOrdinary
  have goalHashable := Ty.isHashable_of_isOrdinary goalOrdinary
  have integerVar (name : String) (member : name ∈ query.integerVariables) :
      query.IsOfClass "int" (.var name) :=
    inferred.isOfClass_var (by decide) member
  have stringVar (name : String) (member : name ∈ query.stringVariables) :
      query.IsOfClass "str" (.var name) :=
    inferred.isOfClass_var (by decide) member
  have textual := Query.isTextual_isOfClass query
  have text (wanted : wantsString goal = true) (t : Term) (ofClass : query.IsOfClass "str" t) :
      query.Fits goal t :=
    ofClass.fits (by decide) goalOrdinary (Query.string_mem_alternatives general wanted)
  cases rule with
  | poolLiterals =>
      exact areAll_poolLiterals comparable goalHashable fun value _ fits => ⟨_, rfl, fits⟩
  | goalLiteral =>
      refine Proposals.areAll_ofList fun t member => ?_
      have here : Ty.IsGeneralNode goal := general.here
      cases goal <;> first | exact here.elim | exact absurd member List.not_mem_nil
  | fittingVariables =>
      refine areAll_variables comparable goalHashable fun binding member fits => ⟨_, ?_, fits⟩
      exact Term.typeIn_var_eq_ok_iff.2 (Environment.typeOf?_of_mem inferred.names member)
  | caseSplit =>
      refine Proposals.areAll_ofList fun t member => ?_
      cases goal with
      | union ts =>
          obtain ⟨alternative, inside, rfl⟩ := List.mem_map.1 member
          exact Query.fits_member general.here goalOrdinary inside true
      | _ => exact absurd member List.not_mem_nil
  | arrays =>
      cases known : query.arrayItems? goal with
      | none =>
          rw [propose, proposeArrays, known]
          exact Proposals.areAll_nothing
      | some items =>
          obtain ⟨className, rfl, below⟩ :=
            inferred.exists_class_of_arrayItems? general inhabited known
          exact areAll_arrays fun values items =>
            Query.fits_array
              (fun value member => isAtom_of_isArrayItem inferred.isOrdinary (items value member))
              fun value member => below value (items value member)
  | records => simp at kept
  | arithmetic =>
      cases wanted : wantsInteger goal with
      | false =>
          rw [propose, proposeArithmetic, wanted]
          exact Proposals.areAll_nothing
      | true =>
          have integer (value : Value) (member : value ∈ query.pools.integers) :
              query.IsOfClass "int" (.literal value) := by
            obtain ⟨n, rfl⟩ := inferred.integers value member
            exact Query.isOfClass_int n
          have all : AreAll limits (query.IsOfClass "int") (proposeArithmetic goal query limits) :=
            areAll_arithmetic integerVar integer
              (fun _ _ first second => first.arithmetic second rfl)
              fun _ _ first second => first.arithmetic second rfl
          exact all.imp fun t ofClass => ofClass.fits (by decide) goalOrdinary
            (Query.integer_mem_alternatives general wanted)
  | joinedTexts =>
      cases wanted : wantsString goal with
      | false =>
          rw [propose, proposeJoinedTexts, wanted]
          exact Proposals.areAll_nothing
      | true =>
          refine (areAll_joinedTexts textual stringVar fun value member => ?_).imp (text wanted)
          obtain ⟨s, rfl⟩ := inferred.strings value member
          exact Query.isOfClass_str s
  | phoneNumbers =>
      exact Proposals.areAll_ofList fun t member =>
        text (mem_fromTexts member).1 t (phoneNumbers_textual textual stringVar t member)
  | slices =>
      exact Proposals.areAll_ofList fun t member =>
        text (mem_fromTexts member).1 t (slices_textual textual stringVar t member)
  | caseChanges =>
      refine Proposals.areAll_ofList fun t member => ?_
      obtain ⟨wanted, name, here, method, listed, rfl⟩ := exists_of_mem_caseChanges member
      exact text wanted _ (isOfClass_caseChange inferred (stringVar name here) listed)
  | queryStrings => simp at kept
  | catalogCalls =>
      refine (areAll_catalogCalls comparable goalHashable).imp ?_
      rintro _ ⟨entry, callable, yields, rfl⟩
      exact fits_callOf inferred callable yields

/-- What the rules propose, displays of records apart, for a query that is inferred from
examples has a type below the goal. The goal is a part of the type of the result, a text or a
list of texts, and there is no empty type in it. -/
theorem fits_of_mem_propose {examples : List Example} {settings : Settings} {query : Query}
    (inferred : Query.ofExamples examples settings none = .ok query) {goal : Ty}
    (known : goal ∈ query.goal.parts ∨ goal = .string ∨ goal = .generic "list" .string)
    (inhabited : .bottom ∉ goal.parts) (limits : Limits) {rule : Rule}
    (kept : rule ∉ [.records, .queryStrings]) :
    ∀ t ∈ (rule.propose goal query limits).terms,
      ∃ type, t.typeIn query.catalog query.env = .ok type ∧ type.checkedLe goal = .ok true := by
  have ofExamples := Query.isInferred_of_ofExamples inferred
  have general : goal.IsGeneral := by
    rcases known with part | rfl | rfl
    · exact ofExamples.goal.of_mem_parts part
    · exact Ty.isGeneral_nominal "str"
    · exact (Ty.everywhere_generic _ _).2 ⟨rfl, Ty.isGeneral_nominal "str"⟩
  exact (areAll_fits ofExamples general inhabited kept).each

/-- The result is a record whose field is an integer or a text. For the integer a sum of the
second argument and a literal is proposed. -/
theorem fits_of_mem_propose_sum :
    let examples : List Example :=
      [⟨[.str "ab", .int 2], .dict [(.str "k", .int 3)]⟩,
        ⟨[.str "cd", .int 4], .dict [(.str "k", .str "cd")]⟩]
    let query : Query :=
      { env := [("arg0", .string), ("arg1", .integer)]
        goal := .union [.record [("k", .integer)], .record [("k", .string)]]
        pools := ⟨[.str "ab", .str "k", .str "cd"], [.int 2, .int 3, .int 4]⟩ }
    let sum : Term := (Term.var "arg1").plus (.int 2)
    Query.ofExamples examples {} none = .ok query ∧
      sum ∈ (Rule.arithmetic.propose .integer query {}).terms ∧
      ∃ type, sum.typeIn query.catalog query.env = .ok type ∧
        type.checkedLe .integer = .ok true := by
  intro examples query sum
  have inferred : Query.ofExamples examples {} none = .ok query := by rfl
  have part : .integer ∈ query.goal.parts := by
    simp [query, Ty.parts, Ty.partsOfAll, Ty.partsOfFields, Ty.integer]
  have proposed : sum ∈ (Rule.arithmetic.propose .integer query {}).terms :=
    List.mem_of_head? (by rfl)
  have inhabited : .bottom ∉ Ty.integer.parts := by simp [Ty.integer, Ty.parts]
  exact ⟨inferred, proposed,
    fits_of_mem_propose inferred (Or.inl part) inhabited {} (by decide) sum proposed⟩

end Rule

end FunctionSynthesis
