import FunctionSynthesis.Grammar.Rule
import FunctionSynthesis.Proofs.Grammar.Inhabitation

/-!
# What the rules propose

Most rules propose terms that are built from literals and variables in scope
(`Term.IsBuilt`). The others propose holes for the members of a union, displays of records
with holes or with entries that are parsed from texts, and calls of listed methods with
holes. So every rule proposes ordinary terms, none of which is just a hole to be expanded,
and no fault stops it if the limits are counts (`areAll_propose`).
-/

namespace FunctionSynthesis

open Attempt (Succeeds)

/-! ### Choices -/

section Choices

variable {α : Type} {items : List α}

theorem mem_of_mem_eachWithRest {choice : α × List α}
    (member : choice ∈ eachWithRest items) :
    choice.1 ∈ items ∧ ∀ y ∈ choice.2, y ∈ items := by
  induction items generalizing choice with
  | nil => exact absurd member List.not_mem_nil
  | cons x items ih =>
      rw [eachWithRest, List.mem_cons, List.mem_map] at member
      rcases member with rfl | ⟨⟨y, rest⟩, below, rfl⟩
      · exact ⟨List.mem_cons_self, fun y inside => List.mem_cons_of_mem x inside⟩
      · obtain ⟨here, others⟩ := ih below
        refine ⟨List.mem_cons_of_mem x here, fun z inside => ?_⟩
        rcases List.mem_cons.1 inside with rfl | later
        · exact List.mem_cons_self
        · exact List.mem_cons_of_mem x (others z later)

theorem mem_of_mem_arrangements {n : Nat} {arrangement : List α}
    (member : arrangement ∈ arrangements n items) : ∀ x ∈ arrangement, x ∈ items := by
  induction n generalizing items arrangement with
  | zero =>
      rw [arrangements, List.mem_singleton] at member
      simp [member]
  | succ n ih =>
      rw [arrangements, List.mem_flatMap] at member
      obtain ⟨⟨x, rest⟩, chosen, member⟩ := member
      obtain ⟨others, below, rfl⟩ := List.mem_map.1 member
      obtain ⟨here, inside⟩ := mem_of_mem_eachWithRest chosen
      exact List.forall_mem_cons.2 ⟨here, fun y later => inside y (ih below y later)⟩

theorem mem_of_mem_orderedPairs {pair : α × α} (member : pair ∈ orderedPairs items) :
    pair.1 ∈ items ∧ pair.2 ∈ items := by
  rw [orderedPairs, List.mem_flatMap] at member
  obtain ⟨⟨x, rest⟩, chosen, member⟩ := member
  obtain ⟨y, later, rfl⟩ := List.mem_map.1 member
  obtain ⟨here, inside⟩ := mem_of_mem_eachWithRest chosen
  exact ⟨here, inside y later⟩

theorem mem_of_mem_orderedTriples {triple : α × α × α}
    (member : triple ∈ orderedTriples items) :
    triple.1 ∈ items ∧ triple.2.1 ∈ items ∧ triple.2.2 ∈ items := by
  rw [orderedTriples, List.mem_flatMap] at member
  obtain ⟨⟨x, rest⟩, chosen, member⟩ := member
  obtain ⟨pair, later, rfl⟩ := List.mem_map.1 member
  obtain ⟨here, inside⟩ := mem_of_mem_eachWithRest chosen
  obtain ⟨second, third⟩ := mem_of_mem_orderedPairs later
  exact ⟨here, inside _ second, inside _ third⟩

theorem mem_of_mem_pairs {pair : α × α} (member : pair ∈ pairs items) :
    pair.1 ∈ items ∧ pair.2 ∈ items := by
  induction items with
  | nil => exact absurd member List.not_mem_nil
  | cons x items ih =>
      rw [pairs, List.mem_append, List.mem_map] at member
      rcases member with ⟨y, inside, rfl⟩ | below
      · exact ⟨List.mem_cons_self, List.mem_cons_of_mem x inside⟩
      · exact (ih below).imp (List.mem_cons_of_mem x) (List.mem_cons_of_mem x)

theorem sublist_of_mem_choices {n : Nat} {choice : List α} (member : choice ∈ choices n items) :
    choice.Sublist items := by
  induction items generalizing n choice with
  | nil =>
      cases n with
      | zero =>
          rw [choices, List.mem_singleton] at member
          exact member ▸ .slnil
      | succ n => exact absurd member List.not_mem_nil
  | cons x items ih =>
      cases n with
      | zero =>
          rw [choices, List.mem_singleton] at member
          exact member ▸ List.nil_sublist _
      | succ n =>
          rw [choices, List.mem_append, List.mem_map] at member
          rcases member with ⟨rest, below, rfl⟩ | below
          · exact (ih below).cons_cons x
          · exact (ih below).cons x

end Choices

/-! ### Limits -/

namespace Limits

variable {α : Type} {bound : Value} {items kept : List α}

theorem succeeds_leading_of_integer {n : Int} (isInteger : bound = .int n) (items : List α) :
    Succeeds (leading bound items) := by
  subst isInteger
  unfold leading
  dsimp only [Value.integer?]
  split <;> exact Attempt.succeeds_pure _

theorem succeeds_leading (isCount : IsCount bound) (items : List α) :
    Succeeds (leading bound items) := by
  obtain ⟨n, isInteger, _⟩ := isCount
  exact succeeds_leading_of_integer isInteger items

theorem succeeds_first (isCount : IsCount bound) (items : List α) :
    Succeeds (first bound items) := by
  obtain ⟨n, rfl, small⟩ := isCount
  have counted : countedOff (.int n) = .ok (some n) := by
    have inRange : ¬ ((n : Int) = -1 ∨ largestCount < n ∨ (n : Int) < -largestCount - 1) := by
      unfold largestCount at *
      omega
    have nonnegative : ¬ ((n : Int) < 0) := by omega
    simp only [countedOff, Value.integer?, if_neg inRange, if_neg nonnegative]
    rfl
  exact ⟨items.take n, by rw [first, counted]; rfl⟩

/-- Whatever the bound is, nothing but items is taken. -/
theorem mem_of_mem_leading (taken : leading bound items = .ok kept) : ∀ x ∈ kept, x ∈ items := by
  unfold leading at taken
  split at taken
  · obtain rfl := Attempt.pure_eq_ok_iff.1 taken
    exact fun _ => id
  · split at taken
    · split at taken
      all_goals
        obtain rfl := Attempt.pure_eq_ok_iff.1 taken
        exact fun _ => List.mem_of_mem_take
    · exact (Attempt.throw_eq_ok_iff.1 taken).elim

theorem mem_of_mem_first (taken : first bound items = .ok kept) : ∀ x ∈ kept, x ∈ items := by
  obtain ⟨count, _, taken⟩ := Attempt.bind_eq_ok_iff.1 taken
  cases count with
  | none =>
      obtain rfl := Attempt.pure_eq_ok_iff.1 taken
      exact fun _ => id
  | some n =>
      obtain rfl := Attempt.pure_eq_ok_iff.1 taken
      exact fun _ => List.mem_of_mem_take

end Limits

/-! ### Proposals -/

namespace Proposals

/-- Whether all of the proposals meet a condition, and nothing stopped them if the limits
are counts. -/
structure AreAll (limits : Limits) (condition : Term → Prop) (proposals : Proposals) :
    Prop where
  unstopped : limits.AreCounts → proposals.fault = none
  each : ∀ t ∈ proposals.terms, condition t

variable {limits : Limits} {condition condition' : Term → Prop} {α : Type}

theorem AreAll.imp {proposals : Proposals} (all : AreAll limits condition proposals)
    (implies : ∀ t, condition t → condition' t) : AreAll limits condition' proposals :=
  ⟨all.unstopped, fun t member => implies t (all.each t member)⟩

theorem areAll_ofList {terms : List Term} (each : ∀ t ∈ terms, condition t) :
    AreAll limits condition (ofList terms) :=
  ⟨fun _ => rfl, each⟩

theorem areAll_nothing : AreAll limits condition nothing :=
  areAll_ofList fun _ member => absurd member List.not_mem_nil

theorem areAll_needing {attempt : Except Fault α} {propose : α → Proposals}
    (succeeds : limits.AreCounts → Succeeds attempt)
    (proposed : ∀ a, attempt = .ok a → AreAll limits condition (propose a)) :
    AreAll limits condition (needing attempt propose) := by
  cases same : attempt with
  | ok a => exact proposed a same
  | error fault =>
      refine ⟨fun counts => ?_, fun _ member => absurd member List.not_mem_nil⟩
      obtain ⟨a, other⟩ := succeeds counts
      rw [same] at other
      cases other

theorem areAll_andThen {first second : Proposals} (now : AreAll limits condition first)
    (later : AreAll limits condition second) : AreAll limits condition (first >> second) := by
  change AreAll limits condition (andThen first fun _ => second)
  unfold andThen
  split
  next fault stopped => exact now
  next => exact ⟨later.unstopped, List.forall_mem_append.2 ⟨now.each, later.each⟩⟩

theorem areAll_selecting {test : α → Except Fault Bool} {make : α → Term} {items : List α}
    (succeeds : ∀ x ∈ items, Succeeds (test x))
    (made : ∀ x ∈ items, test x = .ok true → condition (make x)) :
    AreAll limits condition (selecting test make items) := by
  induction items with
  | nil => exact areAll_nothing
  | cons x items ih =>
      obtain ⟨tested, others⟩ := List.forall_mem_cons.1 succeeds
      obtain ⟨here, rest⟩ := List.forall_mem_cons.1 made
      refine areAll_needing (fun _ => tested) fun passed same =>
        areAll_andThen (areAll_ofList fun t member => ?_) (ih others rest)
      cases passed with
      | true => exact List.mem_singleton.1 member ▸ here same
      | false => exact absurd member List.not_mem_nil

theorem mem_needing {attempt : Except Fault α} {propose : α → Proposals} {t : Term} :
    t ∈ (needing attempt propose).terms ↔ ∃ a, attempt = .ok a ∧ t ∈ (propose a).terms := by
  cases attempt <;> simp [needing, stopped]

theorem mem_selecting {test : α → Except Fault Bool} {make : α → Term} {items : List α}
    (succeeds : ∀ x ∈ items, Succeeds (test x)) {x : α} (member : x ∈ items)
    (passed : test x = .ok true) : make x ∈ (selecting test make items).terms := by
  induction items with
  | nil => exact absurd member List.not_mem_nil
  | cons first items ih =>
      obtain ⟨⟨result, tested⟩, rest⟩ := List.forall_mem_cons.1 succeeds
      rw [selecting, mem_needing]
      refine ⟨result, tested, ?_⟩
      rcases List.mem_cons.1 member with rfl | later
      · obtain rfl : result = true := Except.ok.inj (tested.symm.trans passed)
        exact List.mem_append_left _ List.mem_cons_self
      · exact List.mem_append_right _ (ih rest later)

end Proposals

/-! ### Built terms and fillings -/

namespace Term

/-- Whether a node is one that terms are built from without holes and displays of records. -/
def IsBuiltNode (env : Environment) : Term → Prop
  | .literal v => v.isAtom = true
  | .var name => (env.typeOf? name).isSome = true
  | .call _ _ _ => True
  | .field _ _ _ => True
  | .array _ => True
  | .slice _ _ _ _ => True
  | _ => False

/-- Whether a term is built from literals and variables in scope by calls, slices and lists. -/
def IsBuilt (env : Environment) (t : Term) : Prop :=
  t.Everywhere (IsBuiltNode env)

/-- Whether a term may be proposed: it is ordinary and not just a hole to be
expanded. -/
structure IsFilling (env : Environment) (t : Term) : Prop where
  ordinary : t.Everywhere (IsOrdinaryNode env)
  notHole : t.isRegularHole = false

variable {env : Environment}

theorem isSome_typeOf?_of_mem {name : String} {type : Ty} (member : (name, type) ∈ env) :
    (env.typeOf? name).isSome = true := by
  simp only [Environment.typeOf?, Ty.firstField?, Option.isSome_map, List.find?_isSome]
  exact ⟨_, member, beq_self_eq_true name⟩

theorem isSome_typeOf?_of_mem_namesWhere {test : Ty → Bool} {name : String}
    (member : name ∈ env.namesWhere test) : (env.typeOf? name).isSome = true := by
  obtain ⟨binding, kept, rfl⟩ := List.mem_map.1 member
  exact isSome_typeOf?_of_mem (List.mem_filter.1 kept).1

theorem isBuilt_literal {value : Value} (atom : value.isAtom = true) :
    IsBuilt env (.literal value) :=
  (everywhere_literal value).2 atom

theorem isBuilt_str (s : String) : IsBuilt env (str s) :=
  isBuilt_literal rfl

theorem isBuilt_var {name : String} (bound : (env.typeOf? name).isSome = true) :
    IsBuilt env (.var name) :=
  (everywhere_var name).2 bound

theorem isBuilt_of_mem_namesWhere {test : Ty → Bool} {name : String}
    (member : name ∈ env.namesWhere test) : IsBuilt env (.var name) :=
  isBuilt_var (isSome_typeOf?_of_mem_namesWhere member)

theorem isBuilt_array {values : List Value} (atoms : ∀ value ∈ values, value.isAtom = true) :
    IsBuilt env (.array (values.map .literal)) :=
  (everywhere_array _).2 ⟨trivial, List.forall_mem_map.2 fun value member =>
    isBuilt_literal (atoms value member)⟩

theorem IsBuilt.plus {a b : Term} (left : IsBuilt env a) (right : IsBuilt env b) :
    IsBuilt env (a.plus b) :=
  (everywhere_call _ _ _).2 ⟨trivial, left, List.forall_mem_singleton.2 right⟩

theorem IsBuilt.times {a b : Term} (left : IsBuilt env a) (right : IsBuilt env b) :
    IsBuilt env (a.times b) :=
  (everywhere_call _ _ _).2 ⟨trivial, left, List.forall_mem_singleton.2 right⟩

/-- A slice at positions that are known is built from its receiver. -/
theorem IsBuilt.between {x : Term} (receiver : IsBuilt env x) (start stop : Int) :
    IsBuilt env (x.between (.int start) (.int stop)) :=
  (everywhere_slice _ _ _ _).2 ⟨trivial, receiver, isBuilt_literal rfl, isBuilt_literal rfl,
    nofun⟩

theorem IsBuilt.item {x : Term} (receiver : IsBuilt env x) (position : Int) :
    IsBuilt env (x.item (.int position)) :=
  (everywhere_field _ _ _).2 ⟨trivial, receiver,
    List.forall_mem_singleton.2 (isBuilt_literal rfl)⟩

theorem IsBuilt.splitAt {x : Term} (receiver : IsBuilt env x) (separator : String) :
    IsBuilt env (x.splitAt separator) :=
  (everywhere_call _ _ _).2 ⟨trivial, receiver, List.forall_mem_singleton.2 (isBuilt_str _)⟩

theorem IsBuilt.isOrdinary {t : Term} (built : IsBuilt env t) :
    t.Everywhere (IsOrdinaryNode env) := by
  intro node inside
  have here := built node inside
  cases node <;> first | exact here | exact here.elim

theorem IsBuilt.isFilling {t : Term} (built : IsBuilt env t) : IsFilling env t := by
  refine ⟨built.isOrdinary, ?_⟩
  have here := Everywhere.here built
  cases t <;> first | rfl | exact here.elim

/-- Whether a condition of terms is met by texts that are given, joined or cut. -/
structure IsTextual (condition : Term → Prop) : Prop where
  text : ∀ s, condition (str s)
  plus : ∀ a b, condition a → condition b → condition (a.plus b)
  between : ∀ x start stop, condition x → condition (x.between (.int start) (.int stop))
  reversed : ∀ x, condition x → condition x.reversed

theorem isTextual_isBuilt (env : Environment) : IsTextual (IsBuilt env) where
  text := isBuilt_str
  plus _ _ := IsBuilt.plus
  between _ start stop built := built.between start stop
  reversed _ built := (everywhere_slice _ _ _ _).2 ⟨trivial, built, isBuilt_literal rfl,
    isBuilt_literal rfl, fun _ isStep => Option.some.inj isStep ▸ isBuilt_literal rfl⟩

theorem IsTextual.phoneNumber {condition : Term → Prop} (textual : IsTextual condition) {x : Term}
    (receiver : condition x) : condition x.phoneNumber := by
  have part (start stop : Int) := textual.between x start stop receiver
  have area := textual.plus _ _ (textual.plus _ _ (textual.text "(") (part 0 3))
    (textual.text ") ")
  exact textual.plus _ _ (textual.plus _ _ area (part 3 6))
    (textual.plus _ _ (textual.text "-") (part 6 10))

end Term

/-- Whether a type is neither a union nor a record. -/
def Ty.isUndivided : Ty → Bool
  | .union _ => false
  | .record _ => false
  | _ => true

/-! ### Rules that propose built terms -/

/-- Whether a value may be an item of a literal array for a goal. -/
def Query.IsArrayItem (query : Query) (goal : Ty) (value : Value) : Prop :=
  match query.arrayItems? goal with
  | none => False
  | some .truthValues => value.isTruth = true
  | some (.fromPool pool) => value ∈ pool

namespace Rule

open Proposals (AreAll)
open Term (IsBuilt IsFilling IsOrdinaryNode IsTextual)

variable {query : Query} {limits : Limits} {goal : Ty} {condition : Term → Prop}

theorem areAll_poolLiterals (comparable : query.IsComparable)
    (goalHashable : goal.isHashable = true)
    (literal : ∀ value ∈ query.pools.all, value.fits goal = .ok true →
      condition (.literal value)) :
    AreAll limits condition (proposePoolLiterals goal query) :=
  Proposals.areAll_selecting
    (fun value member => Ty.succeeds_checkedLe (comparable.pools value member) goalHashable)
    literal

theorem isBuilt_of_mem_goalLiteral (goalOrdinary : goal.isOrdinary = true) :
    ∀ t ∈ proposeGoalLiteral goal, IsBuilt query.env t := by
  cases goal with
  | literal value =>
      rw [Ty.isOrdinary_literal] at goalOrdinary
      exact List.forall_mem_singleton.2
        (Term.isBuilt_literal (Value.isAtom_of_isScalar goalOrdinary))
  | text value => exact List.forall_mem_singleton.2 (Term.isBuilt_str value)
  | _ => exact fun _ member => absurd member List.not_mem_nil

theorem areAll_variables (comparable : query.IsComparable)
    (goalHashable : goal.isHashable = true)
    (var : ∀ binding ∈ query.env, binding.2.checkedLe goal = .ok true →
      condition (.var binding.1)) :
    AreAll limits condition (proposeVariables goal query) :=
  Proposals.areAll_selecting
    (fun binding member => Ty.succeeds_checkedLe (comparable.env binding member) goalHashable)
    var

theorem isAtom_of_isArrayItem (ordinary : query.IsOrdinary) {value : Value}
    (item : query.IsArrayItem goal value) : value.isAtom = true := by
  unfold Query.IsArrayItem Query.arrayItems? at item
  split at item
  · exact item.elim
  · cases value <;> first | rfl | exact Bool.noConfusion item
  next pool taken =>
    refine ordinary.pools value ?_
    split at taken
    · split at taken
      · obtain rfl : query.pools.integers = pool := by simpa using taken
        exact List.mem_append_right _ item
      · split at taken
        · obtain rfl : query.pools.strings = pool := by simpa using taken
          exact List.mem_append_left _ item
        · split at taken <;> simp at taken
    · simp at taken

theorem areAll_arrays
    (array : ∀ values : List Value, (∀ value ∈ values, query.IsArrayItem goal value) →
      condition (.array (values.map .literal))) :
    AreAll limits condition (proposeArrays goal query limits) := by
  unfold Query.IsArrayItem at array
  unfold proposeArrays
  split
  next => exact Proposals.areAll_nothing
  next known =>
    rw [known] at array
    have truths (bs : List Bool) : condition (.array ((bs.map Value.bool).map .literal)) :=
      array _ (List.forall_mem_map.2 fun _ _ => rfl)
    exact Proposals.areAll_ofList (List.forall_mem_cons.2
      ⟨truths [true, false], List.forall_mem_singleton.2 (truths [true, false, true])⟩)
  next pool known =>
    rw [known] at array
    refine Proposals.areAll_needing
      (fun counts => Limits.succeeds_count counts.maxArrayArity) fun longest _ =>
      Proposals.areAll_ofList fun t member => ?_
    obtain ⟨arity, _, member⟩ := List.mem_flatMap.1 member
    obtain ⟨values, arranged, rfl⟩ := List.mem_map.1 member
    exact array values (mem_of_mem_arrangements arranged)

theorem areAll_arithmetic (var : ∀ name ∈ query.integerVariables, condition (.var name))
    (constant : ∀ value ∈ query.pools.integers, condition (.literal value))
    (plus : ∀ a b, condition a → condition b → condition (a.plus b))
    (times : ∀ a b, condition a → condition b → condition (a.times b)) :
    AreAll limits condition (proposeArithmetic goal query limits) := by
  unfold proposeArithmetic
  split
  next => exact Proposals.areAll_nothing
  next =>
    refine Proposals.areAll_needing
      (fun counts => Limits.succeeds_leading counts.arithmeticConstants _)
      fun constants leading => Proposals.areAll_andThen
        (Proposals.areAll_ofList (List.forall_mem_append.2 ⟨?_, ?_⟩))
        (Proposals.areAll_andThen ?_ ?_)
    · intro t member
      obtain ⟨⟨a, b⟩, chosen, member⟩ := List.mem_flatMap.1 member
      obtain ⟨first, second⟩ := mem_of_mem_orderedPairs chosen
      rcases List.mem_cons.1 member with rfl | last
      · exact plus _ _ (var a first) (var b second)
      · rw [List.mem_singleton.1 last]
        exact times _ _ (var a first) (var b second)
    · intro t member
      obtain ⟨name, here, member⟩ := List.mem_flatMap.1 member
      obtain ⟨c, there, member⟩ := List.mem_flatMap.1 member
      have x := var name here
      have k := constant c (Limits.mem_of_mem_leading leading c there)
      simp only [List.mem_cons, List.not_mem_nil, or_false] at member
      rcases member with rfl | rfl | rfl | rfl
      · exact plus _ _ x k
      · exact plus _ _ k x
      · exact times _ _ x k
      · exact times _ _ k x
    · refine Proposals.areAll_needing
        (fun counts => Limits.succeeds_first counts.constantPairs _) fun sums first =>
        Proposals.areAll_ofList fun t member => ?_
      obtain ⟨pair, chosen, rfl⟩ := List.mem_map.1 member
      obtain ⟨left, right⟩ := mem_of_mem_pairs (Limits.mem_of_mem_first first pair chosen)
      exact plus _ _ (constant _ left) (constant _ right)
    · split
      next => exact Proposals.areAll_nothing
      next =>
        refine Proposals.areAll_needing
          (fun counts => Limits.succeeds_first counts.variableTriples _) fun triples first =>
          Proposals.areAll_ofList fun t member => ?_
        obtain ⟨⟨a, b, c⟩, chosen, member⟩ := List.mem_flatMap.1 member
        obtain ⟨x, y, z⟩ :=
          mem_of_mem_orderedTriples (Limits.mem_of_mem_first first _ chosen)
        rcases List.mem_cons.1 member with rfl | last
        · exact plus _ _ (plus _ _ (var a x) (var b y)) (var c z)
        · rw [List.mem_singleton.1 last]
          exact plus _ _ (var a x) (plus _ _ (var b y) (var c z))

theorem areAll_joinedTexts (textual : IsTextual condition)
    (var : ∀ name ∈ query.stringVariables, condition (.var name))
    (constant : ∀ value ∈ query.pools.strings, condition (.literal value)) :
    AreAll limits condition (proposeJoinedTexts goal query limits) := by
  unfold proposeJoinedTexts
  split
  next => exact Proposals.areAll_nothing
  next =>
    refine Proposals.areAll_needing
      (fun counts => Limits.succeeds_leading counts.concatConstants _)
      fun constants leading => Proposals.areAll_ofList fun t member => ?_
    obtain ⟨name, here, member⟩ := List.mem_flatMap.1 member
    have x := var name here
    rcases List.mem_append.1 member with joined | extended
    · obtain ⟨other, there, rfl⟩ := List.mem_map.1 joined
      exact textual.plus _ _ x (var other (List.mem_filter.1 there).1)
    · obtain ⟨c, there, member⟩ := List.mem_flatMap.1 extended
      have k := constant c (Limits.mem_of_mem_leading leading c there)
      rcases List.mem_cons.1 member with rfl | last
      · exact textual.plus _ _ x k
      · rw [List.mem_singleton.1 last]
        exact textual.plus _ _ k x

/-- Terms are made from text variables if a text is wanted. -/
theorem mem_fromTexts {make : Term → List Term} {t : Term}
    (member : t ∈ fromTexts goal query make) :
    wantsString goal = true ∧ ∃ name ∈ query.stringVariables, t ∈ make (.var name) := by
  unfold fromTexts at member
  split at member
  next wanted => exact ⟨wanted, List.mem_flatMap.1 member⟩
  next => exact absurd member List.not_mem_nil

theorem phoneNumbers_textual (textual : IsTextual condition)
    (var : ∀ name ∈ query.stringVariables, condition (.var name)) :
    ∀ t ∈ proposePhoneNumbers goal query, condition t := by
  intro t member
  obtain ⟨_, name, here, member⟩ := mem_fromTexts member
  rw [List.mem_singleton.1 member]
  exact textual.phoneNumber (var name here)

theorem slices_textual (textual : IsTextual condition)
    (var : ∀ name ∈ query.stringVariables, condition (.var name)) :
    ∀ t ∈ proposeSlices goal query, condition t := by
  intro t member
  obtain ⟨_, name, here, member⟩ := mem_fromTexts member
  have x := var name here
  rcases List.mem_cons.1 member with rfl | cut
  · exact textual.reversed _ x
  · obtain ⟨start, _, cut⟩ := List.mem_flatMap.1 cut
    obtain ⟨stop, _, rfl⟩ := List.mem_map.1 cut
    exact textual.between _ start stop x

/-- The case of a text variable is changed if a text is wanted. -/
theorem exists_of_mem_caseChanges {t : Term} (member : t ∈ proposeCaseChanges goal query) :
    wantsString goal = true ∧ ∃ name ∈ query.stringVariables, ∃ method ∈ caseMethods,
      t = .call (.var name) method [] := by
  obtain ⟨wanted, name, here, member⟩ := mem_fromTexts member
  obtain ⟨method, listed, rfl⟩ := List.mem_map.1 member
  exact ⟨wanted, name, here, method, listed, rfl⟩

theorem isBuilt_of_mem_caseChanges :
    ∀ t ∈ proposeCaseChanges goal query, IsBuilt query.env t := by
  intro t member
  obtain ⟨_, name, here, method, _, rfl⟩ := exists_of_mem_caseChanges member
  exact (Term.everywhere_call _ _ _).2 ⟨trivial, Term.isBuilt_of_mem_namesWhere here, nofun⟩

/-! ### Rules that follow the shape of the goal -/

theorem shapeless_of_isUndivided (undivided : goal.isUndivided = true) (query : Query) :
    proposeCaseSplit goal = [] ∧ proposeRecords goal = [] ∧
      proposeQueryStrings goal query = [] := by
  cases goal <;> first | exact ⟨rfl, rfl, rfl⟩ | cases undivided

theorem isFilling_of_mem_caseSplit (goalOrdinary : goal.isOrdinary = true) :
    ∀ t ∈ proposeCaseSplit goal, IsFilling query.env t := by
  intro t member
  cases goal with
  | union members =>
      obtain ⟨alternative, inside, rfl⟩ := List.mem_map.1 member
      rw [Ty.isOrdinary_union] at goalOrdinary
      exact ⟨(Term.everywhere_hole _ _).2 (goalOrdinary alternative inside), rfl⟩
  | _ => exact absurd member List.not_mem_nil

/-- What a field of a record is promised to be, if the record has it. -/
def fieldGoal (fields : List (String × Ty)) (key : String) : Ty :=
  (Ty.firstField? fields key).getD .bottom

/-- A record is displayed with a hole for each of some of its fields, in their order. -/
theorem exists_keys_of_mem_records {fields : List (String × Ty)} {t : Term}
    (member : t ∈ proposeRecords (.record fields)) :
    ∃ keys : List String, keys.Sublist (fields.map Prod.fst) ∧
      t = .record (keys.map fun key => (Term.str key, .hole (fieldGoal fields key) false)) := by
  obtain ⟨width, _, member⟩ := List.mem_flatMap.1 member
  obtain ⟨keys, chosen, rfl⟩ := List.mem_map.1 member
  exact ⟨keys, sublist_of_mem_choices chosen, rfl⟩

theorem fieldGoal_cases (fields : List (String × Ty)) (key : String) :
    fieldGoal fields key = .bottom ∨ ∃ field ∈ fields, fieldGoal fields key = field.2 := by
  unfold fieldGoal
  cases found : Ty.firstField? fields key with
  | none => exact Or.inl rfl
  | some type => exact Or.inr ⟨_, Ty.mem_of_firstField? found, rfl⟩

theorem isFilling_of_mem_records (goalOrdinary : goal.isOrdinary = true) :
    ∀ t ∈ proposeRecords goal, IsFilling query.env t := by
  intro t member
  cases goal with
  | record fields =>
      rw [Ty.isOrdinary_record] at goalOrdinary
      obtain ⟨keys, _, rfl⟩ := exists_keys_of_mem_records member
      refine ⟨(Term.everywhere_record _).2 ⟨trivial, List.forall_mem_map.2 fun key _ => ?_⟩, rfl⟩
      have promised : (fieldGoal fields key).isOrdinary = true := by
        rcases fieldGoal_cases fields key with same | ⟨field, inside, same⟩
        · rw [same]
          rfl
        · rw [same]
          exact goalOrdinary field inside
      exact ⟨(Term.everywhere_literal _).2 rfl, (Term.everywhere_hole _ _).2 promised⟩
  | _ => exact absurd member List.not_mem_nil

/-- The entries of a record are parsed from texts that are built from variables. -/
theorem exists_texts_of_mem_queryStrings {t : Term}
    (member : t ∈ proposeQueryStrings goal query) :
    ∃ texts : List Term, (∀ x ∈ texts, IsBuilt query.env x) ∧
      t = .record (texts.map Term.keyValueEntry) := by
  cases goal with
  | record fields =>
      obtain ⟨name, here, member⟩ := List.mem_flatMap.1 member
      have x : IsBuilt query.env (.var name) := Term.isBuilt_of_mem_namesWhere here
      rcases List.mem_cons.1 member with rfl | several
      · exact ⟨[.var name], List.forall_mem_singleton.2 x, rfl⟩
      · obtain ⟨count, _, rfl⟩ := List.mem_map.1 several
        exact ⟨(Term.var name).queryPairs count,
          List.forall_mem_map.2 fun i _ => (x.splitAt "&").item i, rfl⟩
  | _ => exact absurd member List.not_mem_nil

theorem isFilling_of_mem_queryStrings :
    ∀ t ∈ proposeQueryStrings goal query, IsFilling query.env t := by
  intro t member
  obtain ⟨texts, built, rfl⟩ := exists_texts_of_mem_queryStrings member
  refine ⟨(Term.everywhere_record _).2 ⟨trivial, List.forall_mem_map.2 fun x inside => ?_⟩, rfl⟩
  have pieces := (built x inside).splitAt "="
  exact ⟨(pieces.item 0).isOrdinary, (pieces.item 1).isOrdinary⟩

/-! ### Methods of the catalog -/

/-- The call of a listed method with holes for the receiver and the arguments. -/
def callOf (className method : String) (signature : Signature) : Term :=
  let args := signature.arguments.map fun t => Term.hole t false
  if signature.isProperty then .field (.hole (.nominal className) false) method args
  else .call (.hole (.nominal className) false) method args

theorem everywhere_callOf {condition : Term → Prop} {className method : String}
    {signature : Signature} (inner : ∀ r m as, condition (.call r m as) ∧ condition (.field r m as))
    (receiver : condition (.hole (.nominal className) false))
    (args : ∀ t ∈ signature.arguments, condition (.hole t false)) :
    (callOf className method signature).Everywhere condition := by
  have holes : ∀ t ∈ signature.arguments.map fun t => Term.hole t false,
      t.Everywhere condition :=
    List.forall_mem_map.2 fun t member => (Term.everywhere_hole t false).2 (args t member)
  unfold callOf
  dsimp only
  split
  · exact (Term.everywhere_field _ _ _).2
      ⟨(inner _ _ _).2, (Term.everywhere_hole _ _).2 receiver, holes⟩
  · exact (Term.everywhere_call _ _ _).2
      ⟨(inner _ _ _).1, (Term.everywhere_hole _ _).2 receiver, holes⟩

/-- A listed method is not proposed for any goal, or its call is proposed if the result fits
and all holes can be closed. -/
theorem callFor?_cases (comparable : query.IsComparable) (goal : Ty) (limits : Limits)
    {entry : String × String × Signature} (callable : entry ∈ query.callableEntries) :
    callFor? goal query limits entry.1 entry.2.1 entry.2.2 = pure none ∨
      callFor? goal query limits entry.1 entry.2.1 entry.2.2 = (do
        if !(← entry.2.2.yields goal) then return none
        let holes := Ty.nominal entry.1 :: entry.2.2.arguments
        if ← holes.allM fun t => query.isInhabited limits [goal] t then
          return some (callOf entry.1 entry.2.1 entry.2.2)
        else return none) := by
  unfold callFor? callOf
  rcases Query.typesFor?_cases entry.1 goal (comparable.result_ne_var callable) with
    unusable | usable
  · rw [unusable]
    exact Or.inl rfl
  · rw [usable]
    cases entry.2.2.isProperty <;> exact Or.inr rfl

/-- What is proposed of a listed method whose result fits is its call. -/
theorem yields_of_callFor? (comparable : query.IsComparable)
    {entry : String × String × Signature} (callable : entry ∈ query.callableEntries)
    {call : Option Term} {t : Term}
    (found : callFor? goal query limits entry.1 entry.2.1 entry.2.2 = .ok call)
    (proposed : t ∈ call) :
    entry.2.2.yields goal = .ok true ∧ t = callOf entry.1 entry.2.1 entry.2.2 := by
  obtain rfl := Option.mem_def.1 proposed
  rcases callFor?_cases comparable goal limits callable with never | sometimes
  · rw [never] at found
    cases found
  · rw [sometimes] at found
    obtain ⟨fits, yields, found⟩ := Attempt.bind_eq_ok_iff.1 found
    cases fits with
    | false => cases found
    | true =>
        obtain ⟨inhabited, _, found⟩ := Attempt.bind_eq_ok_iff.1 found
        cases inhabited with
        | false => cases found
        | true => exact ⟨yields, (Option.some.inj (Attempt.pure_eq_ok_iff.1 found)).symm⟩

/-- It can be decided whether a listed method is proposed. -/
theorem succeeds_callFor? (comparable : query.IsComparable) (counts : limits.AreCounts)
    (goalHashable : goal.isHashable = true) {entry : String × String × Signature}
    (callable : entry ∈ query.callableEntries) :
    Succeeds (callFor? goal query limits entry.1 entry.2.1 entry.2.2) := by
  have listed := (List.mem_filter.1 callable).1
  have holes : ∀ t ∈ Ty.nominal entry.1 :: entry.2.2.arguments, t.isHashable = true :=
    List.forall_mem_cons.2 ⟨rfl, comparable.arguments entry listed⟩
  rcases callFor?_cases comparable goal limits callable with never | sometimes
  · rw [never]
    exact Attempt.succeeds_pure none
  · rw [sometimes]
    refine Attempt.succeeds_bind
      (Query.succeeds_yields (comparable.results entry listed) goalHashable) fun fits _ => ?_
    cases fits with
    | false => exact Attempt.succeeds_pure none
    | true =>
        refine Attempt.succeeds_bind (Attempt.succeeds_allM fun t inside =>
          Query.succeeds_isInhabited comparable counts (holes t inside)
            (List.forall_mem_singleton.2 goalHashable)) fun inhabited _ => ?_
        cases inhabited <;> exact Attempt.succeeds_pure _

theorem areAll_callsAmong (comparable : query.IsComparable)
    (goalHashable : goal.isHashable = true) {entries : List (String × String × Signature)}
    (callable : ∀ entry ∈ entries, entry ∈ query.callableEntries) :
    AreAll limits (fun t => ∃ entry ∈ query.callableEntries,
        entry.2.2.yields goal = .ok true ∧ t = callOf entry.1 entry.2.1 entry.2.2)
      (callsAmong goal query limits entries) := by
  induction entries with
  | nil => exact Proposals.areAll_nothing
  | cons entry entries ih =>
      obtain ⟨here, rest⟩ := List.forall_mem_cons.1 callable
      refine Proposals.areAll_needing
        (fun counts => succeeds_callFor? comparable counts goalHashable here) fun call found =>
        Proposals.areAll_andThen (Proposals.areAll_ofList fun t member => ?_) (ih rest)
      exact ⟨entry, here, yields_of_callFor? comparable here found (Option.mem_toList.1 member)⟩

theorem areAll_catalogCalls (comparable : query.IsComparable)
    (goalHashable : goal.isHashable = true) :
    AreAll limits (fun t => ∃ entry ∈ query.callableEntries,
        entry.2.2.yields goal = .ok true ∧ t = callOf entry.1 entry.2.1 entry.2.2)
      (proposeCatalogCalls goal query limits) :=
  areAll_callsAmong comparable goalHashable fun _ => id

theorem isFilling_callOf (ordinary : query.IsOrdinary) {entry : String × String × Signature}
    (callable : entry ∈ query.callableEntries) :
    IsFilling query.env (callOf entry.1 entry.2.1 entry.2.2) := by
  refine ⟨everywhere_callOf (fun _ _ _ => ⟨trivial, trivial⟩) rfl
    (ordinary.signature callable).1, ?_⟩
  unfold callOf
  dsimp only
  split <;> rfl

/-! ### All rules -/

/-- What may be proposed for a goal: terms that are built from literals and variables, calls
of listed methods, and what follows the shape of a union or a record. -/
inductive IsProposed (query : Query) (goal : Ty) : Term → Prop
  | built {t : Term} : IsBuilt query.env t → IsProposed query goal t
  | called {entry : String × String × Signature} :
      entry ∈ query.callableEntries →
      IsProposed query goal (callOf entry.1 entry.2.1 entry.2.2)
  | split {t : Term} : t ∈ proposeCaseSplit goal → IsProposed query goal t
  | displayed {t : Term} : t ∈ proposeRecords goal → IsProposed query goal t
  | parsed {t : Term} : t ∈ proposeQueryStrings goal query → IsProposed query goal t

theorem areAll_isProposed (rule : Rule) (ordinary : query.IsOrdinary)
    (goalOrdinary : goal.isOrdinary = true) :
    AreAll limits (IsProposed query goal) (rule.propose goal query limits) := by
  have comparable := ordinary.isComparable
  have goalHashable := Ty.isHashable_of_isOrdinary goalOrdinary
  have ofBuilt {proposals : Proposals} (all : AreAll limits (IsBuilt query.env) proposals) :
      AreAll limits (IsProposed query goal) proposals :=
    all.imp fun _ => .built
  have literal (value : Value) (member : value ∈ query.pools.all) :
      IsBuilt query.env (.literal value) :=
    Term.isBuilt_literal (ordinary.pools value member)
  have textual := Term.isTextual_isBuilt query.env
  have textVar (name : String) (member : name ∈ query.stringVariables) :
      IsBuilt query.env (.var name) :=
    Term.isBuilt_of_mem_namesWhere member
  cases rule with
  | poolLiterals =>
      exact ofBuilt (areAll_poolLiterals comparable goalHashable fun value member _ =>
        literal value member)
  | goalLiteral =>
      exact ofBuilt (Proposals.areAll_ofList (isBuilt_of_mem_goalLiteral goalOrdinary))
  | fittingVariables =>
      exact ofBuilt (areAll_variables comparable goalHashable fun binding member _ =>
        Term.isBuilt_var (Term.isSome_typeOf?_of_mem member))
  | caseSplit => exact Proposals.areAll_ofList fun _ => .split
  | arrays =>
      exact ofBuilt (areAll_arrays fun values items => Term.isBuilt_array fun value member =>
        isAtom_of_isArrayItem ordinary (items value member))
  | records => exact Proposals.areAll_ofList fun _ => .displayed
  | arithmetic =>
      exact ofBuilt (areAll_arithmetic (fun _ => Term.isBuilt_of_mem_namesWhere)
        (fun value member => literal value (List.mem_append_right _ member))
        (fun _ _ => IsBuilt.plus) fun _ _ => IsBuilt.times)
  | joinedTexts =>
      exact ofBuilt (areAll_joinedTexts textual textVar fun value member =>
        literal value (List.mem_append_left _ member))
  | phoneNumbers =>
      exact ofBuilt (Proposals.areAll_ofList (phoneNumbers_textual textual textVar))
  | slices => exact ofBuilt (Proposals.areAll_ofList (slices_textual textual textVar))
  | caseChanges => exact ofBuilt (Proposals.areAll_ofList isBuilt_of_mem_caseChanges)
  | queryStrings => exact Proposals.areAll_ofList fun _ => .parsed
  | catalogCalls =>
      refine (areAll_catalogCalls comparable goalHashable).imp ?_
      rintro _ ⟨entry, callable, _, rfl⟩
      exact .called callable

theorem IsProposed.isFilling (ordinary : query.IsOrdinary) (goalOrdinary : goal.isOrdinary = true)
    {t : Term} (proposed : IsProposed query goal t) : IsFilling query.env t := by
  cases proposed with
  | built built => exact built.isFilling
  | called callable => exact isFilling_callOf ordinary callable
  | split proposed => exact isFilling_of_mem_caseSplit goalOrdinary t proposed
  | displayed proposed => exact isFilling_of_mem_records goalOrdinary t proposed
  | parsed proposed => exact isFilling_of_mem_queryStrings t proposed

/-- All that rules propose are fillings, and no rule is stopped if the limits are counts. -/
theorem areAll_propose (rule : Rule) (ordinary : query.IsOrdinary)
    (goalOrdinary : goal.isOrdinary = true) :
    AreAll limits (IsFilling query.env) (rule.propose goal query limits) :=
  (areAll_isProposed rule ordinary goalOrdinary).imp fun _ =>
    IsProposed.isFilling ordinary goalOrdinary

end Rule

end FunctionSynthesis
