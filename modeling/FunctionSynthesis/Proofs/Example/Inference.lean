import Mathlib.Data.List.Nodup
import FunctionSynthesis.Example.Inference
import FunctionSynthesis.Proofs.Grammar.Rule
import FunctionSynthesis.Proofs.Ty.General

/-!
# Queries inferred from examples

A query for a function with given examples has variables of different names, whose types are
inferred from values, a goal without literals and pools of texts and of integers
(`Query.isInferred_of_ofExamples`).
-/

namespace FunctionSynthesis

/-! ### Signatures -/

namespace Example

theorem isInferred_unionOf_ofValue (values : List Value) :
    (Ty.unionOf (values.map Ty.ofValue)).IsInferred :=
  Ty.isInferred_unionOf (List.forall_mem_map.2 fun v _ => Ty.isInferred_ofValue v)

theorem isInferred_argumentType (values : List Value) : (argumentType values).IsInferred := by
  have joined := isInferred_unionOf_ofValue values
  unfold argumentType
  dsimp only
  split
  · exact joined.isGeneral_promote.isInferred
  · exact joined

/-- An argument has a union for its type only when its values have been widened. -/
theorem isGeneral_argumentType {values : List Value}
    (several : (argumentType values).isUnion = true) : (argumentType values).IsGeneral := by
  unfold argumentType at several ⊢
  dsimp only at several ⊢
  split at several
  next union =>
    rw [if_pos union]
    exact (isInferred_unionOf_ofValue values).isGeneral_promote
  next alone => exact absurd several alone

theorem isGeneral_resultType (examples : List Example) : (resultType examples).IsGeneral :=
  (Ty.isInferred_unionOf (List.forall_mem_map.2 fun x _ =>
    Ty.isInferred_ofValue x.output)).isGeneral_promote

end Example

theorem Term.parameterName_injective : Function.Injective parameterName := by
  intro i j same
  have texts : "arg" ++ i.repr = "arg" ++ j.repr := same
  have digits : Nat.toDigits 10 i = Nat.toDigits 10 j := by simpa [← String.toList_inj] using texts
  calc i = Nat.ofDigitChars 10 (Nat.toDigits 10 i) 0 :=
        (Nat.ofDigitChars_toDigits (by decide) (by decide)).symm
    _ = Nat.ofDigitChars 10 (Nat.toDigits 10 j) 0 := by rw [digits]
    _ = j := Nat.ofDigitChars_toDigits (by decide) (by decide)

theorem Term.nodup_parameterNames (arity : Nat) : (parameterNames arity).Nodup :=
  List.Nodup.map parameterName_injective List.nodup_range

/-! ### Queries -/

/-- Whether a query can come from examples: its variables have different names and types
that are inferred from values, unions only if these are widened, its goal is widened, its
pools are of texts and of integers and its methods those of the standard catalog. -/
structure Query.IsInferred (query : Query) : Prop where
  types : ∀ binding ∈ query.env, binding.2.IsInferred
  unions : ∀ binding ∈ query.env, binding.2.isUnion = true → binding.2.IsGeneral
  names : (query.env.map Prod.fst).Nodup
  goal : query.goal.IsGeneral
  strings : ∀ value ∈ query.pools.strings, ∃ s, value = .str s
  integers : ∀ value ∈ query.pools.integers, ∃ n, value = .int n
  catalog : query.catalog = Catalog.standard

namespace Query

variable {query : Query}

theorem IsInferred.isOrdinary (inferred : query.IsInferred) : query.IsOrdinary where
  env binding member := (inferred.types binding member).isOrdinary
  goal := inferred.goal.isInferred.isOrdinary
  pools value member := by
    rcases List.mem_append.1 member with text | integer
    · obtain ⟨s, rfl⟩ := inferred.strings value text
      rfl
    · obtain ⟨n, rfl⟩ := inferred.integers value integer
      rfl
  catalog := inferred.catalog ▸ Catalog.isOrdinary_standard
  results := inferred.catalog ▸ Catalog.item_of_standard

/-- The bindings of a signature are the names of the parameters with types of values. -/
theorem forall₂_of_signature {examples : List Example} {env : Environment} {goal : Ty}
    (inferred : Example.signature examples = .ok (env, goal)) :
    goal.IsGeneral ∧
      List.Forall₂ (fun name (binding : String × Ty) =>
        binding.1 = name ∧ ∃ values, binding.2 = Example.argumentType values)
        (Term.parameterNames (Example.arityOf examples)) env := by
  unfold Example.signature at inferred
  split at inferred
  · exact (Attempt.throw_eq_ok_iff.1 inferred).elim
  · obtain ⟨env, typed, inferred⟩ := Attempt.bind_eq_ok_iff.1 inferred
    cases Attempt.pure_eq_ok_iff.1 inferred
    refine ⟨Example.isGeneral_resultType examples, ?_⟩
    rw [← List.zipIdx_map_fst 0 (Term.parameterNames _), List.forall₂_map_left_iff]
    refine (Attempt.forall₂_of_mapM_eq_ok typed).imp fun position binding made => ?_
    obtain ⟨values, _, made⟩ := Attempt.bind_eq_ok_iff.1 made
    obtain rfl := Attempt.pure_eq_ok_iff.1 made
    exact ⟨rfl, values, rfl⟩

theorem pools_of_ofExamples {examples : List Example} {maxSize maxLength : Value}
    {pools : Pools} (collected : Pools.ofExamples examples maxSize maxLength = .ok pools) :
    (∀ value ∈ pools.strings, ∃ s, value = .str s) ∧
      ∀ value ∈ pools.integers, ∃ n, value = .int n := by
  obtain ⟨texts, _, collected⟩ := Attempt.bind_eq_ok_iff.1 collected
  obtain ⟨strings, _, collected⟩ := Attempt.bind_eq_ok_iff.1 collected
  obtain ⟨integers, _, collected⟩ := Attempt.bind_eq_ok_iff.1 collected
  obtain rfl := Attempt.pure_eq_ok_iff.1 collected
  exact ⟨List.forall_mem_map.2 fun s _ => ⟨s, rfl⟩, List.forall_mem_map.2 fun n _ => ⟨n, rfl⟩⟩

theorem isInferred_of_ofExamples {examples : List Example} {settings : Settings}
    (inferred : ofExamples examples settings none = .ok query) : query.IsInferred := by
  obtain ⟨⟨env, goal⟩, signature, inferred⟩ := Attempt.bind_eq_ok_iff.1 inferred
  obtain ⟨pools, collected, inferred⟩ := Attempt.bind_eq_ok_iff.1 inferred
  obtain rfl := Attempt.pure_eq_ok_iff.1 inferred
  obtain ⟨general, bindings⟩ := forall₂_of_signature signature
  obtain ⟨strings, integers⟩ := pools_of_ofExamples collected
  have types : ∀ binding ∈ env, ∃ values, binding.2 = Example.argumentType values :=
    fun binding member => (Attempt.exists_of_mem_right bindings member).elim fun _ h => h.2.2
  have names : env.map Prod.fst = Term.parameterNames (Example.arityOf examples) := by
    rw [← List.forall₂_eq_eq_eq, List.forall₂_map_left_iff]
    exact bindings.flip.imp fun _ _ => And.left
  refine ⟨fun binding member => ?_, fun binding member several => ?_, ?_, general, strings,
    integers, rfl⟩
  · obtain ⟨values, type⟩ := types binding member
    exact type ▸ Example.isInferred_argumentType values
  · obtain ⟨values, type⟩ := types binding member
    rw [type] at several ⊢
    exact Example.isGeneral_argumentType several
  · exact names ▸ Term.nodup_parameterNames _

end Query

end FunctionSynthesis
