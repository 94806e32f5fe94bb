import Mathlib.Data.List.Forall2
import FunctionSynthesis.Proofs.Attempt
import FunctionSynthesis.Term.Evaluation

/-!
# What the values of terms come from

When a term has a value, so have the parts it is computed from, and the value is
what the node gives for the values of its parts.
-/

namespace FunctionSynthesis.Term

open Attempt (bind_eq_ok_iff pure_eq_ok_iff throw_eq_ok_iff)

variable {values : List (String × Value)}

theorem evaluateAll_eq_ok_iff (ts : List Term) (vs : List Value) :
    evaluateAll values ts = .ok vs ↔
      List.Forall₂ (fun t v => evaluate values t = .ok v) ts vs := by
  induction ts generalizing vs with
  | nil =>
      rw [evaluateAll, pure_eq_ok_iff, List.forall₂_nil_left_iff]
      exact eq_comm
  | cons t ts ih =>
      simp only [evaluateAll, bind_eq_ok_iff, pure_eq_ok_iff, ih,
        List.forall₂_cons_left_iff]
      constructor
      · rintro ⟨v, here, vs, rest, rfl⟩
        exact ⟨v, vs, here, rest, rfl⟩
      · rintro ⟨v, vs, here, rest, rfl⟩
        exact ⟨v, here, vs, rest, rfl⟩

theorem evaluateEntries_eq_ok_iff (entries : List (Term × Term))
    (pairs : Entries) :
    evaluateEntries values entries = .ok pairs ↔
      List.Forall₂ (fun entry pair => evaluate values entry.1 = .ok pair.1 ∧
        evaluate values entry.2 = .ok pair.2) entries pairs := by
  induction entries generalizing pairs with
  | nil =>
      rw [evaluateEntries, pure_eq_ok_iff, List.forall₂_nil_left_iff]
      exact eq_comm
  | cons entry entries ih =>
      simp only [evaluateEntries, bind_eq_ok_iff, pure_eq_ok_iff, ih,
        List.forall₂_cons_left_iff]
      constructor
      · rintro ⟨key, ofKey, value, ofValue, pairs, rest, rfl⟩
        exact ⟨(key, value), pairs, ⟨ofKey, ofValue⟩, rest, rfl⟩
      · rintro ⟨⟨key, value⟩, pairs, ⟨ofKey, ofValue⟩, rest, rfl⟩
        exact ⟨key, ofKey, value, ofValue, pairs, rest, rfl⟩

theorem eq_of_evaluate_literal {w v : Value}
    (evaluated : evaluate values (.literal w) = .ok v) : v = w := by
  rw [evaluate, literalValue] at evaluated
  split at evaluated
  · exact (pure_eq_ok_iff.1 evaluated).symm
  · exact (throw_eq_ok_iff.1 evaluated).elim

theorem eq_of_evaluate_var {name : String} {v w : Value}
    (bound : values.lookup name = some w)
    (evaluated : evaluate values (.var name) = .ok v) : v = w := by
  rw [evaluate, bound] at evaluated
  exact (pure_eq_ok_iff.1 evaluated).symm

/-- What a call computes from the values of its parts: an operator with one
argument is applied, another method has to be there and is called, and a
subscript picks an item. -/
inductive CallGives (receiver : Value) : String → List Value → Value → Prop
  | applied {method operator arg result} :
      Operator.ofMethod? method = some operator →
      operator.apply receiver arg = .ok result →
      CallGives receiver method [arg] result
  | called {method args result} :
      (Operator.ofMethod? method = none ∨ args.length ≠ 1) →
      receiver.callMethod (Text.plainForm method) args = .ok result →
      CallGives receiver method args result
  | picked {method args result} :
      method = "__getitem__" →
      receiver.itemAt (positionOf args) = .ok result →
      CallGives receiver method args result

theorem callGives_of_evaluate_call {r : Term} {m : String} {as : List Term} {v : Value}
    (evaluated : evaluate values (.call r m as) = .ok v) :
    ∃ receiver args, evaluate values r = .ok receiver ∧
      List.Forall₂ (fun t arg => evaluate values t = .ok arg) as args ∧
      CallGives receiver m args v := by
  by_cases single : ∃ a, as = [a]
  · obtain ⟨a, rfl⟩ := single
    rw [evaluate] at evaluated
    obtain ⟨receiver, ofReceiver, evaluated⟩ := bind_eq_ok_iff.1 evaluated
    cases isOperator : Operator.ofMethod? m with
    | some operator =>
        rw [isOperator] at evaluated
        obtain ⟨arg, ofArg, applied⟩ := bind_eq_ok_iff.1 evaluated
        exact ⟨receiver, [arg], ofReceiver, .cons ofArg .nil,
          .applied isOperator applied⟩
    | none =>
        rw [isOperator] at evaluated
        obtain ⟨_, _, evaluated⟩ := bind_eq_ok_iff.1 evaluated
        obtain ⟨arg, ofArg, called⟩ := bind_eq_ok_iff.1 evaluated
        exact ⟨receiver, [arg], ofReceiver, .cons ofArg .nil,
          .called (Or.inl isOperator) called⟩
  · rw [evaluate] at evaluated
    · obtain ⟨receiver, ofReceiver, evaluated⟩ := bind_eq_ok_iff.1 evaluated
      obtain ⟨_, _, evaluated⟩ := bind_eq_ok_iff.1 evaluated
      obtain ⟨args, ofArgs, called⟩ := bind_eq_ok_iff.1 evaluated
      have ofArgs := (evaluateAll_eq_ok_iff as args).1 ofArgs
      refine ⟨receiver, args, ofReceiver, ofArgs, .called (Or.inr ?_) called⟩
      rw [← ofArgs.length_eq]
      exact fun one => single (List.length_eq_one_iff.1 one)
    · exact fun a same => single ⟨a, same⟩

theorem callGives_of_evaluate_subscript {r : Term} {as : List Term} {v : Value}
    (evaluated : evaluate values (.field r "__getitem__" as) = .ok v) :
    ∃ receiver args, evaluate values r = .ok receiver ∧
      List.Forall₂ (fun t arg => evaluate values t = .ok arg) as args ∧
      CallGives receiver "__getitem__" args v := by
  rw [evaluate] at evaluated
  obtain ⟨receiver, ofReceiver, evaluated⟩ := bind_eq_ok_iff.1 evaluated
  rw [if_pos rfl] at evaluated
  obtain ⟨args, ofArgs, picked⟩ := bind_eq_ok_iff.1 evaluated
  exact ⟨receiver, args, ofReceiver, (evaluateAll_eq_ok_iff as args).1 ofArgs,
    .picked rfl picked⟩

theorem exists_of_evaluate_array {ts : List Term} {v : Value}
    (evaluated : evaluate values (.array ts) = .ok v) :
    ∃ items, v = .list items ∧
      List.Forall₂ (fun t item => evaluate values t = .ok item) ts items := by
  rw [evaluate] at evaluated
  obtain ⟨items, all, made⟩ := bind_eq_ok_iff.1 evaluated
  exact ⟨items, (pure_eq_ok_iff.1 made).symm, (evaluateAll_eq_ok_iff ts items).1 all⟩

theorem exists_of_evaluate_record {entries : List (Term × Term)} {v : Value}
    (evaluated : evaluate values (.record entries) = .ok v) :
    ∃ pairs, v = .dict (Entries.ofList pairs) ∧
      List.Forall₂ (fun entry pair => evaluate values entry.1 = .ok pair.1 ∧
        evaluate values entry.2 = .ok pair.2) entries pairs := by
  rw [evaluate] at evaluated
  obtain ⟨pairs, all, made⟩ := bind_eq_ok_iff.1 evaluated
  refine ⟨pairs, ?_, (evaluateEntries_eq_ok_iff entries pairs).1 all⟩
  unfold dictionaryOf at made
  split at made
  · exact (throw_eq_ok_iff.1 made).elim
  · exact (pure_eq_ok_iff.1 made).symm

theorem sliceAt_of_evaluate_slice {r a b : Term} {s : Option Term} {v : Value}
    (evaluated : evaluate values (.slice r a b s) = .ok v) :
    ∃ receiver start stop step, evaluate values r = .ok receiver ∧
      receiver.sliceAt start stop step = .ok v := by
  rw [evaluate] at evaluated
  obtain ⟨receiver, ofReceiver, evaluated⟩ := bind_eq_ok_iff.1 evaluated
  obtain ⟨start, _, evaluated⟩ := bind_eq_ok_iff.1 evaluated
  obtain ⟨stop, _, evaluated⟩ := bind_eq_ok_iff.1 evaluated
  obtain ⟨step, _, cut⟩ := bind_eq_ok_iff.1 evaluated
  exact ⟨receiver, start, stop, step, ofReceiver, cut⟩

end FunctionSynthesis.Term
