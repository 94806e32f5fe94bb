import FunctionSynthesis.Fault
import FunctionSynthesis.Ty.Subtype

/-!
# Comparisons that may fail

Unions are compared as sets of their members. A literal list, dictionary or set
cannot be a member of a set, so a comparison that gets to two unions, one of
which has such a literal in it, fails. Other parts of the types are compared
first, and what they settle needs no further comparison.

`Ty.checkedEqual` and `Ty.checkedLe` are the comparisons that may fail. They
agree with `Ty.equal` and `Ty.le` where they do not: types whose literals can
all be members of sets are always comparable.
-/

namespace FunctionSynthesis.Ty

/-- Whether a list has an item that meets a condition, when going through it
stops at the first item after which it does not go on. -/
def meets {α : Type} (condition goesOn : α → Bool) : List α → Bool
  | [] => false
  | x :: xs => condition x || (goesOn x && meets condition goesOn xs)

/-! ### Equality -/

mutual

/-- Whether the equality of two types cannot be decided. -/
def equalFails : Ty → Ty → Bool
  | .union ts, .union us => !areHashable ts || !areHashable us
  | .generic b p, .generic c q => b == c && equalFails p q
  | .record fs, .record gs =>
      let names := (fieldMapping fs).map (·.1)
      names.length == (fieldMapping gs).length &&
        meets
          (fun key => (lastField? gs key).any fun u => fieldFails fs key u)
          (fun key => (lastField? gs key).any fun u =>
            (lastField? fs key).any fun t => equal t u)
          names
  | _, _ => false
termination_by structural t => t

/-- Whether the equality of the last field of this name and a type cannot be
decided. -/
def fieldFails : List (String × Ty) → String → Ty → Bool
  | [], _, _ => false
  | (name, t) :: fs, key, u =>
      if hasField fs key then fieldFails fs key u
      else name == key && equalFails t u
termination_by structural fs => fs

end

/-- The fault of a comparison of unions with members that no set can have. -/
def incomparable : Fault :=
  .describe .type "unhashable type"

/-- Equality, if it can be decided. -/
def checkedEqual (a b : Ty) : Except Fault Bool :=
  if equalFails a b then throw incomparable else return a == b

/-! ### Subtyping -/

mutual

/-- Whether going through the alternatives of a type with a type that is no
union gets to one that fails a test before it finds one above. -/
def failsAmong (a : Ty) (test : Ty → Bool) : Ty → Bool
  | .union us => failsAmongAll a test us
  | b =>
      equalFails a b ||
        (!(isPlainlyAbove a b || b.isBottom) && test b)
termination_by structural b => b

def failsAmongAll (a : Ty) (test : Ty → Bool) : List Ty → Bool
  | [] => false
  | u :: us => failsAmong a test u || (!a.le u && failsAmongAll a test us)
termination_by structural us => us

end

mutual

/-- Whether subtyping cannot be decided, when `literalFails` tells it for a
literal and a type that is neither a literal nor a union. -/
def leFailsWith (literalFails : Value → Ty → Bool) : Ty → Ty → Bool
  | .union ts, b =>
      equalFails (.union ts) b ||
        (!(equal (.union ts) b || b.isTop || b.isBottom) &&
          anyLeFailsWith literalFails ts b)
  | .literal v, b =>
      failsAmong (.literal v) (fun t => !t.isLiteral && literalFails v t) b
  | .generic base param, b =>
      failsAmong (.generic base param) (fun t =>
        match t with
        | .generic base' param' =>
            (base == base' || base' == "object") &&
              leFailsWith literalFails param param'
        | _ => false) b
  | .record fs, b =>
      failsAmong (.record fs) (fun t =>
        match t with
        | .record gs =>
            meets (fun g => fieldLeFailsWith literalFails fs g.1 g.2)
              (fun g => (lastField? fs g.1).any fun t => t.le g.2) gs
        | _ => false) b
  | _, _ => false
termination_by structural a => a

/-- Whether comparing types with `b` one after the other fails before one is not
below it. -/
def anyLeFailsWith (literalFails : Value → Ty → Bool) : List Ty → Ty → Bool
  | [], _ => false
  | t :: ts, b =>
      leFailsWith literalFails t b ||
        (t.le b && anyLeFailsWith literalFails ts b)
termination_by structural ts => ts

/-- Whether comparing the last field of this name with a type fails. -/
def fieldLeFailsWith (literalFails : Value → Ty → Bool) :
    List (String × Ty) → String → Ty → Bool
  | [], _, _ => false
  | (name, t) :: fs, key, b =>
      if hasField fs key then fieldLeFailsWith literalFails fs key b
      else name == key && leFailsWith literalFails t b
termination_by structural fs => fs

end

/-- Whether it cannot be decided that a type is below another. -/
def leFails (a b : Ty) : Bool :=
  !(a.isHashable && b.isHashable) &&
    leFailsWith (fun v t => leFailsWith (fun _ _ => false) (generalType v) t) a b

theorem leFails_eq_false {a b : Ty} (ha : a.isHashable) (hb : b.isHashable) :
    leFails a b = false := by
  simp [leFails, ha, hb]

/-- Subtyping, if it can be decided. -/
def checkedLe (a b : Ty) : Except Fault Bool :=
  if leFails a b then throw incomparable else return a.le b

/-- Whether a type is below another as it is or when it is widened. -/
def checkedFits (actual expected : Ty) : Except Fault Bool := do
  if ← actual.checkedLe expected then return true
  actual.promote.checkedLe expected

/-! ### Unions -/

/-- Whether some of a list of types cannot be told from the ones before it, when
`members` are there already. -/
def distinctFails (members : List Ty) : List Ty → Bool
  | [] => false
  | t :: ts =>
      (!t.isBottom && meets (fun m => equalFails m t) (fun m => !equal t m) members) ||
        distinctFails (addMember members t) ts

/-- Whether a list of types cannot be joined, since they cannot be told apart.
The greatest type absorbs what comes after it unseen. -/
def unionFails (types : List Ty) : Bool :=
  distinctFails [] ((alternativesOf types).takeWhile fun t => !t.isTop)

/-- The canonical union of a list of types, if they can be told apart. -/
def checkedUnion (types : List Ty) : Except Fault Ty :=
  if unionFails types then throw incomparable else return unionOf types

end FunctionSynthesis.Ty
