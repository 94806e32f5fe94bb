import FunctionSynthesis.Ty

/-!
# Unions, precise types and widening

`Ty.unionOf` joins types into one canonical union, `Ty.ofValue` gives the most
precise type of a value and `Ty.promote` widens the literals in a type to their
classes.
-/

namespace FunctionSynthesis.Ty

/-! ### Canonical unions -/

mutual

/-- The alternatives of a type: itself, or those of the members of a union. -/
def alternatives : Ty → List Ty
  | .union ts => alternativesOf ts
  | t => [t]
termination_by structural t => t

def alternativesOf : List Ty → List Ty
  | [] => []
  | t :: ts => alternatives t ++ alternativesOf ts
termination_by structural ts => ts

end

/-- Add a type at the end unless it is empty or there already. -/
def addMember (members : List Ty) (t : Ty) : List Ty :=
  if t.isBottom || members.any (fun m => t == m) then members
  else members ++ [t]

/-- The distinct types of a list that are not empty, in order of first
occurrence. -/
def distinctMembers (types : List Ty) : List Ty :=
  types.foldl addMember []

/-- The canonical union of a list of types: nested unions are flattened,
repeated and empty members dropped, and the greatest type absorbs the rest. No
member gives the least type and a single one stands for itself. -/
def unionOf (types : List Ty) : Ty :=
  let flat := alternativesOf types
  if flat.any isTop then .top
  else
    match distinctMembers flat with
    | [] => .bottom
    | [t] => t
    | members => .union members

/-! ### Widening -/

mutual

/-- Widen every literal of a type, one that is not a text by `general`. -/
def promoteWith (general : Value → Ty) : Ty → Ty
  | .literal v => general v
  | .text _ => string
  | .union ts => unionOf (promoteAllWith general ts)
  | .generic base param => .generic base (promoteWith general param)
  | .record fs => .record (promoteFieldsWith general fs)
  | t => t
termination_by structural t => t

def promoteAllWith (general : Value → Ty) : List Ty → List Ty
  | [] => []
  | t :: ts => promoteWith general t :: promoteAllWith general ts
termination_by structural ts => ts

def promoteFieldsWith (general : Value → Ty) :
    List (String × Ty) → List (String × Ty)
  | [] => []
  | (key, t) :: fs => (key, promoteWith general t) :: promoteFieldsWith general fs
termination_by structural fs => fs

end

/-- The class of a value as a type. -/
def classOf (value : Value) : Ty :=
  .nominal value.className

mutual

/-- The most precise type of a value: a literal, a list of what its items widen
to, or a record when all keys of a dictionary are texts. -/
def ofValue : Value → Ty
  | .str s => .text s
  | .list xs => .generic "list" (promoteWith classOf (unionOf (ofValues xs)))
  | .tuple xs => .generic "list" (promoteWith classOf (unionOf (ofValues xs)))
  | .dict es =>
      match ofEntries? es with
      | some fields => .record fields
      | none => .nominal "dict"
  | .set _ => .nominal "set"
  | .special kind _ _ => .nominal kind
  | v => .literal v
termination_by structural v => v

def ofValues : List Value → List Ty
  | [] => []
  | x :: xs => ofValue x :: ofValues xs
termination_by structural xs => xs

/-- The fields of a dictionary, if all its keys are texts. -/
def ofEntries? : Entries → Option (List (String × Ty))
  | [] => some []
  | (k, v) :: es =>
      let type := ofValue v
      match k.text?, ofEntries? es with
      | some key, some fields => some ((key, type) :: fields)
      | _, _ => none
termination_by structural es => es

end

/-- The class of a value, with its parameter where it has one. -/
def generalType (value : Value) : Ty :=
  match value with
  | .list _ => promoteWith classOf (ofValue value)
  | .tuple _ => promoteWith classOf (ofValue value)
  | .dict _ => promoteWith classOf (ofValue value)
  | v => classOf v

/-- Widen the literals of a type to their classes. -/
def promote (t : Ty) : Ty :=
  promoteWith generalType t

/-- The class under which methods of a receiver of this type are listed. -/
def receiverClass? (t : Ty) : Option String :=
  let named : Ty → Option String
    | .generic base _ => some base
    | .nominal name => some name
    | _ => none
  match t with
  | .literal v => named (generalType v)
  | .text _ => named string
  | t => named t

end FunctionSynthesis.Ty
