import FunctionSynthesis.Value.Text

/-!
# Types

The abstract types of values: the greatest and the least type, the type of one
literal, classes by name with or without a parameter, unions, records with known
keys and type variables. Two unions are equal when they have the same members
and two records when they give the same keys the same types, whatever the order.
-/

namespace FunctionSynthesis

/-- An abstract type. `foreign` stands for a kind that nothing is known about. -/
inductive Ty where
  | top
  | bottom
  | literal (value : Value)
  | text (value : String)
  | nominal (name : String)
  | generic (base : String) (param : Ty)
  | union (members : List Ty)
  | record (fields : List (String × Ty))
  | var (name : String)
  | foreign
  deriving Inhabited

namespace Ty

def integer : Ty := .nominal "int"

def float : Ty := .nominal "float"

def string : Ty := .nominal "str"

def boolean : Ty := .nominal "bool"

def unit : Ty := .nominal "NoneType"

def isTop : Ty → Bool
  | .top => true
  | _ => false

def isBottom : Ty → Bool
  | .bottom => true
  | _ => false

def isUnion : Ty → Bool
  | .union _ => true
  | _ => false

/-! ### Record fields -/

/-- The type of the first field with this name. -/
def firstField? (fields : List (String × Ty)) (key : String) : Option Ty :=
  (fields.find? fun field => field.1 == key).map (·.2)

/-- The type of the last field with this name: the one that counts when a name
is given twice. -/
def lastField? (fields : List (String × Ty)) (key : String) : Option Ty :=
  firstField? fields.reverse key

private def putField (fields : List (String × Ty)) (key : String) (type : Ty) :
    List (String × Ty) :=
  match fields with
  | [] => [(key, type)]
  | (name, old) :: rest =>
      if name == key then (name, type) :: rest
      else (name, old) :: putField rest key type

/-- The fields with each name once: at its first place, with its last type. -/
def fieldMapping (fields : List (String × Ty)) : List (String × Ty) :=
  fields.foldl (fun all field => putField all field.1 field.2) []

/-! ### Equality -/

/-- Whether a table of so many columns has a hit in every row and in every
column. -/
def hitsEverywhere (columns : Nat) (rows : List (List Bool)) : Bool :=
  let found := rows.foldl (List.zipWith or) (List.replicate columns false)
  rows.all (·.any id) && found.all id

mutual

/-- Whether two types are written alike, up to the order of members and fields:
a record in which a name is given twice is not written like one in which it is
given once. -/
def isWrittenLike : Ty → Ty → Bool
  | .top, .top => true
  | .bottom, .bottom => true
  | .literal v, .literal w => v.sameLiteral w
  | .text s, .text t => s == t
  | .nominal n, .nominal m => n == m
  | .generic b p, .generic c q => b == c && isWrittenLike p q
  | .union ts, .union us => hitsEverywhere us.length (likenessTable ts us)
  | .record fs, .record gs => hitsEverywhere gs.length (fieldLikenessTable fs gs)
  | .var n, .var m => n == m
  | .foreign, .foreign => true
  | _, _ => false
termination_by structural t => t

/-- For each of `ts`, which of `us` are written like it. -/
def likenessTable : List Ty → List Ty → List (List Bool)
  | [], _ => []
  | t :: ts, us => (us.map fun u => isWrittenLike t u) :: likenessTable ts us
termination_by structural ts => ts

/-- For each of `fs`, which of `gs` have its name and are written like it. -/
def fieldLikenessTable :
    List (String × Ty) → List (String × Ty) → List (List Bool)
  | [], _ => []
  | (key, t) :: fs, gs =>
      (gs.map fun g => key == g.1 && isWrittenLike t g.2) ::
        fieldLikenessTable fs gs
termination_by structural fs => fs

end

mutual

/-- Equality of types, blind to the order of members and fields. A member of a
union has to be found in the other one as it is written. -/
def equal : Ty → Ty → Bool
  | .top, .top => true
  | .bottom, .bottom => true
  | .literal v, .literal w => v.sameLiteral w
  | .text s, .text t => s == t
  | .nominal n, .nominal m => n == m
  | .generic b p, .generic c q => b == c && equal p q
  | .union ts, .union us => hitsEverywhere us.length (equalTable ts us)
  | .record fs, .record gs =>
      allFieldsMatch fs gs && gs.all fun g => hasField fs g.1
  | .var n, .var m => n == m
  | .foreign, .foreign => true
  | _, _ => false
termination_by structural t => t

/-- For each of `ts`, which of `us` equal it and are written like it. -/
def equalTable : List Ty → List Ty → List (List Bool)
  | [], _ => []
  | t :: ts, us =>
      (us.map fun u => isWrittenLike t u && equal t u) :: equalTable ts us
termination_by structural ts => ts

/-- Every field that counts has an equal one in `gs`; a field counts unless a
later one has its name. -/
def allFieldsMatch : List (String × Ty) → List (String × Ty) → Bool
  | [], _ => true
  | (key, t) :: fs, gs =>
      (hasField fs key ||
        match lastField? gs key with
        | some u => equal t u
        | none => false) &&
      allFieldsMatch fs gs
termination_by structural fs => fs

def hasField : List (String × Ty) → String → Bool
  | [], _ => false
  | (name, _) :: fs, key => name == key || hasField fs key
termination_by structural fs => fs

end

instance : BEq Ty := ⟨equal⟩

/-! ### Text -/

mutual

/-- The short text of a type. -/
def display : Ty → String
  | .top => "Top"
  | .bottom => "Bottom"
  | .literal v => v.literalText
  | .text s => Text.quoted s
  | .nominal name => name
  | .generic base param => base ++ "[" ++ display param ++ "]"
  | .union ts => " | ".intercalate (displays ts)
  | .record fs =>
      "\x7b" ++ Value.commaSeparated (displayFields fs) ++ "\x7d"
  | .var name => "?" ++ name
  | .foreign => "<unknown>"
termination_by structural t => t

def displays : List Ty → List String
  | [] => []
  | t :: ts => display t :: displays ts
termination_by structural ts => ts

def displayFields : List (String × Ty) → List String
  | [] => []
  | (key, t) :: fs => (key ++ ": " ++ display t) :: displayFields fs
termination_by structural fs => fs

end

instance : ToString Ty := ⟨display⟩

mutual

/-- Whether the text of a type can be written: no literal has too many digits. -/
def isWritable : Ty → Bool
  | .literal v => v.isWritable
  | .generic _ param => isWritable param
  | .union ts => areWritable ts
  | .record fs => areWritableFields fs
  | _ => true
termination_by structural t => t

def areWritable : List Ty → Bool
  | [] => true
  | t :: ts => isWritable t && areWritable ts
termination_by structural ts => ts

def areWritableFields : List (String × Ty) → Bool
  | [] => true
  | (_, t) :: fs => isWritable t && areWritableFields fs
termination_by structural fs => fs

end

mutual

def constructorText : Ty → String
  | .top => "TopType()"
  | .bottom => "BottomType()"
  | .literal v => "Singleton(value=" ++ v.literalText ++ ")"
  | .text s => "PreciseString(value=" ++ Text.quoted s ++ ")"
  | .nominal name => "Nominal(name=" ++ Text.quoted name ++ ")"
  | .generic base param =>
      "Generic(base=Nominal(name=" ++ Text.quoted base ++ "), param=" ++
        constructorText param ++ ")"
  | .union ts =>
      "Union(types=" ++ Value.roundBrackets (constructorTexts ts) ++ ")"
  | .record fs =>
      "FiniteRecord(fields=" ++ Value.roundBrackets (constructorFields fs) ++ ")"
  | .var name => "Var(name=" ++ Text.quoted name ++ ")"
  | .foreign => "<unknown>"
termination_by structural t => t

def constructorTexts : List Ty → List String
  | [] => []
  | t :: ts => constructorText t :: constructorTexts ts
termination_by structural ts => ts

def constructorFields : List (String × Ty) → List String
  | [] => []
  | (key, t) :: fs =>
      Value.roundBrackets [Text.quoted key, constructorText t] ::
        constructorFields fs
termination_by structural fs => fs

end

/-! ### Hashing -/

mutual

/-- Whether a type can be a member of a set: its literals have to be. -/
def isHashable : Ty → Bool
  | .literal v => v.isHashable
  | .generic _ param => isHashable param
  | .union ts => areHashable ts
  | .record fs => areHashableFields fs
  | _ => true
termination_by structural t => t

def areHashable : List Ty → Bool
  | [] => true
  | t :: ts => isHashable t && areHashable ts
termination_by structural ts => ts

def areHashableFields : List (String × Ty) → Bool
  | [] => true
  | (_, t) :: fs => isHashable t && areHashableFields fs
termination_by structural fs => fs

end

end Ty

end FunctionSynthesis
