import FunctionSynthesis.Ty

/-!
# Terms

Programs are trees of terms. A hole stands for a subterm that is still to be
found and carries the type that its filling is promised to have. A filled hole
lists the candidates proposed for it. A term without holes is closed.
-/

namespace FunctionSynthesis

/-- A program or a part of one. `foreign` stands for a kind of node that
nothing is known about. -/
inductive Term where
  | literal (value : Value)
  | var (name : String)
  | call (receiver : Term) (method : String) (args : List Term)
  | field (receiver : Term) (name : String) (args : List Term)
  | array (items : List Term)
  | record (entries : List (Term × Term))
  | slice (receiver start stop : Term) (step : Option Term)
  | hole (goal : Ty) (dependent : Bool)
  | filled (goal : Ty) (candidates : List Term)
  | foreign
  deriving Inhabited

namespace Term

/-- The name of the kind of a node. -/
def kindName : Term → String
  | .literal _ => "Literal"
  | .var _ => "VariableRef"
  | .call _ _ _ => "MethodCall"
  | .field _ _ _ => "FieldAccess"
  | .array _ => "ArrayLiteral"
  | .record _ => "RecordLiteral"
  | .slice _ _ _ _ => "SliceExpr"
  | .hole _ _ => "Hole"
  | .filled _ _ => "FilledHole"
  | .foreign => "Unknown"

/-! ### Common terms -/

/-- The literal that stands for an absent value. -/
def nothing : Term := .literal .none

def int (n : Int) : Term := .literal (.int n)

def str (s : String) : Term := .literal (.str s)

def plus (a b : Term) : Term := .call a "__add__" [b]

def times (a b : Term) : Term := .call a "__mul__" [b]

/-- The item of `receiver` at a position. -/
def item (receiver : Term) (position : Value) : Term :=
  .field receiver "__getitem__" [.literal position]

def reversed (receiver : Term) : Term :=
  .slice receiver nothing nothing (some (int (-1)))

/-- `receiver` between two positions. -/
def between (receiver : Term) (start stop : Value) : Term :=
  .slice receiver (.literal start) (.literal stop) none

/-! ### Equality -/

mutual

/-- Equality of terms whose goals are compared by `sameGoal`. Literals are told
apart by their class too. -/
def equalWith (sameGoal : Ty → Ty → Bool) : Term → Term → Bool
  | .literal v, .literal w => v.sameLiteral w
  | .var x, .var y => x == y
  | .call r m as, .call r' m' as' =>
      equalWith sameGoal r r' && m == m' && equalAllWith sameGoal as as'
  | .field r m as, .field r' m' as' =>
      equalWith sameGoal r r' && m == m' && equalAllWith sameGoal as as'
  | .array ts, .array us => equalAllWith sameGoal ts us
  | .record es, .record fs => equalEntriesWith sameGoal es fs
  | .slice r a b s, .slice r' a' b' s' =>
      equalWith sameGoal r r' && equalWith sameGoal a a' &&
        equalWith sameGoal b b' && equalStepWith sameGoal s s'
  | .hole g d, .hole g' d' => sameGoal g g' && d == d'
  | .filled g cs, .filled g' cs' =>
      sameGoal g g' && equalAllWith sameGoal cs cs'
  | .foreign, .foreign => true
  | _, _ => false
termination_by structural t => t

def equalAllWith (sameGoal : Ty → Ty → Bool) : List Term → List Term → Bool
  | [], [] => true
  | t :: ts, u :: us => equalWith sameGoal t u && equalAllWith sameGoal ts us
  | _, _ => false
termination_by structural ts => ts

def equalEntriesWith (sameGoal : Ty → Ty → Bool) :
    List (Term × Term) → List (Term × Term) → Bool
  | [], [] => true
  | (k, v) :: es, f :: fs =>
      equalWith sameGoal k f.1 && equalWith sameGoal v f.2 &&
        equalEntriesWith sameGoal es fs
  | _, _ => false
termination_by structural es => es

def equalStepWith (sameGoal : Ty → Ty → Bool) :
    Option Term → Option Term → Bool
  | .none, .none => true
  | .some s, .some s' => equalWith sameGoal s s'
  | _, _ => false
termination_by structural s => s

end

def equal : Term → Term → Bool :=
  equalWith (· == ·)

instance : BEq Term := ⟨equal⟩

/-- Whether two terms are one member of a set: they are equal, and so is how
their goals are written. -/
def isSameMember : Term → Term → Bool :=
  equalWith fun g h => g.isWrittenLike h && g == h

def isReversal : Term → Bool
  | .slice _ start stop (some step) =>
      start == nothing && stop == nothing && step == int (-1)
  | _ => false

/-! ### Literals and goals -/

mutual

/-- Whether the literals and the goals of a term meet conditions, those of
candidates included. -/
def allLeaves (value : Value → Bool) (goal : Ty → Bool) : Term → Bool
  | .literal v => value v
  | .call r _ as => allLeaves value goal r && allLeavesOf value goal as
  | .field r _ as => allLeaves value goal r && allLeavesOf value goal as
  | .array ts => allLeavesOf value goal ts
  | .record es => allLeavesOfEntries value goal es
  | .slice r a b s =>
      allLeaves value goal r && allLeaves value goal a &&
        allLeaves value goal b && allLeavesOfStep value goal s
  | .hole g _ => goal g
  | .filled g cs => goal g && allLeavesOf value goal cs
  | _ => true
termination_by structural t => t

def allLeavesOf (value : Value → Bool) (goal : Ty → Bool) : List Term → Bool
  | [] => true
  | t :: ts => allLeaves value goal t && allLeavesOf value goal ts
termination_by structural ts => ts

def allLeavesOfEntries (value : Value → Bool) (goal : Ty → Bool) :
    List (Term × Term) → Bool
  | [] => true
  | (k, v) :: es =>
      allLeaves value goal k && allLeaves value goal v &&
        allLeavesOfEntries value goal es
termination_by structural es => es

def allLeavesOfStep (value : Value → Bool) (goal : Ty → Bool) :
    Option Term → Bool
  | .none => true
  | .some s => allLeaves value goal s
termination_by structural s => s

end

/-- Whether a term can be a member of a set. -/
def isHashable (t : Term) : Bool :=
  t.allLeaves Value.isHashable Ty.isHashable

/-- Whether no integer in a term is too long to be written. -/
def isWritable (t : Term) : Bool :=
  t.allLeaves Value.isWritable Ty.isWritable

/-! ### Text -/

private def truthText (b : Bool) : String :=
  if b then "True" else "False"

mutual

def constructorText : Term → String
  | .literal v => "Literal(value=" ++ v.literalText ++ ")"
  | .var name => "VariableRef(name=" ++ Text.quoted name ++ ")"
  | .call r m as =>
      "MethodCall(receiver=" ++ constructorText r ++ ", name=" ++
        Text.quoted m ++ ", args=" ++
        Value.roundBrackets (constructorTexts as) ++ ")"
  | .field r m as =>
      "FieldAccess(receiver=" ++ constructorText r ++ ", name=" ++
        Text.quoted m ++ ", args=" ++
        Value.roundBrackets (constructorTexts as) ++ ")"
  | .array ts =>
      "ArrayLiteral(items=" ++ Value.roundBrackets (constructorTexts ts) ++ ")"
  | .record es =>
      "RecordLiteral(entries=" ++
        Value.roundBrackets (constructorEntries es) ++ ")"
  | .slice r a b s =>
      "SliceExpr(receiver=" ++ constructorText r ++ ", start=" ++
        constructorText a ++ ", end=" ++ constructorText b ++ ", step=" ++
        constructorStep s ++ ")"
  | .hole g d =>
      "Hole(goal=" ++ g.constructorText ++ ", dependent=" ++ truthText d ++ ")"
  | .filled g cs =>
      "FilledHole(goal=" ++ g.constructorText ++ ", candidates=" ++
        Value.roundBrackets (constructorTexts cs) ++ ")"
  | .foreign => "<unknown>"
termination_by structural t => t

def constructorTexts : List Term → List String
  | [] => []
  | t :: ts => constructorText t :: constructorTexts ts
termination_by structural ts => ts

def constructorEntries : List (Term × Term) → List String
  | [] => []
  | (k, v) :: es =>
      Value.roundBrackets [constructorText k, constructorText v] ::
        constructorEntries es
termination_by structural es => es

def constructorStep : Option Term → String
  | .none => "None"
  | .some s => constructorText s
termination_by structural s => s

end

end Term

end FunctionSynthesis
