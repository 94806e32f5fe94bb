import FunctionSynthesis.Ty.Widening

/-!
# Subtyping

`a.le b` decides whether every value of `a` is one of `b`, as far as the rules
know: shapes that no rule relates are unrelated. A union is below a type when
all its members are, and a type that is not a union is below a union when it is
below some alternative.
-/

namespace FunctionSynthesis.Ty

def isObject : Ty → Bool
  | .nominal name => name == "object"
  | _ => false

def isLiteral : Ty → Bool
  | .literal _ => true
  | _ => false

/-- Whether some alternative of a type passes a test. -/
def anyAlternative (test : Ty → Bool) (t : Ty) : Bool :=
  t.alternatives.any test

/-- What every type that is neither empty, greatest nor a union is below. -/
def isPlainlyAbove (a b : Ty) : Bool :=
  equal a b || b.isTop || b.isObject

mutual

/-- Subtyping in which `literalLe` relates a literal to the types that are
neither literals nor unions. -/
def leWith (literalLe : Value → Ty → Bool) : Ty → Ty → Bool
  | .bottom, _ => true
  | .top, b => b.isTop
  | .union ts, b =>
      equal (.union ts) b || b.isTop || (!b.isBottom && allLeWith literalLe ts b)
  | .literal v, b =>
      b.anyAlternative fun t =>
        isPlainlyAbove (.literal v) t || (!t.isLiteral && literalLe v t)
  | .text s, b =>
      b.anyAlternative fun t => isPlainlyAbove (.text s) t || equal string t
  | .generic base param, b =>
      b.anyAlternative fun t =>
        isPlainlyAbove (.generic base param) t ||
          match t with
          | .generic base' param' =>
              (base == base' || base' == "object") &&
                leWith literalLe param param'
          | .nominal name => base == name
          | _ => false
  | .record fs, b =>
      b.anyAlternative fun t =>
        isPlainlyAbove (.record fs) t ||
          match t with
          | .record gs =>
              gs.all fun g => lastFieldLeWith literalLe fs g.1 g.2
          | .nominal name => name == "dict"
          | _ => false
  | a, b => b.anyAlternative fun t => isPlainlyAbove a t
termination_by structural a => a

/-- All of a list of types are below `b`. -/
def allLeWith (literalLe : Value → Ty → Bool) : List Ty → Ty → Bool
  | [], _ => true
  | t :: ts, b => leWith literalLe t b && allLeWith literalLe ts b
termination_by structural ts => ts

/-- The last field of this name is present and its type below `b`. -/
def lastFieldLeWith (literalLe : Value → Ty → Bool) :
    List (String × Ty) → String → Ty → Bool
  | [], _, _ => false
  | (name, t) :: fs, key, b =>
      if hasField fs key then lastFieldLeWith literalLe fs key b
      else name == key && leWith literalLe t b
termination_by structural fs => fs

end

/-- Subtyping. A literal is below what its class is below; classes have no
literals in them, so one nested use settles those. -/
def le (a b : Ty) : Bool :=
  leWith (fun v t => leWith (fun _ _ => false) (generalType v) t) a b

/-- Values of this type, if there are any, are integers. -/
def isIntegerLike (t : Ty) : Bool :=
  !t.isBottom && t.le integer

/-- Values of this type, if there are any, are texts. -/
def isStringLike (t : Ty) : Bool :=
  !t.isBottom && t.le string

end FunctionSynthesis.Ty
