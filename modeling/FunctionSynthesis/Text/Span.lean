/-!
# Classes of characters

A class of characters is given by the spans of code points that belong to it.
-/

namespace FunctionSynthesis.Text

/-- The first and the last code point of a row without gaps. -/
abbrev Span := Nat × Nat

/-- Whether a character lies in one of some spans. -/
def isWithin (spans : List Span) (c : Char) : Bool :=
  spans.any fun (first, last) => first ≤ c.toNat && c.toNat ≤ last

end FunctionSynthesis.Text
