/-!
# Finding a text in another

Containment, splitting and replacing, on lists of characters. Occurrences are
found from the left and do not overlap.
-/

namespace FunctionSynthesis.Text

/-- Whether `needle` occurs in a text. -/
def occursIn (needle : List Char) : List Char → Bool
  | [] => needle.isEmpty
  | c :: rest => needle.isPrefixOf (c :: rest) || occursIn needle rest

/-- The pieces of a text between at most `limit` occurrences of a separator that
is not empty. `skip` characters still belong to the occurrence found last, and
`piece` holds the current piece in reverse. -/
def splitFrom (separator : List Char) (skip limit : Nat) (piece : List Char) :
    List Char → List (List Char)
  | [] => [piece.reverse]
  | c :: rest =>
      match skip, limit with
      | skip + 1, limit => splitFrom separator skip limit piece rest
      | 0, 0 => splitFrom separator 0 0 (c :: piece) rest
      | 0, limit + 1 =>
          if separator.isPrefixOf (c :: rest) then
            piece.reverse ::
              splitFrom separator (separator.length - 1) limit [] rest
          else splitFrom separator 0 (limit + 1) (c :: piece) rest

/-- The pieces of a text between occurrences of a separator, of which at most
`limit` count. The separator is not empty. -/
def splitOn (separator : List Char) (limit : Nat) (chars : List Char) :
    List (List Char) :=
  splitFrom separator 0 limit [] chars

/-- Put `new` before each of the first `limit` characters and, if the limit
allows it, at the end. -/
def insertBetween (new : List Char) : Nat → List Char → List Char
  | 0, chars => chars
  | _ + 1, [] => new
  | limit + 1, c :: rest => new ++ c :: insertBetween new limit rest

/-- Replace at most `limit` occurrences of `old` by `new`. An empty `old` occurs
before every character and at the end. -/
def replace (old new : List Char) (limit : Nat) (chars : List Char) :
    List Char :=
  if old.isEmpty then insertBetween new limit chars
  else new.intercalate (splitOn old limit chars)

def join (separator : List Char) (pieces : List (List Char)) : List Char :=
  separator.intercalate pieces

end FunctionSynthesis.Text
