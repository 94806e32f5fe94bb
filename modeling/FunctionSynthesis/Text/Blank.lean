/-!
# Blank characters and line ends

The blank characters are those that stripping and splitting on blanks remove:
the ASCII blanks, the four ASCII separators, the next-line control and the
Unicode spaces. A subset of them also ends a line.
-/

namespace FunctionSynthesis.Text

/-- Code points of the blank characters. -/
def blankCodes : List Nat :=
  [0x09, 0x0A, 0x0B, 0x0C, 0x0D, 0x1C, 0x1D, 0x1E, 0x1F, 0x20, 0x85, 0xA0,
    0x1680, 0x2000, 0x2001, 0x2002, 0x2003, 0x2004, 0x2005, 0x2006, 0x2007,
    0x2008, 0x2009, 0x200A, 0x2028, 0x2029, 0x202F, 0x205F, 0x3000]

/-- Code points of the characters that end a line. -/
def lineEndCodes : List Nat :=
  [0x0A, 0x0B, 0x0C, 0x0D, 0x1C, 0x1D, 0x1E, 0x85, 0x2028, 0x2029]

def isBlank (c : Char) : Bool :=
  blankCodes.contains c.toNat

def isLineEnd (c : Char) : Bool :=
  lineEndCodes.contains c.toNat

/-- Remove the characters that satisfy `drop` from both ends. -/
def trimWith (drop : Char → Bool) (chars : List Char) : List Char :=
  ((chars.dropWhile drop).reverse.dropWhile drop).reverse

def trim (text : String) : String :=
  String.ofList (trimWith isBlank text.toList)

/-- The maximal runs of characters that are not blank. -/
def words (chars : List Char) : List (List Char) :=
  let step (c : Char) (state : List Char × List (List Char)) :=
    if isBlank c then
      ([], if state.1.isEmpty then state.2 else state.1 :: state.2)
    else
      (c :: state.1, state.2)
  let (first, others) := chars.foldr step ([], [])
  if first.isEmpty then others else first :: others

/-- The lines of a text without their ends. A carriage return and the line feed
after it are one end, and an end at the very end opens no further line. -/
def lines (chars : List Char) : List (List Char) :=
  let rec go : List Char → List Char → List (List Char)
    | [], [] => []
    | current, [] => [current.reverse]
    | current, '\r' :: '\n' :: rest => current.reverse :: go [] rest
    | current, c :: rest =>
        if isLineEnd c then current.reverse :: go [] rest
        else go (c :: current) rest
  go [] chars

/-- Every line end written as one line feed: the form in which text files are
read. -/
def universalNewlines (chars : List Char) : List Char :=
  match chars with
  | [] => []
  | '\r' :: '\n' :: rest => '\n' :: universalNewlines rest
  | '\r' :: rest => '\n' :: universalNewlines rest
  | c :: rest => c :: universalNewlines rest

end FunctionSynthesis.Text
