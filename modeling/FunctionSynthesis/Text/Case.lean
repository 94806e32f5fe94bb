import FunctionSynthesis.Text.CaseTable

/-!
# Letter case

Capital, small and title forms of texts. A form may have more characters than
the letter, and the capital sigma has another small form at the end of a word.
-/

namespace FunctionSynthesis.Text

/-- The character that is a given distance away from another one. -/
def shifted (c : Char) (shift : Int) : Char :=
  Char.ofNat (c.toNat + shift).toNat

/-- The form of a character that tables of expansions and runs give. -/
def formIn? (expansions : List (Nat × List Nat)) (runs : List CaseRun)
    (c : Char) : Option (List Char) :=
  match expansions.lookup c.toNat with
  | some codes => some (codes.map Char.ofNat)
  | none => (runs.find? (·.has c.toNat)).map fun run => [shifted c run.shift]

/-- The capital form of a character. -/
def upperChar (c : Char) : List Char :=
  if c.toNat < 0x80 then [c.toUpper]
  else (formIn? upperExpansions upperRuns c).getD [c]

/-- The small form of a character that does not end a word. -/
def lowerChar (c : Char) : List Char :=
  if c.toNat < 0x80 then [c.toLower]
  else (formIn? lowerExpansions lowerRuns c).getD [c]

/-- The form of a character at the start of a capitalised word. -/
def titleChar (c : Char) : List Char :=
  if c.toNat < 0x80 then [c.toUpper]
  else (formIn? titleExpansions titleRuns c).getD (upperChar c)

/-- Letters that have a case. -/
def isCased (c : Char) : Bool :=
  if c.toNat < 0x80 then c.isAlpha else isWithin casedSpans c

/-- Characters that do not separate a letter from its neighbours. -/
def isCaseIgnorable (c : Char) : Bool :=
  isWithin caseIgnorableSpans c

/-- Whether a letter is met first when some characters are gone through. -/
def meetsCased (chars : List Char) : Bool :=
  ((chars.dropWhile isCaseIgnorable).head?).any isCased

/-- The capital sigma, whose small form depends on its place. -/
def capitalSigma : Char := Char.ofNat 0x3A3

/-- The small form of a character between others, those before it in reverse. A
sigma that ends a word has a form of its own. -/
def lowerAmong (before : List Char) (c : Char) (after : List Char) : List Char :=
  if c = capitalSigma then
    if meetsCased before && !meetsCased after then [Char.ofNat 0x3C2]
    else [Char.ofNat 0x3C3]
  else lowerChar c

def upper (chars : List Char) : List Char :=
  chars.flatMap upperChar

/-- The small forms of characters that follow others, those in reverse. -/
def lowerAfter (before : List Char) : List Char → List Char
  | [] => []
  | c :: rest => lowerAmong before c rest ++ lowerAfter (c :: before) rest

def lower (chars : List Char) : List Char :=
  lowerAfter [] chars

/-- The first character in its title form and the rest in small ones. -/
def capitalize : List Char → List Char
  | [] => []
  | c :: rest => titleChar c ++ lowerAfter [c] rest

/-- Characters that follow others, those in reverse, with every word
capitalised; a word starts after each character without case. -/
def titleAfter (before : List Char) : List Char → List Char
  | [] => []
  | c :: rest =>
      (if before.head?.any isCased then lowerAmong before c rest
        else titleChar c) ++ titleAfter (c :: before) rest

def title (chars : List Char) : List Char :=
  titleAfter [] chars

end FunctionSynthesis.Text
