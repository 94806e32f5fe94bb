import FunctionSynthesis.Fault

/-!
# Places in a YAML document

A cursor is a place in a document: what follows it, how many characters lie
before it, and its line and column. Five characters end a line, and a carriage
return together with the line feed after it ends only one.
-/

namespace FunctionSynthesis.Yaml

/-- Why a document has no value: it is malformed, or something in it cannot be
converted. -/
inductive Trouble where
  | malformed
  | fault (fault : Fault)

/-- A result of reading, or why there is none. -/
abbrev Reading := Except Trouble

def malformed {α : Type} : Reading α :=
  throw .malformed

/-! ### Characters -/

/-- Characters that end a line. -/
def isBreak (c : Char) : Bool :=
  [0x0A, 0x0D, 0x85, 0x2028, 0x2029].contains c.toNat

def isSpace (c : Char) : Bool :=
  c = ' ' || c = '\t'

/-- Whether a line ends here. -/
def endsLine : List Char → Bool
  | [] => true
  | c :: _ => isBreak c

/-- Whether a space or the end of a line comes first. -/
def endsField : List Char → Bool
  | [] => true
  | c :: _ => c = ' ' || isBreak c

/-- Whether a space, a tab or the end of a line comes first. -/
def startsBlank : List Char → Bool
  | [] => true
  | c :: _ => isSpace c || isBreak c

/-- Whether three dashes or three points stand here alone. -/
def startsMarker (chars : List Char) : Bool :=
  ["---".toList, "...".toList].contains (chars.take 3) &&
    startsBlank (chars.drop 3)

/-! ### Places -/

structure Cursor where
  rest : List Char
  index : Nat
  line : Nat
  column : Nat

namespace Cursor

def start (chars : List Char) : Cursor :=
  ⟨chars, 0, 0, 0⟩

/-- The mark of byte order, which takes no column. -/
def orderMark : Char := Char.ofNat 0xFEFF

/-- The place after one more character. -/
def next (cursor : Cursor) : Cursor :=
  match cursor.rest with
  | [] => cursor
  | c :: rest =>
      if isBreak c && !(c = '\r' && rest.head? == some '\n') then
        ⟨rest, cursor.index + 1, cursor.line + 1, 0⟩
      else if c = orderMark then ⟨rest, cursor.index + 1, cursor.line, cursor.column⟩
      else ⟨rest, cursor.index + 1, cursor.line, cursor.column + 1⟩

def skip (cursor : Cursor) : Nat → Cursor
  | 0 => cursor
  | n + 1 => cursor.next.skip n

/-- The place after the characters up to the first that fails a test. -/
def skipWhile (cursor : Cursor) (test : Char → Bool) : Cursor :=
  cursor.skip (cursor.rest.takeWhile test).length

/-- The characters up to the first that fails a test, and the place after
them. -/
def takeWhile (cursor : Cursor) (test : Char → Bool) : List Char × Cursor :=
  (cursor.rest.takeWhile test, cursor.skipWhile test)

def skipSpaces (cursor : Cursor) : Cursor :=
  cursor.skipWhile (· = ' ')

/-- The place at the end of the line, if a comment starts here. -/
def skipComment (cursor : Cursor) : Cursor :=
  if cursor.rest.head? == some '#' then
    cursor.skipWhile fun c => !isBreak c
  else cursor

/-- The end of a line, as the character that it stands for in a text, and the
place after it. -/
def lineBreak? (cursor : Cursor) : Option (Char × Cursor) :=
  match cursor.rest with
  | [] => none
  | '\r' :: '\n' :: _ => some ('\n', cursor.skip 2)
  | c :: _ =>
      if !isBreak c then none
      else if c.toNat = 0x2028 || c.toNat = 0x2029 then some (c, cursor.next)
      else some ('\n', cursor.next)

/-- The place after the rest of a line that holds nothing but a comment. -/
def finishLine (cursor : Cursor) : Reading Cursor :=
  let cursor := cursor.skipSpaces.skipComment
  if endsLine cursor.rest then
    return (cursor.lineBreak?.map (·.2)).getD cursor
  else malformed

end Cursor

end FunctionSynthesis.Yaml
