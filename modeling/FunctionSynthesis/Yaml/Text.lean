import FunctionSynthesis.Json.Reader
import FunctionSynthesis.Yaml.Cursor

/-!
# Texts of YAML scalars

A scalar is written plainly, between quotes or as a block of indented lines. Its
lines are folded: a single line end becomes a space, and of several ones all but
the first are kept. In a block that is not folded every line end is kept.
-/

namespace FunctionSynthesis.Yaml

/-- What the end of a line stands for together with the empty lines after it. -/
def fold (first : Char) (more : List Char) : List Char :=
  if first != '\n' then first :: more
  else if more.isEmpty then [' ']
  else more

/-! ### Between quotes -/

/-- The ends of the empty lines that follow. No line may start with a marker. -/
def emptyLines (fuel : Nat) (cursor : Cursor) : Reading (List Char × Cursor) :=
  match fuel with
  | 0 => malformed
  | fuel + 1 =>
      if startsMarker cursor.rest then malformed
      else
        let cursor := cursor.skipWhile isSpace
        match cursor.lineBreak? with
        | none => return ([], cursor)
        | some (c, cursor) => do
            let (more, cursor) ← emptyLines fuel cursor
            return (c :: more, cursor)

/-- The blanks between two words: on one line they are kept. -/
def quotedBlanks (cursor : Cursor) : Reading (List Char × Cursor) :=
  let (spaces, cursor) := cursor.takeWhile isSpace
  match cursor.lineBreak? with
  | none => return (spaces, cursor)
  | some (c, cursor) => do
      let (more, cursor) ← emptyLines (cursor.rest.length + 1) cursor
      return (fold c more, cursor)

/-- The character that the letter after a backslash stands for. -/
def simpleEscape? : Char → Option Char
  | '0' => some (Char.ofNat 0)
  | 'a' => some (Char.ofNat 7)
  | 'b' => some (Char.ofNat 8)
  | 't' => some '\t'
  | '\t' => some '\t'
  | 'n' => some '\n'
  | 'v' => some (Char.ofNat 11)
  | 'f' => some (Char.ofNat 12)
  | 'r' => some '\r'
  | 'e' => some (Char.ofNat 27)
  | ' ' => some ' '
  | '"' => some '"'
  | '\\' => some '\\'
  | '/' => some '/'
  | 'N' => some (Char.ofNat 0x85)
  | '_' => some (Char.ofNat 0xA0)
  | 'L' => some (Char.ofNat 0x2028)
  | 'P' => some (Char.ofNat 0x2029)
  | _ => none

/-- How many hexadecimal digits follow a letter after a backslash. -/
def codeLength? : Char → Option Nat
  | 'x' => some 2
  | 'u' => some 4
  | 'U' => some 8
  | _ => none

/-- The character with a given code. -/
def charOfCode (code : Nat) : Reading Char :=
  if code < 0x110000 then return Json.unitChar code
  else if code < 0x80000000 then
    throw (.fault (.describe .value "chr() arg not in range(0x110000)"))
  else
    throw (.fault (.describe .overflow "the code of a character is too large"))

/-- The characters that an escape stands for, from after its backslash. An
escaped line end stands for nothing. -/
def escape (cursor : Cursor) : Reading (List Char × Cursor) :=
  match cursor.rest with
  | [] => malformed
  | letter :: rest =>
      match simpleEscape? letter, codeLength? letter, cursor.lineBreak? with
      | some c, _, _ => return ([c], cursor.next)
      | none, some length, _ =>
          match (rest.take length).mapM Json.hexValue? with
          | none => malformed
          | some digits => do
              if digits.length < length then malformed
              let code := digits.foldl (fun n digit => 16 * n + digit) 0
              return ([← charOfCode code], cursor.skip (length + 1))
      | none, none, some (_, cursor) => emptyLines (cursor.rest.length + 1) cursor
      | none, none, none => malformed

/-- The text between double quotes, from after the first one. -/
def doubleQuoted (fuel : Nat) (read : List Char) (cursor : Cursor) :
    Reading (String × Cursor) :=
  match fuel, cursor.rest with
  | 0, _ => malformed
  | _, [] => malformed
  | _, '"' :: _ => return (String.ofList read.reverse, cursor.next)
  | fuel + 1, '\\' :: _ => do
      let (found, cursor) ← escape cursor.next
      doubleQuoted fuel (found.reverse ++ read) cursor
  | fuel + 1, c :: rest =>
      if startsBlank (c :: rest) then do
        let (found, cursor) ← quotedBlanks cursor
        doubleQuoted fuel (found.reverse ++ read) cursor
      else doubleQuoted fuel (c :: read) cursor.next

/-- The text between single quotes, from after the first one. A quote inside is
written twice. -/
def singleQuoted (fuel : Nat) (read : List Char) (cursor : Cursor) :
    Reading (String × Cursor) :=
  match fuel, cursor.rest with
  | 0, _ => malformed
  | _, [] => malformed
  | fuel + 1, '\'' :: '\'' :: _ => singleQuoted fuel ('\'' :: read) (cursor.skip 2)
  | _, '\'' :: _ => return (String.ofList read.reverse, cursor.next)
  | fuel + 1, c :: rest =>
      if startsBlank (c :: rest) then do
        let (found, cursor) ← quotedBlanks cursor
        singleQuoted fuel (found.reverse ++ read) cursor
      else singleQuoted fuel (c :: read) cursor.next

def quoted (cursor : Cursor) : Reading (String × Cursor) :=
  let fuel := cursor.rest.length + 1
  match cursor.rest with
  | '"' :: _ => doubleQuoted fuel [] cursor.next
  | '\'' :: _ => singleQuoted fuel [] cursor.next
  | _ => malformed

/-! ### Plain -/

/-- Characters that no plain scalar starts with, unless something other than a
blank follows a dash or, outside brackets, a question mark or colon. -/
def isIndicator (c : Char) : Bool :=
  "-?:,[]\x7b\x7d#&*!|>'\"%@".toList.contains c || c.toNat = 0x60

/-- Characters that end a plain scalar between brackets. -/
def endsInFlow (c : Char) : Bool :=
  ",?[]\x7b\x7d".toList.contains c

/-- Whether a plain scalar starts here. -/
def startsPlain (inFlow : Bool) (chars : List Char) : Bool :=
  match chars with
  | [] => false
  | c :: rest =>
      if startsBlank chars then false
      else if !isIndicator c then true
      else !startsBlank rest && (c = '-' || (!inFlow && (c = '?' || c = ':')))

/-- Whether a colon separates a key from its value. -/
def colonSeparates (inFlow : Bool) (after : List Char) : Bool :=
  startsBlank after ||
    (inFlow && after.head?.any fun c => c != '?' && endsInFlow c)

/-- The characters of a plain scalar up to the next blank. -/
def plainWord (inFlow : Bool) : List Char → List Char
  | [] => []
  | c :: rest =>
      if startsBlank [c] || (c = ':' && colonSeparates inFlow rest) ||
          (inFlow && endsInFlow c) then []
      else c :: plainWord inFlow rest

/-- The ends of the empty lines that follow, if no line starts with a marker,
and the place after them. -/
def plainLines (fuel : Nat) (cursor : Cursor) : Option (List Char) × Cursor :=
  match fuel with
  | 0 => (none, cursor)
  | fuel + 1 =>
      if startsMarker cursor.rest then (none, cursor)
      else
        let cursor := cursor.skipSpaces
        match cursor.lineBreak? with
        | none => (some [], cursor)
        | some (c, cursor) =>
            let (more, cursor) := plainLines fuel cursor
            (more.map (c :: ·), cursor)

/-- What lies behind a word: the text that it stands for, whether a line ends
there, and the place after it. It stands for nothing if no other word can
follow. -/
def plainGap (cursor : Cursor) : List Char × Bool × Cursor :=
  let (spaces, cursor) := cursor.takeWhile (· = ' ')
  match cursor.lineBreak? with
  | none => (spaces, false, cursor)
  | some (c, cursor) =>
      let (more, cursor) := plainLines (cursor.rest.length + 1) cursor
      ((more.map (fold c)).getD [], true, cursor)

/-- A plain scalar, from its first word on: its text, whether a line ends behind
it, and the next place. Outside brackets it goes on in other lines as long as
they are indented so far. -/
def plain (inFlow : Bool) (indent : Int) (fuel : Nat) (cursor : Cursor) :
    List Char × Bool × Cursor :=
  match fuel with
  | 0 => ([], false, cursor)
  | fuel + 1 =>
      let word := plainWord inFlow cursor.rest
      let (gap, crossed, after) := plainGap (cursor.skip word.length)
      let goesOn := !gap.isEmpty && after.rest.head? != some '#' &&
        (inFlow || indent ≤ after.column) &&
        !(plainWord inFlow after.rest).isEmpty
      if goesOn then
        let (more, crossed, after) := plain inFlow indent fuel after
        (word ++ gap ++ more, crossed, after)
      else (word, crossed, after)

/-! ### Blocks -/

/-- What becomes of the line ends behind the last line of a block. -/
inductive Chomping where
  | clip
  | strip
  | keep
  deriving DecidableEq

/-- The sign for what becomes of the last line ends. -/
def chomping? (cursor : Cursor) : Option Chomping × Cursor :=
  match cursor.rest with
  | '+' :: _ => (some .keep, cursor.next)
  | '-' :: _ => (some .strip, cursor.next)
  | _ => (none, cursor)

/-- The digit for how far a block is indented. -/
def blockWidth? (cursor : Cursor) : Option Nat × Cursor :=
  match cursor.rest with
  | c :: _ =>
      if c.isDigit then (some (c.toNat - 48), cursor.next) else (none, cursor)
  | [] => (none, cursor)

/-- The first line of a block, from after its indicator: the sign and the digit
come in either order, and a comment may follow. -/
def blockHeader (cursor : Cursor) : Reading (Chomping × Option Nat × Cursor) := do
  let (early, cursor) := chomping? cursor
  let (width, cursor) := blockWidth? cursor
  let (late, cursor) :=
    if early.isNone && width.isSome then chomping? cursor else (none, cursor)
  if width = some 0 || !endsField cursor.rest then malformed
  return ((early.or late).getD .clip, width, ← cursor.finishLine)

/-- The ends of the empty lines in front of a block, and how far the widest of
them is indented. -/
def leadingLines (fuel widest : Nat) (cursor : Cursor) :
    List Char × Nat × Cursor :=
  match fuel with
  | 0 => ([], widest, cursor)
  | fuel + 1 =>
      if cursor.rest.head? == some ' ' then
        leadingLines fuel (max widest cursor.next.column) cursor.next
      else
        match cursor.lineBreak? with
        | none => ([], widest, cursor)
        | some (c, cursor) =>
            let (more, widest, cursor) := leadingLines fuel widest cursor
            (c :: more, widest, cursor)

/-- The ends of the empty lines inside a block, and the next place, which is
indented like the block at most. -/
def innerLines (indent fuel : Nat) (cursor : Cursor) : List Char × Cursor :=
  match fuel with
  | 0 => ([], cursor)
  | fuel + 1 =>
      let spaces := (cursor.rest.takeWhile (· = ' ')).length
      let cursor := cursor.skip (min spaces (indent - cursor.column))
      match cursor.lineBreak? with
      | none => ([], cursor)
      | some (c, cursor) =>
          let (more, cursor) := innerLines indent fuel cursor
          (c :: more, cursor)

/-- The lines of a block: their text, the end of the last of them, and the ends
of the empty lines behind it. -/
structure BlockLines where
  text : List Char
  lastEnd : List Char
  emptyEnds : List Char

/-- Whether a line of a block is here. -/
def atBlockLine (indent : Nat) (cursor : Cursor) : Bool :=
  cursor.column = indent && !cursor.rest.isEmpty

/-- Whether a line starts with neither a space nor a tab. -/
def isFlush (cursor : Cursor) : Bool :=
  !cursor.rest.head?.any isSpace

/-- The lines of a block from the start of one on. Between two lines that are
indented no further a folded line end counts as a space. -/
def blockLines (folded : Bool) (indent fuel : Nat) (cursor : Cursor) :
    BlockLines × Cursor :=
  match fuel with
  | 0 => (⟨[], [], []⟩, cursor)
  | fuel + 1 =>
      let (line, after) := cursor.takeWhile fun c => !isBreak c
      let (lineEnd, after) :=
        match after.lineBreak? with
        | none => ([], after)
        | some (c, after) => ([c], after)
      let (empties, after) := innerLines indent (after.rest.length + 1) after
      if atBlockLine indent after then
        let joint :=
          if folded && lineEnd == ['\n'] && isFlush cursor && isFlush after then
            (if empties.isEmpty then [' '] else [])
          else lineEnd
        let (more, after) := blockLines folded indent fuel after
        ({ more with text := line ++ joint ++ empties ++ more.text }, after)
      else (⟨line, lineEnd, empties⟩, after)

/-- A block, from after its indicator, inside a collection that is indented by
`indent`. -/
def block (folded : Bool) (indent : Int) (cursor : Cursor) :
    Reading (String × Cursor) := do
  let (chomping, width, cursor) ← blockHeader cursor
  let least := (max (indent + 1) 1).toNat
  let fuel := cursor.rest.length + 1
  let (empties, column, cursor) :=
    match width with
    | some width =>
        let column := least + width - 1
        let (empties, cursor) := innerLines column fuel cursor
        (empties, column, cursor)
    | none =>
        let (empties, widest, cursor) := leadingLines fuel 0 cursor
        (empties, max least widest, cursor)
  let (lines, cursor) :=
    if atBlockLine column cursor then
      let (lines, cursor) := blockLines folded column fuel cursor
      ({ lines with text := empties ++ lines.text }, cursor)
    else (⟨[], [], empties⟩, cursor)
  let text :=
    match chomping with
    | .strip => lines.text
    | .clip => lines.text ++ lines.lastEnd
    | .keep => lines.text ++ lines.lastEnd ++ lines.emptyEnds
  return (String.ofList text, cursor)

end FunctionSynthesis.Yaml
