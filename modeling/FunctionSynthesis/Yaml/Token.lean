import FunctionSynthesis.Text.Numeral
import FunctionSynthesis.Yaml.Cursor

/-!
# Tokens of YAML

The tokens of a document, and how those of them are written that carry a name:
anchors and aliases, tags and directives. The kind and extent of collections by
indentation are tokens of their own.
-/

namespace FunctionSynthesis.Yaml

inductive Token where
  | streamEnd
  | documentStart
  | documentEnd
  | version (major : Nat)
  | tagHandle (handle expansion : String)
  | otherDirective
  | blockSequence
  | blockMapping
  | blockEnd
  | openSequence
  | closeSequence
  | openMapping
  | closeMapping
  | comma
  | entry
  | key
  | value
  | alias (name : String)
  | anchor (name : String)
  | tag (handle : Option String) (suffix : String)
  | scalar (isPlain : Bool) (text : String)
  /-- No token can be read any more. -/
  | unreadable (trouble : Trouble)

namespace Token

def isNameChar (c : Char) : Bool :=
  c.isAlphanum || c = '-' || c = '_'

/-- Whether a name may end here. -/
def endsName (rest : List Char) : Bool :=
  startsBlank rest ||
    rest.head?.any fun c =>
      "?:,]\x7d%@".toList.contains c || c.toNat = 0x60

/-- The name of an anchor, from after its indicator. -/
def name (cursor : Cursor) : Reading (String × Cursor) :=
  let (chars, cursor) := cursor.takeWhile isNameChar
  if chars.isEmpty || !endsName cursor.rest then malformed
  else return (String.ofList chars, cursor)

/-! ### Tags -/

/-- Characters that stand for themselves in a tag. -/
def isTagChar (c : Char) : Bool :=
  c.isAlphanum || "-;/?:@&=+$,_.!~*'()[]".toList.contains c

/-- The bytes of escapes that follow each other. -/
def escapedBytes (fuel : Nat) (chars : List Char) :
    Option (List UInt8 × List Char) :=
  match fuel, chars with
  | fuel + 1, '%' :: rest =>
      match (rest.take 2).mapM fun c => Text.baseDigit? 16 c with
      | some [high, low] => do
          let (bytes, rest) ← escapedBytes fuel (rest.drop 2)
          return (UInt8.ofNat (16 * high + low) :: bytes, rest)
      | _ => none
  | _, chars => some ([], chars)

/-- The text that bytes encode. -/
def decoded? (bytes : List UInt8) : Option String :=
  String.fromUTF8? ⟨bytes.toArray⟩

def tagChars (fuel : Nat) (cursor : Cursor) : Reading (String × Cursor) :=
  match fuel with
  | 0 => return ("", cursor)
  | fuel + 1 =>
      let (chars, after) := cursor.takeWhile isTagChar
      if after.rest.head? == some '%' then
        match escapedBytes after.rest.length after.rest with
        | none => malformed
        | some (bytes, rest) =>
            match decoded? bytes with
            | none => malformed
            | some text => do
                let length := after.rest.length - rest.length
                let (more, after) ← tagChars fuel (after.skip length)
                return (String.ofList chars ++ text ++ more, after)
      else return (String.ofList chars, after)

/-- The main part of a tag, which is not empty. -/
def tagSuffix (cursor : Cursor) : Reading (String × Cursor) := do
  let (text, cursor) ← tagChars (cursor.rest.length + 1) cursor
  if text.isEmpty then malformed
  return (text, cursor)

/-- The handle at the start of a tag: a name between exclamation marks, or one
of them alone if a space follows. -/
def handle (cursor : Cursor) : Reading (String × Cursor) :=
  match cursor.rest with
  | '!' :: ' ' :: _ => return ("!", cursor.next)
  | '!' :: _ =>
      let (chars, after) := cursor.next.takeWhile isNameChar
      if after.rest.head? == some '!' then
        return (String.ofList ('!' :: chars ++ ['!']), after.next)
      else malformed
  | _ => malformed

/-- A tag without the check of what follows it. -/
def tagParts (cursor : Cursor) : Reading (Option String × String × Cursor) := do
  let following := cursor.rest.drop 1
  if following.head? == some '<' then
    let (suffix, cursor) ← tagSuffix (cursor.skip 2)
    if cursor.rest.head? != some '>' then malformed
    return (none, suffix, cursor.next)
  else if startsBlank following then return (none, "!", cursor.next)
  else
    let word := following.takeWhile fun c => !endsField [c]
    let (first, cursor) ←
      if word.contains '!' then handle cursor else pure ("!", cursor.next)
    let (suffix, cursor) ← tagSuffix cursor
    return (some first, suffix, cursor)

/-- A tag, from its exclamation mark on. -/
def readTag (cursor : Cursor) : Reading (Token × Cursor) := do
  let (first, suffix, cursor) ← tagParts cursor
  if endsField cursor.rest then return (.tag first suffix, cursor)
  else malformed

/-! ### Directives -/

def directiveNumber (cursor : Cursor) : Reading (Nat × Cursor) :=
  let (digits, cursor) := cursor.takeWhile Char.isDigit
  if digits.isEmpty then malformed
  else if Value.longestNumeral < digits.length then
    throw (.fault (.tooManyDigits (some digits.length)))
  else return (Binary64.digitsValue digits, cursor)

/-- The version of YAML that a document is written in. -/
def readVersion (cursor : Cursor) : Reading (Token × Cursor) := do
  let (major, cursor) ← directiveNumber cursor.skipSpaces
  if cursor.rest.head? != some '.' then malformed
  let (_, cursor) ← directiveNumber cursor.next
  if !endsField cursor.rest then malformed
  return (.version major, cursor)

/-- A handle and what it stands for. -/
def readHandle (cursor : Cursor) : Reading (Token × Cursor) := do
  let (first, cursor) ← handle cursor.skipSpaces
  if cursor.rest.head? != some ' ' then malformed
  let (expansion, cursor) ← tagSuffix cursor.skipSpaces
  if !endsField cursor.rest then malformed
  return (.tagHandle first expansion, cursor)

/-- A directive with the rest of its line, from its percent sign on. -/
def readDirective (cursor : Cursor) : Reading (Token × Cursor) := do
  let (chars, cursor) := cursor.next.takeWhile isNameChar
  if chars.isEmpty || !endsField cursor.rest then malformed
  let (token, cursor) ←
    match String.ofList chars with
    | "YAML" => readVersion cursor
    | "TAG" => readHandle cursor
    | _ => pure (.otherDirective, cursor.skipWhile fun c => !isBreak c)
  return (token, ← cursor.finishLine)

end Token

end FunctionSynthesis.Yaml
