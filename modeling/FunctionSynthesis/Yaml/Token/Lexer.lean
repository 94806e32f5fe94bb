import FunctionSynthesis.Yaml.Text
import FunctionSynthesis.Yaml.Token

/-!
# Reading the tokens of YAML

Whether a node is a key shows only at the colon behind it: the token of a key is
then put in front of it, later than the tokens of the node. Such a node stands
on one line and has at most a thousand and some characters. Tokens in front of
which another one may still be put are not released, so that a failure comes
before them.
-/

namespace FunctionSynthesis.Yaml

/-- A node that may turn out to be a key: the position of its first token, and
whether it has to be one. -/
structure PossibleKey where
  position : Nat
  isRequired : Bool
  index : Nat
  line : Nat
  column : Nat

namespace PossibleKey

/-- How many characters may lie between the start of a key and its colon. -/
def reach : Nat := 1024

/-- Whether a colon at a place comes too late. -/
def isStale (key : PossibleKey) (cursor : Cursor) : Bool :=
  key.line != cursor.line || key.index + reach < cursor.index

/-- What is left of a possible key at a place. -/
def settle (cursor : Cursor) : Option PossibleKey → Reading (Option PossibleKey)
  | none => return none
  | some key =>
      if !key.isStale cursor then return some key
      else if key.isRequired then malformed
      else return none

end PossibleKey

/-- The tokens up to a place, together with what decides on the next ones: the
indentation of the collections that are open, whether a key may start, and the
possible keys on every level of brackets. -/
structure Lexer where
  cursor : Cursor
  tokens : Array Token
  indent : Int
  outerIndents : List Int
  mayBeKey : Bool
  key : Option PossibleKey
  outerKeys : List (Option PossibleKey)

namespace Lexer

def start (chars : List Char) : Lexer :=
  ⟨.start chars, #[], -1, [], true, none, []⟩

/-- Whether brackets are open. -/
def inFlow (lexer : Lexer) : Bool :=
  !lexer.outerKeys.isEmpty

def push (lexer : Lexer) (token : Token) : Lexer :=
  { lexer with tokens := lexer.tokens.push token }

/-- Put tokens in front of one that has been read. -/
def insert (lexer : Lexer) (position : Nat) (tokens : List Token) : Lexer :=
  { lexer with
    tokens := lexer.tokens.take position ++ tokens ++
      lexer.tokens.drop position }

/-- Move to a place after a token. -/
def pushAt (lexer : Lexer) (token : Token) (cursor : Cursor) : Lexer :=
  { lexer with tokens := lexer.tokens.push token, cursor }

/-! ### Possible keys -/

/-- Forget the possible keys whose colon would come too late. -/
def dropStale (lexer : Lexer) : Reading Lexer := do
  let key ← PossibleKey.settle lexer.cursor lexer.key
  let outerKeys ← lexer.outerKeys.mapM (PossibleKey.settle lexer.cursor)
  return { lexer with key, outerKeys }

/-- Forget the possible key on the innermost level. -/
def dropKey (lexer : Lexer) : Reading Lexer :=
  if lexer.key.any (·.isRequired) then malformed
  else return { lexer with key := none }

/-- Note that the next token may start a key. -/
def noteKey (lexer : Lexer) : Reading Lexer := do
  if !lexer.mayBeKey then return lexer
  let lexer ← lexer.dropKey
  let cursor := lexer.cursor
  let isRequired := !lexer.inFlow && lexer.indent = cursor.column
  return { lexer with
    key := some ⟨lexer.tokens.size, isRequired, cursor.index, cursor.line,
      cursor.column⟩ }

/-- How many tokens are released: those in front of every possible key. -/
def released (lexer : Lexer) : Nat :=
  (lexer.key :: lexer.outerKeys).foldl (fun n key =>
    key.elim n fun key => min n key.position) lexer.tokens.size

/-! ### Indentation -/

/-- Close the collections that are indented beyond a column. -/
def closeBeyond (column : Int) (indent : Int) : List Int → Array Token →
    Int × List Int × Array Token
  | [], tokens => (indent, [], tokens)
  | outer :: rest, tokens =>
      if column < indent then
        closeBeyond column outer rest (tokens.push .blockEnd)
      else (indent, outer :: rest, tokens)

/-- Close the collections that end at a column; between brackets there are
none. -/
def unwind (lexer : Lexer) (column : Int) : Lexer :=
  if lexer.inFlow then lexer
  else
    let (indent, outerIndents, tokens) :=
      closeBeyond column lexer.indent lexer.outerIndents lexer.tokens
    { lexer with indent, outerIndents, tokens }

/-- The tokens that open a collection at a column, and the state with it open.
None is needed if one is open there. -/
def openAt (lexer : Lexer) (token : Token) (column : Nat) : List Token × Lexer :=
  if lexer.indent < column then
    ([token], { lexer with
      indent := column, outerIndents := lexer.indent :: lexer.outerIndents })
  else ([], lexer)

/-- Open a collection at the current column, outside brackets. -/
def openHere (lexer : Lexer) (token : Token) : Lexer :=
  let (tokens, lexer) := lexer.openAt token lexer.cursor.column
  lexer.insert lexer.tokens.size tokens

/-! ### Tokens -/

/-- Skip spaces, comments and line ends. In a new line a key may start, except
between brackets. -/
def skipLines (fuel : Nat) (lexer : Lexer) : Lexer :=
  match fuel with
  | 0 => lexer
  | fuel + 1 =>
      let cursor := lexer.cursor.skipSpaces.skipComment
      match cursor.lineBreak? with
      | none => { lexer with cursor }
      | some (_, cursor) =>
          skipLines fuel
            { lexer with cursor, mayBeKey := lexer.mayBeKey || !lexer.inFlow }

/-- Move to the next token. A mark of byte order may come first. -/
def toToken (lexer : Lexer) : Lexer :=
  let cursor := lexer.cursor
  let isMarked := cursor.index = 0 && cursor.rest.head? == some Cursor.orderMark
  skipLines (cursor.rest.length + 1)
    (if isMarked then { lexer with cursor := cursor.next } else lexer)

/-- The end of all collections, before the end of a document and before a
directive. -/
def closeAll (lexer : Lexer) : Reading Lexer := do
  return { ← (lexer.unwind (-1)).dropKey with mayBeKey := false }

def openBracket (lexer : Lexer) (token : Token) : Reading Lexer := do
  let lexer ← lexer.noteKey
  return { lexer.pushAt token lexer.cursor.next with
    mayBeKey := true, key := none, outerKeys := lexer.key :: lexer.outerKeys }

/-- A closing bracket, which needs an open one. -/
def closeBracket (lexer : Lexer) (token : Token) : Reading Lexer :=
  match lexer.outerKeys with
  | [] => malformed
  | key :: outerKeys =>
      return { lexer.pushAt token lexer.cursor.next with
        mayBeKey := false, key, outerKeys }

def comma (lexer : Lexer) : Reading Lexer := do
  let lexer ← lexer.dropKey
  return { lexer.pushAt .comma lexer.cursor.next with mayBeKey := true }

/-- A dash in front of an item, or a question mark in front of a key. -/
def indicator (lexer : Lexer) (token collection : Token) (mayBeKey : Bool) :
    Reading Lexer := do
  if !lexer.inFlow && !lexer.mayBeKey then malformed
  let lexer := if lexer.inFlow then lexer else lexer.openHere collection
  let lexer ← { lexer with mayBeKey }.dropKey
  return lexer.pushAt token lexer.cursor.next

/-- A colon behind a key that has been noted. -/
def colonAfter (lexer : Lexer) (key : PossibleKey) : Lexer :=
  let (opening, lexer) :=
    if lexer.inFlow then ([], lexer) else lexer.openAt .blockMapping key.column
  let lexer := lexer.insert key.position (opening ++ [.key])
  { lexer.pushAt .value lexer.cursor.next with mayBeKey := false, key := none }

/-- A colon without such a key. -/
def colonAlone (lexer : Lexer) : Reading Lexer := do
  if !lexer.inFlow && !lexer.mayBeKey then malformed
  let lexer := if lexer.inFlow then lexer else lexer.openHere .blockMapping
  return { lexer.pushAt .value lexer.cursor.next with mayBeKey := !lexer.inFlow }

/-- A token that may be or belong to a key. -/
def candidate (lexer : Lexer) (read : Cursor → Reading (Token × Cursor)) :
    Reading Lexer := do
  let lexer ← lexer.noteKey
  let (token, cursor) ← read lexer.cursor
  return { lexer.pushAt token cursor with mayBeKey := false }

/-- A plain scalar, after which a key may start in another line. -/
def plainScalar (lexer : Lexer) : Reading Lexer := do
  let lexer ← lexer.noteKey
  let fuel := lexer.cursor.rest.length + 1
  let (chars, crossed, cursor) :=
    plain lexer.inFlow (lexer.indent + 1) fuel lexer.cursor
  return { lexer.pushAt (.scalar true (String.ofList chars)) cursor with
    mayBeKey := crossed }

def blockScalar (lexer : Lexer) (folded : Bool) : Reading Lexer := do
  let lexer ← { lexer with mayBeKey := true }.dropKey
  let (text, cursor) ← block folded lexer.indent lexer.cursor.next
  return lexer.pushAt (.scalar false text) cursor

/-- The token that starts with a character in the middle of a line. -/
def tokenAt (lexer : Lexer) (c : Char) (rest : List Char) : Reading Lexer :=
  let inFlow := lexer.inFlow
  let isAlone := startsBlank rest
  match c with
  | '[' => lexer.openBracket .openSequence
  | '\x7b' => lexer.openBracket .openMapping
  | ']' => lexer.closeBracket .closeSequence
  | '\x7d' => lexer.closeBracket .closeMapping
  | ',' => lexer.comma
  | '*' => lexer.candidate fun cursor => do
      let (name, cursor) ← Token.name cursor.next
      return (.alias name, cursor)
  | '&' => lexer.candidate fun cursor => do
      let (name, cursor) ← Token.name cursor.next
      return (.anchor name, cursor)
  | '!' => lexer.candidate Token.readTag
  | '\'' => quotedScalar
  | '"' => quotedScalar
  | _ =>
      if c = '-' && isAlone then
        lexer.indicator .entry .blockSequence true
      else if c = '?' && (inFlow || isAlone) then
        lexer.indicator .key .blockMapping !inFlow
      else if c = ':' && (inFlow || isAlone) then
        match lexer.key with
        | some key => return lexer.colonAfter key
        | none => lexer.colonAlone
      else if c = '|' && !inFlow then lexer.blockScalar false
      else if c = '>' && !inFlow then lexer.blockScalar true
      else if startsPlain inFlow (c :: rest) then lexer.plainScalar
      else malformed
where
  quotedScalar : Reading Lexer :=
    lexer.candidate fun cursor => do
      let (text, cursor) ← quoted cursor
      return (.scalar false text, cursor)

/-- The next token, with the ends of collections before it. -/
def step (lexer : Lexer) : Reading Lexer := do
  let lexer ← lexer.toToken.dropStale
  let lexer := lexer.unwind lexer.cursor.column
  let cursor := lexer.cursor
  match cursor.rest with
  | [] => return (← lexer.closeAll).push .streamEnd
  | c :: rest =>
      if cursor.column != 0 then lexer.tokenAt c rest
      else if c = '%' then
        let lexer ← lexer.closeAll
        let (token, cursor) ← Token.readDirective cursor
        return lexer.pushAt token cursor
      else if startsMarker cursor.rest then
        let token := if c = '-' then Token.documentStart else .documentEnd
        return (← lexer.closeAll).pushAt token (cursor.skip 3)
      else lexer.tokenAt c rest

/-- Whether all tokens have been read. -/
def isFinished (lexer : Lexer) : Bool :=
  match lexer.tokens.back? with
  | some .streamEnd => true
  | _ => false

/-- All tokens from a state on. -/
def run (fuel : Nat) (lexer : Lexer) : Array Token :=
  match fuel with
  | 0 => lexer.tokens
  | fuel + 1 =>
      let pending := lexer.dropStale.toOption.getD lexer
      match pending.step with
      | .error trouble =>
          (pending.tokens.take pending.released).push (.unreadable trouble)
      | .ok next =>
          if next.isFinished then next.tokens else run fuel next

end Lexer

/-- The tokens of a text. The last one is the end of the stream, or tells why
there is no other one. -/
def Token.ofText (chars : List Char) : List Token :=
  (Lexer.run (chars.length + 2) (.start chars)).toList

end FunctionSynthesis.Yaml
