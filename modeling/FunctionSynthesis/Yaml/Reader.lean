import FunctionSynthesis.Yaml.Node
import FunctionSynthesis.Yaml.Scalar

/-!
# Reading YAML

A document denotes the value of its root. The nodes are converted round by
round: a collection is first there without its items, which are converted in the
next round. So of several failures the one of the earliest round counts, and of
those the first. A mapping may take over entries of others, which come before
its own; a key that is given twice keeps its first place and takes its last
value.
-/

namespace FunctionSynthesis.Yaml

/-! ### Conversion in rounds -/

/-- A failure of a conversion with the round it belongs to. -/
structure Setback where
  round : Nat
  trouble : Trouble

/-- What a conversion gives, or the failure that counts. -/
abbrev Conversion := Except Setback

namespace Conversion

/-- A conversion in the first round. -/
def now {α : Type} : Reading α → Conversion α
  | .ok result => .ok result
  | .error trouble => .error ⟨0, trouble⟩

def refused {α : Type} : Conversion α :=
  .error ⟨0, .malformed⟩

/-- The same conversion one round later. -/
def later {α : Type} : Conversion α → Conversion α
  | .ok result => .ok result
  | .error setback => .error { setback with round := setback.round + 1 }

/-- Two conversions beside each other. -/
def both {α β : Type} : Conversion α → Conversion β → Conversion (α × β)
  | .ok a, .ok b => .ok (a, b)
  | .ok _, .error t => .error t
  | .error s, .ok _ => .error s
  | .error s, .error t => .error (if t.round < s.round then t else s)

def all {α : Type} : List (Conversion α) → Conversion (List α)
  | [] => .ok []
  | c :: rest => (both c (all rest)).map fun (a, more) => a :: more

/-- The classes of values that cannot be keys. -/
def keylessClasses : List String := ["list", "dict", "set"]

/-- A conversion to a key of a dictionary. Lists, dictionaries and sets cannot be
keys, which shows before their items are converted. -/
def asKey (key : Conversion Value) : Conversion Value :=
  match key with
  | .ok v => if keylessClasses.contains v.className then refused else .ok v
  | .error setback => if setback.round = 0 then .error setback else refused

end Conversion

open Conversion

/-! ### Texts of nodes -/

mutual

/-- The text of a node: of a mapping the one of its entry for that purpose. -/
def Node.text? : Node → Option String
  | .scalar _ text => some text
  | .mapping _ entries => textAmong? entries
  | _ => none
termination_by structural node => node

def textAmong? : List (Node × Node) → Option String
  | [] => none
  | (key, value) :: rest =>
      if key.tag = .value then value.text? else textAmong? rest
termination_by structural entries => entries

end

/-- What a text stands for under a tag. The tags of collections do not suit a
text, which shows when the items are converted. -/
def textValue (tag : Tag) (text : Option String) : Conversion Value :=
  if tag.isCollection then later refused
  else
    match text with
    | some text => now (scalarValue tag text)
    | none => refused

/-! ### Entries of mappings -/

/-- A key and a value that are being converted. -/
abbrev Pair := Conversion Value × Conversion Value

/-- An entry of a mapping: the tag of its key, the key as it stands and as a key
of a dictionary, its value, and the entries that the mapping takes over if the
key asks for that. -/
structure Part where
  tag : Tag
  plainKey : Conversion Value
  key : Conversion Value
  value : Conversion Value
  takenOver : Reading (List Pair)

/-- The entries of a mapping, those that it takes over first. -/
def pairsOf (parts : List Part) : Reading (List Pair) := do
  let takenOver ← (parts.filter (·.tag = .merge)).mapM (·.takenOver)
  let own := parts.filter (·.tag != .merge)
  return takenOver.flatten ++ own.map fun part => (part.key, part.value)

/-- The entries of a dictionary, converted one after the other. -/
def dictionary (parts : List Part) : Conversion Entries :=
  match pairsOf parts with
  | .error trouble => now (.error trouble)
  | .ok pairs =>
      (Conversion.all (pairs.map fun (key, value) => both (asKey key) value)).map
        Entries.ofList

/-- The pairs of a list of mappings with one entry each. -/
def tuples (mappings : List (Option (List Part))) : Conversion (List Value) :=
  Conversion.all <| mappings.map fun parts =>
    match parts with
    | some [part] =>
        (both part.plainKey part.value).map fun (key, value) =>
          .tuple [key, value]
    | _ => refused

/-- A collection inside itself as a value that cannot be looked into. -/
def circleValue (isSequence : Bool) : Value :=
  if isSequence then .special "list" "[...]" "[...]"
  else .special "dict" "\x7b...\x7d" "\x7b...\x7d"

/-! ### Values of nodes -/

mutual

def Node.value : Node → Conversion Value
  | .scalar tag text => textValue tag (some text)
  | .circle isSequence => .ok (circleValue isSequence)
  | .sequence tag items =>
      match tag with
      | .seq => later ((Conversion.all (valuesOf items)).map .list)
      | .omap => later ((tuples (partsAmong items)).map .list)
      | .pairs => later ((tuples (partsAmong items)).map .list)
      | tag => textValue tag none
  | .mapping tag entries =>
      match tag with
      | .map => later ((dictionary (partsOf entries)).map .dict)
      | .set =>
          later ((dictionary (partsOf entries)).map fun entries =>
            .set (entries.map (·.1)))
      | tag => textValue tag (textAmong? entries)
termination_by structural node => node

def valuesOf : List Node → List (Conversion Value)
  | [] => []
  | node :: rest => node.value :: valuesOf rest
termination_by structural nodes => nodes

/-- The entries of those nodes that are mappings. -/
def partsAmong : List Node → List (Option (List Part))
  | [] => []
  | node :: rest => node.parts? :: partsAmong rest
termination_by structural nodes => nodes

def Node.parts? : Node → Option (List Part)
  | .mapping _ entries => some (partsOf entries)
  | _ => none
termination_by structural node => node

/-- The entries that a mapping takes over from a node: from a mapping all, and
from a list of mappings those of later ones first. -/
def Node.takenOver : Node → Reading (List Pair)
  | .mapping _ entries => pairsOf (partsOf entries)
  | .sequence _ items => do
      let found ← (partsAmong items).mapM fun parts =>
        match parts with
        | some parts => pairsOf parts
        | none => malformed
      return found.reverse.flatten
  | _ => malformed
termination_by structural node => node

/-- The entries of a mapping. What is taken over has no value of its own. -/
def partsOf : List (Node × Node) → List Part
  | [] => []
  | (key, value) :: rest =>
      let plainKey := key.value
      let merges := key.tag = .merge
      { tag := key.tag
        plainKey
        key := if key.tag = .value then textValue .str key.text? else plainKey
        value := if merges then refused else value.value
        takenOver := if merges then value.takenOver else return [] } ::
        partsOf rest
termination_by structural entries => entries

end

/-! ### Documents -/

/-- Characters that may stand in a document. -/
def isAllowed (c : Char) : Bool :=
  let n := c.toNat
  n = 0x09 || n = 0x0A || n = 0x0D || n = 0x85 || (0x20 ≤ n && n ≤ 0x7E) ||
    (0xA0 ≤ n && n ≤ 0xD7FF) || (0xE000 ≤ n && n ≤ 0xFFFD) || 0x10000 ≤ n

/-- The value of a document. An empty one denotes nothing. -/
def documentValue (chars : List Char) : Reading Value := do
  if !chars.all isAllowed then malformed
  match ← Node.ofTokens? (Token.ofText chars) with
  | none => return .none
  | some node => node.value.mapError (·.trouble)

end FunctionSynthesis.Yaml

namespace FunctionSynthesis.Value

/-- The value of a YAML document: nothing if the text is none, or a fault if
something in it cannot be converted. -/
def ofYaml? (text : String) : Except Fault (Option Value) :=
  match Yaml.documentValue text.toList with
  | .ok value => return some value
  | .error .malformed => return Option.none
  | .error (.fault fault) => throw fault

end FunctionSynthesis.Value
