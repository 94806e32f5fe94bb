import FunctionSynthesis.Yaml.Tag
import FunctionSynthesis.Yaml.Token.Lexer

/-!
# Nodes of YAML

The tree of a document: scalars, sequences and mappings with their tags. An
alias stands for the node with its anchor. `Node.ofTokens` reads the only
document among the tokens of a text.
-/

namespace FunctionSynthesis.Yaml

/-- A node of a document. -/
inductive Node where
  | scalar (tag : Tag) (text : String)
  | sequence (tag : Tag) (items : List Node)
  | mapping (tag : Tag) (entries : List (Node × Node))
  /-- A collection inside itself. -/
  | circle (isSequence : Bool)

namespace Node

def tag : Node → Tag
  | .scalar tag _ => tag
  | .sequence tag _ => tag
  | .mapping tag _ => tag
  | .circle isSequence => if isSequence then .seq else .map

/-- A node that is left out. -/
def absent : Node :=
  .scalar .null ""

end Node

/-- What reading nodes depends on: the tokens that are left, the handles of tags
and the nodes with anchors, the last ones first. -/
structure Outline where
  tokens : List Token
  handles : List (String × String)
  anchors : List (String × Node)

/-- Reading of nodes. -/
abbrev Outlining := StateT Outline Reading

namespace Outlining

def head : Outlining Token := do
  return (← get).tokens.headD (.unreadable .malformed)

def skip : Outlining Unit :=
  modify fun outline => { outline with tokens := outline.tokens.tail }

def refuse {α : Type} : Outlining α := do
  match ← head with
  | .unreadable trouble => throw trouble
  | _ => throw .malformed

/-! ### Tags and anchors -/

/-- What a tag or an anchor in front of a node says. -/
structure Properties where
  anchor : Option String
  tag : Option (Option String × String)

/-- The tag and the anchor of a node, in either order. -/
def properties : Outlining Properties := do
  match ← head with
  | .anchor name => do
      skip
      match ← head with
      | .tag handle suffix => do
          skip
          return ⟨some name, some (handle, suffix)⟩
      | _ => return ⟨some name, none⟩
  | .tag handle suffix => do
      skip
      match ← head with
      | .anchor name => do
          skip
          return ⟨some name, some (handle, suffix)⟩
      | _ => return ⟨none, some (handle, suffix)⟩
  | _ => return ⟨none, none⟩

/-- The full form of a tag. One exclamation mark alone counts as none. -/
def fullTag? (tag : Option (Option String × String)) :
    Outlining (Option (Option String)) := do
  match tag with
  | none => return none
  | some (none, suffix) =>
      return some (if suffix = "!" then none else some suffix)
  | some (some handle, suffix) =>
      match (← get).handles.lookup handle with
      | some expansion =>
          let text := expansion ++ suffix
          return some (if text = "!" then none else some text)
      | none => throw .malformed

/-- The node with an anchor. -/
def aliased (name : String) : Outlining Node := do
  match (← get).anchors.lookup name with
  | some node => return node
  | none => throw .malformed

/-- Give a node its anchor, which no other one may have. Until it is complete
`unfinished` stands for it. -/
def anchored (anchor : Option String) (unfinished : Node)
    (content : Outlining Node) : Outlining Node := do
  match anchor with
  | none => content
  | some name => do
      if ((← get).anchors.lookup name).isSome then throw .malformed
      let note (node : Node) : Outlining Unit :=
        modify fun outline =>
          { outline with anchors := (name, node) :: outline.anchors }
      note unfinished
      let node ← content
      note node
      return node

/-- The tag of a collection: `general` if none is given. -/
def collectionTag (general : Tag) (tag : Option (Option String)) : Tag :=
  match tag with
  | some (some text) => .ofText text
  | _ => general

/-- A scalar. Its text decides on the tag if it is plain and has none, or if its
tag is an exclamation mark alone. -/
def scalarNode (tag : Option (Option String)) (isPlain : Bool) (text : String) :
    Node :=
  match tag with
  | some (some full) => .scalar (.ofText full) text
  | some none => .scalar (.ofPlain text) text
  | none => .scalar (if isPlain then .ofPlain text else .str) text

/-! ### Nodes -/

mutual

/-- A node. A collection by indentation may come if `inBlock`, and a sequence
that is indented like the mapping around it if `mayBeLoose`. -/
def node (fuel : Nat) (inBlock mayBeLoose : Bool) : Outlining Node :=
  match fuel with
  | 0 => refuse
  | fuel + 1 => do
      match ← head with
      | .alias name => do
          skip
          aliased name
      | _ => do
          let ⟨anchor, given⟩ ← properties
          let tag ← fullTag? given
          let sequence (items : Outlining (List Node)) : Outlining Node :=
            anchored anchor (.circle true) do
              return .sequence (collectionTag .seq tag) (← items)
          let mapping (entries : Outlining (List (Node × Node))) :
              Outlining Node :=
            anchored anchor (.circle false) do
              return .mapping (collectionTag .map tag) (← entries)
          match ← head, inBlock, mayBeLoose with
          | .entry, _, true => sequence (looseItems fuel)
          | .scalar isPlain text, _, _ => do
              skip
              anchored anchor .absent (return scalarNode tag isPlain text)
          | .openSequence, _, _ => do
              skip
              sequence (flowItems fuel true)
          | .openMapping, _, _ => do
              skip
              mapping (flowEntries fuel true)
          | .blockSequence, true, _ => do
              skip
              sequence (blockItems fuel)
          | .blockMapping, true, _ => do
              skip
              mapping (blockEntries fuel)
          | _, _, _ =>
              if anchor.isSome || tag.isSome then
                anchored anchor .absent (return scalarNode tag true "")
              else refuse

def blockItems (fuel : Nat) : Outlining (List Node) :=
  match fuel with
  | 0 => refuse
  | fuel + 1 => do
      match ← head with
      | .entry => do
          skip
          let item ←
            match ← head with
            | .entry => pure .absent
            | .blockEnd => pure .absent
            | _ => node fuel true false
          return item :: (← blockItems fuel)
      | .blockEnd => do
          skip
          return []
      | _ => refuse

/-- The items of a sequence that is indented like the mapping around it. -/
def looseItems (fuel : Nat) : Outlining (List Node) :=
  match fuel with
  | 0 => refuse
  | fuel + 1 => do
      match ← head with
      | .entry => do
          skip
          let item ←
            match ← head with
            | .entry => pure .absent
            | .key => pure .absent
            | .value => pure .absent
            | .blockEnd => pure .absent
            | _ => node fuel true false
          return item :: (← looseItems fuel)
      | _ => return []

/-- A key or a value in a mapping by indentation, which may be left out. -/
def blockPart (fuel : Nat) : Outlining Node :=
  match fuel with
  | 0 => refuse
  | fuel + 1 => do
      match ← head with
      | .key => return .absent
      | .value => return .absent
      | .blockEnd => return .absent
      | _ => node fuel true true

/-- The entries of a mapping by indentation. -/
def blockEntries (fuel : Nat) : Outlining (List (Node × Node)) :=
  match fuel with
  | 0 => refuse
  | fuel + 1 => do
      match ← head with
      | .key => do
          skip
          let key ← blockPart fuel
          let value ←
            match ← head with
            | .value => do
                skip
                blockPart fuel
            | _ => pure .absent
          return (key, value) :: (← blockEntries fuel)
      | .blockEnd => do
          skip
          return []
      | _ => refuse

/-- The items between square brackets. An item may be a single entry. -/
def flowItems (fuel : Nat) (isFirst : Bool) : Outlining (List Node) :=
  match fuel with
  | 0 => refuse
  | fuel + 1 => do
      match ← head, isFirst with
      | .closeSequence, _ => do
          skip
          return []
      | .comma, false => do
          skip
          flowItem fuel
      | _, true => flowItem fuel
      | _, false => refuse

/-- An item between square brackets with the items after it; none may follow a
comma. -/
def flowItem (fuel : Nat) : Outlining (List Node) :=
  match fuel with
  | 0 => refuse
  | fuel + 1 => do
      match ← head with
      | .closeSequence => do
          skip
          return []
      | .key => do
          skip
          let key ← flowPart fuel true
          let value ← flowValue fuel
          return .mapping .map [(key, value)] :: (← flowItems fuel false)
      | _ => do
          let item ← node fuel false false
          return item :: (← flowItems fuel false)

/-- The entries between curly brackets. -/
def flowEntries (fuel : Nat) (isFirst : Bool) : Outlining (List (Node × Node)) :=
  match fuel with
  | 0 => refuse
  | fuel + 1 => do
      match ← head, isFirst with
      | .closeMapping, _ => do
          skip
          return []
      | .comma, false => do
          skip
          flowEntry fuel
      | _, true => flowEntry fuel
      | _, false => refuse

/-- An entry between curly brackets with the entries after it; none may follow a
comma. -/
def flowEntry (fuel : Nat) : Outlining (List (Node × Node)) :=
  match fuel with
  | 0 => refuse
  | fuel + 1 => do
      match ← head with
      | .closeMapping => do
          skip
          return []
      | .key => do
          skip
          let key ← flowPart fuel true
          let value ← flowValue fuel
          return (key, value) :: (← flowEntries fuel false)
      | _ => do
          let key ← node fuel false false
          return (key, .absent) :: (← flowEntries fuel false)

/-- A key or a value between brackets, which may be left out. -/
def flowPart (fuel : Nat) (isKey : Bool) : Outlining Node :=
  match fuel with
  | 0 => refuse
  | fuel + 1 => do
      match ← head, isKey with
      | .value, true => return .absent
      | .comma, _ => return .absent
      | .closeSequence, _ => return .absent
      | .closeMapping, _ => return .absent
      | _, _ => node fuel false false

/-- The value of an entry between brackets, from its colon on. -/
def flowValue (fuel : Nat) : Outlining Node :=
  match fuel with
  | 0 => refuse
  | fuel + 1 => do
      match ← head with
      | .value => do
          skip
          flowPart fuel false
      | _ => return .absent

end

/-! ### Documents -/

/-- The handles that need no directive. -/
def usualHandles : List (String × String) :=
  [("!", "!"), ("!!", Tag.commonStart)]

/-- The directives in front of a document. -/
def directives (fuel : Nat) (hasVersion : Bool)
    (handles : List (String × String)) : Outlining Unit :=
  match fuel with
  | 0 => refuse
  | fuel + 1 => do
      match ← head with
      | .version major => do
          if hasVersion || major != 1 then throw .malformed
          skip
          directives fuel true handles
      | .tagHandle handle expansion => do
          if (handles.lookup handle).isSome then throw .malformed
          skip
          directives fuel hasVersion ((handle, expansion) :: handles)
      | .otherDirective => do
          skip
          directives fuel hasVersion handles
      | _ =>
          modify fun outline =>
            { outline with handles := handles ++ usualHandles }

/-- Skip the marks for the end of a document. -/
def skipEnds (fuel : Nat) : Outlining Unit :=
  match fuel with
  | 0 => refuse
  | fuel + 1 => do
      match ← head with
      | .documentEnd => do
          skip
          skipEnds fuel
      | _ => return ()

/-- See that no other document follows. -/
def finish (fuel : Nat) : Outlining Unit := do
  skipEnds fuel
  match ← head with
  | .streamEnd => return ()
  | _ => do
      directives fuel false []
      refuse

/-- A document that is announced, from its directives on. -/
def announced (fuel : Nat) : Outlining Node := do
  directives fuel false []
  match ← head with
  | .documentStart => do
      skip
      match ← head with
      | .version _ => return .absent
      | .tagHandle _ _ => return .absent
      | .otherDirective => return .absent
      | .documentStart => return .absent
      | .documentEnd => return .absent
      | .streamEnd => return .absent
      | _ => node fuel true false
  | _ => refuse

/-- The only document, if there is one. -/
def document (fuel : Nat) : Outlining (Option Node) := do
  let isAnnounced ←
    match ← head with
    | .streamEnd => return none
    | .version _ => pure true
    | .tagHandle _ _ => pure true
    | .otherDirective => pure true
    | .documentStart => pure true
    | _ => pure false
  let content ← if isAnnounced then announced fuel else node fuel true false
  finish fuel
  return some content

end Outlining

/-- The only document among the tokens of a text, if there is one. -/
def Node.ofTokens? (tokens : List Token) : Reading (Option Node) :=
  (Outlining.document (4 * tokens.length + 4)).run' ⟨tokens,
    Outlining.usualHandles, []⟩

end FunctionSynthesis.Yaml
