import FunctionSynthesis.Toml.Scalar

/-!
# Reading TOML

`Value.ofToml?` reads a TOML document into a dictionary. A document is a list of
settings and headers. What was written out once is closed: a value cannot be
given twice, a table cannot be opened twice, and what a setting gave as a whole
cannot be added to.
-/

namespace FunctionSynthesis.Toml

/-- A key with all of its parts. -/
abbrev KeyPath := List String

/-! ### Nested dictionaries -/

/-- Change the dictionary at a path with `change`; dictionaries on the way are
made if they are missing. With `throughLists` the last item of a list stands for
the list. Nothing comes of a path through another value. -/
def changeAt (throughLists : Bool) (change : Entries → Option Entries) :
    KeyPath → Entries → Option Entries
  | [], entries => change entries
  | name :: path, entries => do
      let inner ←
        match Entries.valueOf? entries (.str name) with
        | none => (changeAt throughLists change path []).map .dict
        | some (.dict found) =>
            (changeAt throughLists change path found).map .dict
        | some (.list found) =>
            match throughLists, found.reverse with
            | true, .dict last :: before => do
                let last ← changeAt throughLists change path last
                some (.list (before.reverse ++ [.dict last]))
            | _, _ => none
        | some _ => none
      return entries.put (.str name) inner

/-- Give a new name a value. -/
def addNew (name : String) (value : Value) (entries : Entries) :
    Option Entries :=
  if Entries.hasKey entries (.str name) then none
  else some (entries.put (.str name) value)

/-- Add a table to the list of tables under a name. -/
def addTable (name : String) (entries : Entries) : Option Entries :=
  match Entries.valueOf? entries (.str name) with
  | none => some (entries.put (.str name) (.list [.dict []]))
  | some (.list found) => some (entries.put (.str name) (.list (found ++ [.dict []])))
  | some _ => none

def isCompound : Value → Bool
  | .dict _ => true
  | .list _ => true
  | _ => false

/-- Whether a path leads to or into what one of `closed` leads to. -/
def isWithin (closed : List KeyPath) (path : KeyPath) : Bool :=
  closed.any fun start => !start.isEmpty && start.isPrefixOf path

/-! ### Values -/

private def startsWith? (word : String) (chars : List Char) :
    Option (List Char) :=
  if word.toList.isPrefixOf chars then some (chars.drop word.length) else none

/-- A day, a time or a number. -/
def measurement (chars : List Char) : Reading (Value × List Char) :=
  match moment? chars, time? chars with
  | some (v?, rest), _ => do return (← v?, rest)
  | none, some (time, rest) => return (time.toValue, rest)
  | none, none => number chars

def scalar (chars : List Char) : Reading (Value × List Char) :=
  let quoted : Reading (Value × List Char) := do
    let (s, rest) ← text? chars
    return (.str s, rest)
  match chars with
  | '"' :: _ => quoted
  | '\'' :: _ => quoted
  | chars =>
      match startsWith? "true" chars, startsWith? "false" chars with
      | some rest, _ => return (.bool true, rest)
      | none, some rest => return (.bool false, rest)
      | none, none => measurement chars

/-- Nothing, where something is malformed. -/
private def refuse {α : Type} : Reading α :=
  ExceptT.mk none

/-- Go on only where a condition holds. -/
private def require (condition : Bool) : Reading Unit :=
  if condition then return () else refuse

mutual

def value (fuel : Nat) (chars : List Char) : Reading (Value × List Char) :=
  match fuel with
  | 0 => refuse
  | fuel + 1 =>
      match chars with
      | '[' :: rest => do
          let rest ← skipLines? fuel rest
          match rest with
          | ']' :: rest => return (.list [], rest)
          | rest => do
              let (found, rest) ← items fuel rest
              return (.list found, rest)
      | '\x7b' :: rest =>
          match skipBlanks rest with
          | '\x7d' :: rest => return (.dict [], rest)
          | rest => do
              let (entries, rest) ← members fuel [] [] rest
              return (.dict entries, rest)
      | chars => scalar chars

/-- The items of an array from the first one to the closing bracket. -/
def items (fuel : Nat) (chars : List Char) : Reading (List Value × List Char) :=
  match fuel with
  | 0 => refuse
  | fuel + 1 => do
      let (item, rest) ← value fuel chars
      let rest ← skipLines? fuel rest
      match rest with
      | ']' :: rest => return ([item], rest)
      | ',' :: rest => do
          let rest ← skipLines? fuel rest
          match rest with
          | ']' :: rest => return ([item], rest)
          | rest => do
              let (more, rest) ← items fuel rest
              return (item :: more, rest)
      | _ => refuse

/-- The members of an inline table up to the closing bracket, after those in
`entries`. Paths in `closed` cannot be added to. -/
def members (fuel : Nat) (closed : List KeyPath) (entries : Entries)
    (chars : List Char) : Reading (Entries × List Char) :=
  match fuel with
  | 0 => refuse
  | fuel + 1 => do
      let (path, item, rest) ← setting fuel chars
      require (!isWithin closed path)
      let name ← path.getLast?
      let entries ← changeAt false (addNew name item) path.dropLast entries
      match skipBlanks rest with
      | '\x7d' :: rest => return (entries, rest)
      | ',' :: rest =>
          let closed := if isCompound item then path :: closed else closed
          members fuel closed entries (skipBlanks rest)
      | _ => refuse

/-- A key with its value. -/
def setting (fuel : Nat) (chars : List Char) :
    Reading (KeyPath × Value × List Char) :=
  match fuel with
  | 0 => refuse
  | fuel + 1 => do
      let (path, rest) ← key? fuel chars
      match rest with
      | '=' :: rest => do
          let (item, rest) ← value fuel (skipBlanks rest)
          return (path, item, rest)
      | _ => refuse

end

/-! ### Documents -/

/-- What has been read of a document: the dictionary, the path of the last
header, the tables that cannot be opened again, those that cannot be opened
after the next header, and what cannot be added to. -/
structure Draft where
  entries : Entries := []
  header : KeyPath := []
  opened : List KeyPath := []
  pending : List KeyPath := []
  closed : List KeyPath := []

namespace Draft

def addSetting (draft : Draft) (path : KeyPath) (item : Value) : Option Draft := do
  let name ← path.getLast?
  let target := draft.header ++ path.dropLast
  let dotted := (List.range path.length).drop 1 |>.map fun i =>
    draft.header ++ path.take i
  guard (!dotted.any draft.opened.contains)
  guard (!isWithin draft.closed target)
  let entries ← changeAt true (addNew name item) target draft.entries
  return { draft with
    entries
    pending := draft.pending ++ dotted
    closed :=
      if isCompound item then (draft.header ++ path) :: draft.closed
      else draft.closed }

/-- Close the tables that dotted keys have made. -/
def settle (draft : Draft) : Draft :=
  { draft with opened := draft.opened ++ draft.pending, pending := [] }

def openTable (draft : Draft) (path : KeyPath) : Option Draft := do
  guard (!draft.opened.contains path)
  guard (!isWithin draft.closed path)
  let entries ← changeAt true some path draft.entries
  return { draft with entries, header := path, opened := path :: draft.opened }

/-- Open the next table of a list of tables. What was said about its parts
concerned the table before it. -/
def openItem (draft : Draft) (path : KeyPath) : Option Draft := do
  guard (!isWithin draft.closed path)
  let name ← path.getLast?
  let entries ← changeAt true (addTable name) path.dropLast draft.entries
  let isElsewhere (other : KeyPath) : Bool := !path.isPrefixOf other
  return { draft with
    entries
    header := path
    opened := path :: draft.opened.filter isElsewhere
    closed := draft.closed.filter isElsewhere }

end Draft

/-- The header of a table, from after its first bracket. -/
def tableHeader? (draft : Draft) (chars : List Char) : Option (Draft × List Char) := do
  let (path, rest) ← key? (chars.length + 1) (skipBlanks chars)
  match rest with
  | ']' :: rest => return (← draft.openTable path, rest)
  | _ => none

/-- The header of a list of tables, from after its first brackets. -/
def itemHeader? (draft : Draft) (chars : List Char) : Option (Draft × List Char) := do
  let (path, rest) ← key? (chars.length + 1) (skipBlanks chars)
  match rest with
  | ']' :: ']' :: rest => return (← draft.openItem path, rest)
  | _ => none

def statement (draft : Draft) (chars : List Char) : Reading (Draft × List Char) :=
  match chars with
  | '[' :: '[' :: rest => do return ← itemHeader? draft.settle rest
  | '[' :: rest => do return ← tableHeader? draft.settle rest
  | chars => do
      let (path, item, rest) ← setting (2 * chars.length + 4) chars
      return (← draft.addSetting path item, rest)

/-- The rest of a line after a statement. -/
def lineEnd? (chars : List Char) : Option (List Char) := do
  match ← skipComment? (skipBlanks chars) with
  | [] => some []
  | '\n' :: rest => some rest
  | _ => none

/-- The statements of a document, one a line. -/
def statements (fuel : Nat) (draft : Draft) (chars : List Char) :
    Reading Draft :=
  match fuel with
  | 0 => refuse
  | fuel + 1 =>
      match skipBlanks chars with
      | [] => return draft
      | '\n' :: rest => statements fuel draft rest
      | '#' :: rest => do statements fuel draft (← lineEnd? ('#' :: rest))
      | rest => do
          let (draft, rest) ← statement draft rest
          statements fuel draft (← lineEnd? rest)

/-- Carriage returns before line feeds are left out. -/
def withoutReturns : List Char → List Char
  | [] => []
  | '\r' :: '\n' :: rest => '\n' :: withoutReturns rest
  | c :: rest => c :: withoutReturns rest

end FunctionSynthesis.Toml

namespace FunctionSynthesis.Value

/-- The entries of a TOML document, if the text is one. A number that is too long
to be read is a fault. -/
def ofToml? (text : String) : Except Fault (Option Entries) :=
  let chars := Toml.withoutReturns text.toList
  match (Toml.statements (chars.length + 1) {} chars).run with
  | Option.none => return Option.none
  | some (.error fault) => throw fault
  | some (.ok draft) => return some draft.entries

end FunctionSynthesis.Value
