import FunctionSynthesis.Json.Writer
import FunctionSynthesis.Text.Case

/-!
# The console

A console shows messages and data to people or to other programs. A message has
a level and appears if the console is talkative enough; an error always does,
and goes to the stream for errors. The presentation decides about the form:
text with a mark for the level, JSON, one short line, or the bare message. What
an act of showing adds to the two streams is a `Transcript`.
-/

namespace FunctionSynthesis

/-- What was written to the two streams. -/
structure Transcript where
  out : String := ""
  err : String := ""
  deriving DecidableEq, Inhabited

namespace Transcript

def append (a b : Transcript) : Transcript :=
  ⟨a.out ++ b.out, a.err ++ b.err⟩

instance : Append Transcript where
  append := append

end Transcript

/-! ### Data in outline -/

namespace Outline

/-- The blanks before a line at a depth of nesting. -/
def indentation (step : Int) (depth : Nat) : String :=
  String.ofList (List.replicate (step.toNat * depth) ' ')

/-- Whether a value stands on lines of its own below its key. -/
def opensBlock : Value → Bool
  | .dict es => !es.isEmpty
  | .list xs => !xs.isEmpty
  | _ => false

end Outline

namespace Value

open Outline

mutual

/-- A value as lines of text, one for every entry and item. What is in a nested
collection stands below its key, further to the right. -/
def outline (step : Int) (depth : Nat) : Value → List String
  | .dict es => outlineEntries step depth es
  | .list xs => outlineItems step depth xs
  | v => [indentation step depth ++ v.plainText]
termination_by structural v => v

def outlineItems (step : Int) (depth : Nat) : List Value → List String
  | [] => []
  | x :: xs =>
      let lines :=
        match x with
        | .dict _ =>
            (indentation step depth ++ "-") :: outline step (depth + 1) x
        | _ => [indentation step depth ++ "- " ++ x.plainText]
      lines ++ outlineItems step depth xs
termination_by structural xs => xs

def outlineEntries (step : Int) (depth : Nat) : Entries → List String
  | [] => []
  | (k, v) :: es =>
      let key := indentation step depth ++ k.plainText ++ ":"
      let lines :=
        if opensBlock v then key :: outline step (depth + 1) v
        else [key ++ " " ++ v.plainText]
      lines ++ outlineEntries step depth es
termination_by structural es => es

end

end Value

/-! ### Presentation -/

/-- How text looks. -/
structure Style where
  useColors : Bool := true
  indentSize : Int := 2
  maxWidth : Int := 100
  /-- The codes that switch to a colour. -/
  colors : List (String × String) :=
    [("reset", "\x1b[0m"), ("bold", "\x1b[1m"), ("dim", "\x1b[2m"),
      ("red", "\x1b[31m"), ("green", "\x1b[32m"), ("yellow", "\x1b[33m"),
      ("blue", "\x1b[34m"), ("cyan", "\x1b[36m")]
  /-- The marks of levels. -/
  marks : List (String × String) :=
    [("error", "X"), ("warning", "!"), ("success", "+"), ("info", "*"),
      ("debug", "#"), ("step", ">")]
  deriving Inhabited

namespace Style

def levelColors : List (String × String) :=
  [("error", "red"), ("warning", "yellow"), ("success", "green"),
    ("info", "blue"), ("debug", "dim"), ("step", "cyan")]

def color (style : Style) (name : String) : Except Fault String :=
  match style.colors.lookup name with
  | some code => return code
  | none => throw ⟨.key, [.str name]⟩

/-- A text in a colour, and in the usual one after it. -/
def paint (style : Style) (name text : String) : Except Fault String := do
  return (← style.color name) ++ text ++ (← style.color "reset")

end Style

/-- The form in which messages and data appear. -/
inductive Presentation where
  | bare
  | text
  | json
  | compact
  deriving DecidableEq, Inhabited

namespace Presentation

def initial (level : String) : String :=
  match level.toList with
  | [] => " "
  | c :: _ => String.ofList (Text.upper [c])

/-- A message behind the mark of its level, in the colour of the level if there
are colours. -/
def markedText (style : Style) (onTerminal : Bool) (level message : String) :
    Except Fault String :=
  let mark := (style.marks.lookup level).getD ""
  let text := if mark = "" then message else s!"[{mark}] {message}"
  match Style.levelColors.lookup level with
  | some color =>
      if style.useColors && onTerminal then style.paint color text
      else return text
  | none => return text

def message (presentation : Presentation) (style : Style) (onTerminal : Bool)
    (level text : String) : Except Fault String :=
  match presentation with
  | .bare => return text
  | .text => markedText style onTerminal level text
  | .json =>
      let fields := [("level", .str level), ("message", .str text)]
      (Value.dict (Entries.ofFields fields)).jsonText .line
  | .compact => return s!"[{initial level}] {text}"

def data (presentation : Presentation) (style : Style) (value : Value) :
    Except Fault String :=
  match presentation, value with
  | .bare, value => return value.plainText
  | .text, value => return "\n".intercalate (value.outline style.indentSize 0)
  | .json, value => value.jsonText .indented
  | .compact, .dict es => (Value.dict es).jsonText .dense
  | .compact, .list xs => (Value.list xs).jsonText .dense
  | .compact, value => return value.plainText

end Presentation

/-! ### Showing -/

/-- Where messages and data are shown. -/
structure Console where
  /-- How talkative it is: only errors, normal, more, or everything. -/
  verbosity : Int := 1
  presentation : Presentation := .text
  style : Style := {}
  /-- Whether the streams are terminals. -/
  outIsTerminal : Bool := false
  errIsTerminal : Bool := false
  deriving Inhabited

namespace Console

def quiet : Int := 0
def normal : Int := 1
def talkative : Int := 2
def everything : Int := 3

def isText (console : Console) : Bool :=
  console.presentation = .text

/-- The console that shows JSON, which is never coloured. -/
def inJson (console : Console) : Console :=
  { console with presentation := .json,
                 style := { console.style with useColors := false } }

def inShort (console : Console) : Console :=
  { console with presentation := .compact }

/-- The console with other choices; the short form wins over JSON. -/
def configured (console : Console) (verbosity : Option Int)
    (json short colorless : Bool) : Console :=
  let console := { console with
    verbosity := verbosity.getD console.verbosity }
  let console :=
    if short then console.inShort
    else if json then console.inJson
    else console
  if colorless then
    { console with style := { console.style with useColors := false } }
  else console

private def line (text : String) : Transcript := { out := text ++ "\n" }

/-- Show a message of a level if the console is talkative enough. -/
def write (console : Console) (message level : String) (least : Int) :
    Except Fault Transcript := do
  if console.verbosity < least then return {}
  let isError := level = "error"
  let onTerminal :=
    if isError then console.errIsTerminal else console.outIsTerminal
  let text ← console.presentation.message console.style onTerminal level message
  return if isError then { err := text ++ "\n" } else line text

def error (console : Console) (message : String) : Except Fault Transcript :=
  console.write message "error" quiet

def warning (console : Console) (message : String) : Except Fault Transcript :=
  console.write message "warning" normal

def success (console : Console) (message : String) : Except Fault Transcript :=
  console.write message "success" normal

def info (console : Console) (message : String) : Except Fault Transcript :=
  console.write message "info" normal

def step (console : Console) (message : String) : Except Fault Transcript :=
  console.write message "step" normal

def verbose (console : Console) (message : String) : Except Fault Transcript :=
  console.write message "info" talkative

def debug (console : Console) (message : String) : Except Fault Transcript :=
  console.write message "debug" everything

def print (console : Console) (text : String) : Transcript :=
  if console.verbosity < normal then {} else line text

def data (console : Console) (value : Value) (least : Int) :
    Except Fault Transcript := do
  if console.verbosity < least then return {}
  return line (← console.presentation.data console.style value)

/-- Show the text of a program, without line feeds at its end. -/
def code (console : Console) (source : String) : Transcript :=
  let body := source.toList.reverse.dropWhile (· = '\n')
  console.print (String.ofList body.reverse)

/-- Show a heading, underlined over the width of the console at most. -/
def header (console : Console) (text : String) : Except Fault Transcript := do
  if console.verbosity < normal then return {}
  let title ←
    if console.style.useColors && console.outIsTerminal then
      console.style.paint "bold" text
    else pure text
  let width := min (text.length : Int) console.style.maxWidth
  let rule := String.ofList (List.replicate width.toNat '-')
  return { out := s!"\n{title}\n{rule}\n" }

end Console

end FunctionSynthesis
