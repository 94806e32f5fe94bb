import FunctionSynthesis.Example
import FunctionSynthesis.Files
import FunctionSynthesis.Settings.Tables
import FunctionSynthesis.Toml.Reader

/-!
# Settings files

A settings file is a file of its own, or a part of the file that describes a
whole project. `Settings.findFile` looks for one in a directory and the
directories around it, and `Settings.load` reads one.
-/

namespace FunctionSynthesis.Settings

def projectFile : String := "pyproject.toml"

/-- The names of settings files, preferred ones first. -/
def fileNames : List String :=
  ["typesynth.toml", ".typesynthrc.toml", projectFile]

/-- Whether a project description has a part with settings. -/
def hasOwnTable (data : Entries) : Except Fault Bool :=
  match Entries.valueOf? data (.str "tool") with
  | some tools => tools.holds "typesynth"
  | none => return false

/-- The part of a project description with the settings. -/
def ownTable (data : Entries) : Except Fault Value := do
  (← (Value.dict data).member "tool").member "typesynth"

/-! ### Finding -/

/-- Whether a file has settings. A project description has to be readable and to
have a part with them. -/
def isSettingsFile (tree : Files) (name : String) (path : Path) :
    Except Fault Bool :=
  if !tree.hasPath path then return false
  else if name != projectFile then return true
  else
    match tree.rawText path with
    | .error _ => return false
    | .ok text => do
        match ← Value.ofToml? text with
        | none => return false
        | some data => hasOwnTable data

/-- The first path that passes a test. -/
def firstWith (test : String × Path → Except Fault Bool) :
    List (String × Path) → Except Fault (Option Path)
  | [] => return none
  | candidate :: rest => do
      if ← test candidate then return some candidate.2
      else firstWith test rest

/-- The nearest settings file of a directory and the directories around it. -/
def findFile (tree : Files) (start : Path) (names : List String) :
    Except Fault (Option Path) := do
  if Files.isBroken start then
    throw (Fault.describe .value "lstat: embedded null character in path")
  let names := if names.isEmpty then fileNames else names
  let candidates := (Path.outward (tree.resolve start)).flatMap fun place =>
    names.map fun name => (name, Path.append (Path.ofPlace place) (Path.ofText name))
  firstWith (fun (name, path) => isSettingsFile tree name path) candidates

/-! ### Loading -/

def dataOf (path : Path) (entries : Entries) : Attempt Value := do
  if path.name = projectFile then
    if ← hasOwnTable entries then ownTable entries
    else
      Attempt.problem <| .configuration
        s!"No [tool.typesynth] section in {path.text}" (some path.text) []
  else return .dict entries

def checked (path : Path) (settings : Settings) : Attempt Settings := do
  match ← settings.complaints with
  | [] => return settings
  | complaints =>
      Attempt.problem <| .configuration ("; ".intercalate complaints)
        (some path.text) []

def load (interpreter : String) (tree : Files) (path : Path) :
    Attempt Settings := do
  if tree.site path = .unnameable then
    Attempt.fault (Files.faultAt path .unnameable)
  else if !tree.hasPath path then
    Attempt.fault <| Fault.describe .fileNotFound
      s!"Config file not found: {path.text}"
  else
    match ← Value.ofToml? (← tree.rawText path) with
    | none =>
        Attempt.problem (.configuration "Invalid TOML" (some path.text) [])
    | some entries =>
        let data ← dataOf path entries
        checked path (← ofTables interpreter (some path.text) data)

end FunctionSynthesis.Settings
