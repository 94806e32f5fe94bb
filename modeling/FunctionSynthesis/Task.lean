import FunctionSynthesis.Example
import FunctionSynthesis.Files
import FunctionSynthesis.Json.Reader
import FunctionSynthesis.Problem
import FunctionSynthesis.Yaml.Reader

/-!
# Tasks

A task names a function and gives examples of it. A task file lists tasks, in
JSON or in YAML. `Task.ofData` reads the tasks off the data of such a file and
`Task.load` reads a file.
-/

namespace FunctionSynthesis

/-- A function that is wanted, by examples. -/
structure Task where
  name : String
  examples : List Example
  deriving Inhabited

namespace Task

def arity (task : Task) : Nat :=
  Example.arityOf task.examples

private def refuse {α : Type} (source detail : String) : Attempt α :=
  Attempt.problem (.taskFile source detail [])

/-- The text of the name of a task. -/
def nameText (name : Value) : Except Fault String :=
  name.written name.plainText

/-- The examples of a task. What is no collection of them is a problem of the
file. -/
def examplesOf (source : String) (name given : Value) :
    Attempt (List Example) := do
  let examples := if given.isTruthy then given else .list []
  match Example.ofValues examples with
  | .ok examples => return examples
  | .error fault =>
      if fault.kind.isValue || fault.kind = .type then
        refuse source s!"{← nameText name}: {fault.message}"
      else Attempt.fault fault

/-- The task that an entry of a list describes. -/
def ofEntry (source : String) (position : Nat) (entry : Value) :
    Attempt Task :=
  match entry.get? "name" with
  | some name => do
      let given := (entry.get? "examples").getD .none
      let examples ← examplesOf source name given
      return ⟨← nameText name, examples⟩
  | none => refuse source s!"function #{position} has no name"

/-- The tasks that data describe: a list of entries, or a dictionary with such a
list. -/
def ofData (source : String) (data : Value) : Attempt (List Task) :=
  match (data.get? "functions").getD data with
  | .list entries =>
      entries.zipIdx.mapM fun (entry, i) => ofEntry source i entry
  | _ => refuse source "top level must be a list of functions"

/-- The suffixes of task files in YAML. -/
def yamlSuffixes : List String := [".yaml", ".yml"]

def dataOf (path : Path) (text : String) : Attempt Value :=
  if yamlSuffixes.contains path.suffix then
    match Value.ofYaml? text with
    | .ok (some data) => return data
    | .ok none => refuse path.text ""
    | .error fault => Attempt.fault fault
  else
    match Value.ofJson text with
    | .ok data => return data
    | .error fault =>
        if fault.kind = .json then refuse path.text fault.message
        else Attempt.fault fault

def load (tree : Files) (path : Path) : Attempt (List Task) := do
  ofData path.text (← dataOf path (← tree.readText path))

end Task

end FunctionSynthesis
