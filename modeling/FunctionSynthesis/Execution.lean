import FunctionSynthesis.Example
import FunctionSynthesis.Json.Reader
import FunctionSynthesis.Problem
import FunctionSynthesis.Settings
import FunctionSynthesis.Text.Blank
import FunctionSynthesis.Term.Evaluation

/-!
# Running candidates

A candidate is run on a list of arguments either within the program or by an
interpreter in a process of its own. In both cases it has a result, or a reason
why it has none; a problem arises only when nothing can be run at all.
-/

namespace FunctionSynthesis

/-- The result of a candidate, or why it has none. -/
abbrev Run := Except String Value

/-- A way to run candidates, which are given as a term, the number of its
parameters and the source text of a function, on arguments. -/
abbrev Runner := Term → Nat → String → List Value → Attempt Run

/-- A way to run functions, which are given as a source text and the name of the
function in it, on arguments. -/
abbrev Execution := String → String → List Value → Attempt Run

/-- A call of an interpreter: the program that it is to run, the arguments of
the candidate as JSON, and how long it may take. -/
structure Command where
  interpreter : Value
  script : String
  input : String
  limit : Value

namespace Command

/-- A script that calls a function on the arguments that it is given and prints
the result. -/
def scriptFor (code function : String) : String :=
  "import json\nimport sys\n\n" ++ code ++ "\n\nprint(json.dumps(" ++ function ++
    "(*json.loads(sys.argv[1]))))\n"

/-- The command that calls a function on the items of a value. -/
def forCall (interpreter limit : Value) (code function : String)
    (inputs : Value) : Except Fault Command := do
  let items ← inputs.elements
  let input ← (Value.list items).jsonText .strict
  return ⟨interpreter, scriptFor code function, input, limit⟩

def words (command : Command) : List Value :=
  [command.interpreter, .str "-c", .str command.script, .str command.input]

end Command

/-- What a process left behind: its exit status and what it wrote. -/
structure Completed where
  status : Int
  output : String
  errors : String

namespace Completed

/-- How much of an unreadable output is shown. -/
def shownOutput : Nat := 100

/-- Why a process failed: the last line that it complained with, or else its
exit status. -/
def complaint (completed : Completed) : String :=
  let lines := Text.lines (Text.trimWith Text.isBlank completed.errors.toList)
  match lines.getLast? with
  | some line => String.ofList line
  | none => s!"exit status {completed.status}"

/-- The result that a process printed. An integer that is too long to be read
is a fault. -/
def result (completed : Completed) : Except Fault Run :=
  if completed.status ≠ 0 then return .error completed.complaint
  else match Value.ofJson completed.output with
    | .ok value => return .ok value
    | .error fault =>
        let shown := String.ofList (completed.output.toList.take shownOutput)
        if fault.kind = .json then
          return .error s!"non-JSON output: {Text.quoted shown}"
        else throw fault

end Completed

/-- Something that runs commands. -/
abbrev Launcher := Command → Attempt Completed

namespace Launcher

/-- The launcher for a place without interpreters. -/
def unavailable : Launcher := fun command =>
  Attempt.fault (Fault.noSuchFile command.interpreter.plainText)

/-- Run a command. A process that takes too long has no result; one that cannot
be started means that nothing can be run. -/
def run (launcher : Launcher) (command : Command) : Attempt Run :=
  let interpreter := command.interpreter.plainText
  match launcher command with
  | .ok completed => completed.result
  | .error (.fault fault) =>
      if fault.kind = .fileNotFound then
        Attempt.problem <| .operational
          s!"Python interpreter not found: {interpreter}"
          (Entries.ofFields [("python", command.interpreter)])
      else if fault.kind = .expired then
        return .error s!"timed out after {command.limit.plainText}s"
      else if fault.kind.isSystem then
        Attempt.problem <| .operational
          s!"Could not run {interpreter}: {fault.message}" []
      else Attempt.fault fault
  | .error failure => .error failure

end Launcher

/-- How candidates are run: within the program, or by an interpreter in a
process of its own with a limit on its time. -/
inductive Executor where
  | inProcess
  | separate (interpreter limit : Value)

namespace Executor

def ofSettings (settings : Settings) : Executor :=
  if settings.executor == .str "inprocess" then .inProcess
  else .separate settings.python settings.exampleTimeoutSeconds

/-- The name of the function that a candidate is the body of. -/
def candidateName : String := Names.ownName

/-- Run a function with a term as its body on arguments. Its source text is
needed only by an interpreter. -/
def run (executor : Executor) (launcher : Launcher) : Runner :=
  fun t arity code inputs =>
    match executor with
    | .inProcess =>
        match t.callWith arity inputs with
        | .ok value => return .ok value
        | .error fault => do
            let message ← fault.written
            return .error s!"{fault.kind.text}: {message}"
    | .separate interpreter limit => do
        let command ← Command.forCall interpreter limit code candidateName
          (.list inputs)
        launcher.run command

end Executor

/-- Run candidates by their source text. -/
def Execution.runner (execute : Execution) : Runner :=
  fun _ _ code inputs => execute code Executor.candidateName inputs

end FunctionSynthesis
