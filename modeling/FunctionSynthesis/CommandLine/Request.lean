import FunctionSynthesis.CommandLine.Words
import FunctionSynthesis.Console
import FunctionSynthesis.Settings
import FunctionSynthesis.Text.Numeral

/-!
# Requests

A request is what the words of a command line ask for: to carry out a command
under general options, to show a text such as the help and stop, or nothing
sensible. The general options stand before the name of the command and its own
options behind it.
-/

namespace FunctionSynthesis.CommandLine

/-! ### What can be asked for -/

/-- The options that hold for every command. -/
structure Options where
  json : Bool := false
  compact : Bool := false
  quiet : Bool := false
  verbose : Bool := false
  debug : Bool := false
  noColor : Bool := false
  config : Option String := none
  deriving DecidableEq, Inhabited

/-- What is to be done with a task file. -/
structure Order where
  file : String := ""
  timeout : Option Value := none
  maxSize : Option Value := none
  executor : Option String := none
  /-- The only functions that are wanted, unless there are none. A missing name
  is the one of no function. -/
  functions : List (Option String) := []
  output : Option String := none
  deriving Inhabited

inductive Command where
  | synth (order : Order)
  | catalog
  | config
  deriving Inhabited

/-- What the words of a command line ask for. -/
inductive Request where
  | run (options : Options) (command : Option Command)
  /-- Show a text and stop. -/
  | present (text : String)
  /-- Complain under the name of a program or command and stop. -/
  | refuse (usage name complaint : String)
  deriving Inhabited

/-! ### Help -/

def programName : String := "typesynth"

def version : String := "0.1.0"

def commandNames : List String := ["synth", "catalog", "config"]

private def textOf (lines : List String) : String :=
  String.join (lines.map (· ++ "\n"))

def usage : String := textOf
  ["usage: typesynth [-h] [--version] [--json] [--compact] [--quiet] [--verbose]",
    "                 [--debug] [--no-color] [--config PATH]",
    "                 \x7bsynth,catalog,config\x7d ..."]

def help : String := usage ++ textOf
  ["",
    "Synthesize Python functions from input/output examples",
    "",
    "positional arguments:",
    "  \x7bsynth,catalog,config\x7d",
    "                        Commands",
    "    synth               Synthesize functions from a task file",
    "    catalog             List known method signatures",
    "    config              Show the effective configuration",
    "",
    "options:",
    "  -h, --help            show this help message and exit",
    "  --version             show program's version number and exit",
    "  --json, -j            Output in JSON format",
    "  --compact, -c         Compact output",
    "  --quiet, -q           Quiet mode (errors only)",
    "  --verbose, -v         Verbose output",
    "  --debug               Debug output (most verbose)",
    "  --no-color            Disable colored output",
    "  --config PATH         Config file (default: nearest typesynth.toml or",
    "                        pyproject.toml)"]

def synthUsage : String := textOf
  ["usage: typesynth synth [-h] [--timeout TIMEOUT] [--max-size MAX_SIZE]",
    "                       [--executor \x7bsubprocess,inprocess\x7d] [--function NAME]",
    "                       [--output PATH]",
    "                       file"]

def synthHelp : String := synthUsage ++ textOf
  ["",
    "positional arguments:",
    "  file                  JSON or YAML task file",
    "",
    "options:",
    "  -h, --help            show this help message and exit",
    "  --timeout TIMEOUT, -t TIMEOUT",
    "                        Seconds per function (default: from config, 60)",
    "  --max-size MAX_SIZE   Largest program in AST nodes (default: from config,",
    "                        50)",
    "  --executor \x7bsubprocess,inprocess\x7d",
    "                        How candidates are run against examples",
    "  --function NAME, -f NAME",
    "                        Only synthesize this function (repeatable)",
    "  --output PATH, -o PATH",
    "                        Also write all synthesized functions to a Python file"]

def plainUsage (name : String) : String := textOf [s!"usage: {name} [-h]"]

def plainHelp (name : String) : String := plainUsage name ++ textOf
  ["", "options:", "  -h, --help  show this help message and exit"]

/-! ### Options -/

def helpFlag : Flag := ⟨["-h", "--help"], false⟩
def versionFlag : Flag := ⟨["--version"], false⟩
def jsonFlag : Flag := ⟨["--json", "-j"], false⟩
def compactFlag : Flag := ⟨["--compact", "-c"], false⟩
def quietFlag : Flag := ⟨["--quiet", "-q"], false⟩
def verboseFlag : Flag := ⟨["--verbose", "-v"], false⟩
def debugFlag : Flag := ⟨["--debug"], false⟩
def noColorFlag : Flag := ⟨["--no-color"], false⟩
def configFlag : Flag := ⟨["--config"], true⟩

def generalFlags : List Flag :=
  [helpFlag, versionFlag, jsonFlag, compactFlag, quietFlag, verboseFlag,
    debugFlag, noColorFlag, configFlag]

def timeoutFlag : Flag := ⟨["--timeout", "-t"], true⟩
def maxSizeFlag : Flag := ⟨["--max-size"], true⟩
def executorFlag : Flag := ⟨["--executor"], true⟩
def functionFlag : Flag := ⟨["--function", "-f"], true⟩
def outputFlag : Flag := ⟨["--output", "-o"], true⟩

def synthFlags : List Flag :=
  [helpFlag, timeoutFlag, maxSizeFlag, executorFlag, functionFlag, outputFlag]

/-- The complaint about a word that is none of those that can be chosen. -/
def invalidChoice (word : String) (choices : List String) : String :=
  let listed := ", ".intercalate (choices.map Text.quoted)
  s!"invalid choice: {Text.quoted word} (choose from {listed})"

/-! ### Reading requests -/

/-- Why reading stops before its end. -/
inductive Halt where
  | present (text : String)
  | refuse (complaint : String)

def readSeconds (word : String) : Except Halt Value :=
  match Text.real? word with
  | some seconds => return .float seconds
  | none => throw <| .refuse <| timeoutFlag.complaint
      s!"invalid float value: {Text.quoted word}"

def readSize (word : String) : Except Halt Value :=
  match Text.integer? word with
  | some size => return .int size
  | none => throw <| .refuse <| maxSizeFlag.complaint
      s!"invalid int value: {Text.quoted word}"

/-- A number that an option gives: an empty list if its value is missing. -/
def readNumber (read : String → Except Halt Value) (word : Option String) :
    Except Halt Value :=
  match word with
  | some word => read word
  | none => return .list []

def readExecutor (word : String) : Except Halt String :=
  if Settings.executors.contains word then return word
  else
    throw <| .refuse <| executorFlag.complaint
      (invalidChoice word Settings.executors)

def Order.take (order : Order) (item : Item) : Except Halt Order :=
  match item with
  | .operands words => return { order with file := words.headD "" }
  | .flag flag word => do
      if flag = helpFlag then throw (.present synthHelp)
      else if flag = timeoutFlag then
        return { order with timeout := ← readNumber readSeconds word }
      else if flag = maxSizeFlag then
        return { order with maxSize := ← readNumber readSize word }
      else if flag = executorFlag then
        return { order with executor := ← word.mapM readExecutor }
      else if flag = functionFlag then
        return { order with functions := order.functions ++ [word] }
      else return { order with output := word }

/-- The items of a reading taken in order, and then its complaint. -/
def Reading.takeAll {σ : Type} (reading : Reading)
    (take : σ → Item → Except Halt σ) (start : σ) : Except Halt σ := do
  let final ← reading.items.foldlM take start
  match reading.complaint with
  | some complaint => throw (.refuse complaint)
  | none => return final

/-- Whether operands were read. -/
def Reading.hasOperands (reading : Reading) : Bool :=
  reading.items.any fun
    | .operands _ => true
    | .flag _ _ => false

/-- The order that words give, and the unknown words among them. -/
def readOrder (words : List String) : Except Halt (Order × List String) := do
  let reading := readWords synthFlags .one words
  let order ← reading.takeAll Order.take {}
  if reading.hasOperands then return (order, reading.unknown)
  else throw (.refuse "the following arguments are required: file")

/-- Read the words of a command that takes nothing. -/
def readNothing (name : String) (words : List String) :
    Except Halt (List String) := do
  let reading := readWords [helpFlag] .nothing words
  reading.takeAll (fun _ _ => throw (.present (plainHelp name))) ()
  return reading.unknown

def fullName (command : String) : String := s!"{programName} {command}"

/-- The request that is left when reading halts. -/
def Halt.request (usage name : String) : Halt → Request
  | .present text => .present text
  | .refuse complaint => .refuse usage name complaint

/-- The command with a name and further words, and the unknown words among
these. -/
def readCommand (name : String) (words : List String) :
    Except Request (Command × List String) :=
  let full := fullName name
  match name with
  | "synth" =>
      match readOrder words with
      | .ok (order, unknown) => return (.synth order, unknown)
      | .error halt => throw (halt.request synthUsage full)
  | "catalog" =>
      match readNothing full words with
      | .ok unknown => return (.catalog, unknown)
      | .error halt => throw (halt.request (plainUsage full) full)
  | "config" =>
      match readNothing full words with
      | .ok unknown => return (.config, unknown)
      | .error halt => throw (halt.request (plainUsage full) full)
  | word =>
      throw <| .refuse usage programName
        s!"argument command: {invalidChoice word commandNames}"

structure Draft where
  options : Options := {}
  command : Option Command := none
  unknown : List String := []
  deriving Inhabited

def Options.take (options : Options) (flag : Flag) (value : Option String) :
    Except Halt Options :=
  if flag = helpFlag then throw (.present help)
  else if flag = versionFlag then throw (.present s!"{programName} {version}\n")
  else if flag = jsonFlag then return { options with json := true }
  else if flag = compactFlag then return { options with compact := true }
  else if flag = quietFlag then return { options with quiet := true }
  else if flag = verboseFlag then return { options with verbose := true }
  else if flag = debugFlag then return { options with debug := true }
  else if flag = noColorFlag then return { options with noColor := true }
  else return { options with config := value }

def Draft.take (draft : Draft) (item : Item) : Except Request Draft :=
  match item with
  | .flag flag value =>
      match draft.options.take flag value with
      | .ok options => return { draft with options }
      | .error halt => throw (halt.request usage programName)
  | .operands words => do
      let (command, unknown) ← readCommand (words.headD "") words.tail
      return { draft with command := some command, unknown }

def Request.ofWords (words : List String) : Request :=
  let refuse := Request.refuse usage programName
  let reading := readWords generalFlags .rest words
  match reading.items.foldlM Draft.take {} with
  | .error request => request
  | .ok draft =>
      match reading.complaint, reading.unknown ++ draft.unknown with
      | some complaint, _ => refuse complaint
      | none, [] => .run draft.options draft.command
      | none, unknown =>
          refuse ("unrecognized arguments: " ++ " ".intercalate unknown)

end FunctionSynthesis.CommandLine
