import FunctionSynthesis.CommandLine.Request
import FunctionSynthesis.Settings.File
import FunctionSynthesis.Task.Journal

/-!
# The command line

`CommandLine.perform` carries out what the words of a command line ask for. It
is a function of the words and of the surroundings: the files, the clock and the
means to start other programs. Its result holds what was shown, the files as
they are afterwards, and how the performance ended.

A failure that people can do something about is shown as an error and ends with
code one. Any other failure ends the performance as it is; what was shown before
stays.
-/

namespace FunctionSynthesis.CommandLine

/-- What a performance depends on besides its words. -/
structure Surroundings where
  files : Files := {}
  launcher : Launcher := Launcher.unavailable
  clock : Search.Clock := Search.Clock.stopped
  /-- The interpreter that belongs to the surroundings, if it has a name. -/
  interpreter : String := ""
  /-- Whether the streams are terminals. -/
  outIsTerminal : Bool := false
  errIsTerminal : Bool := false

/-- How a performance ends. -/
inductive Ending where
  /-- All was done, with a code that says how it went. -/
  | returned (code : Nat)
  /-- Nothing was to be done. -/
  | stopped (code : Nat)
  | failed (failure : Failure)
  deriving Inhabited

structure Traces where
  transcript : Transcript := {}
  files : Files := {}
  deriving Inhabited

structure Performance extends Traces where
  ending : Ending
  deriving Inhabited

/-- A part of a performance: it leaves traces even if it fails. -/
abbrev Act := ExceptT Failure (StateM Traces)

namespace Act

def tell (shown : Except Fault Transcript) : Act Unit :=
  match shown with
  | .ok transcript =>
      modify fun traces =>
        { traces with transcript := traces.transcript ++ transcript }
  | .error fault => throw (.fault fault)

def use {α : Type} (attempt : Attempt α) : Act α :=
  match attempt with
  | .ok a => return a
  | .error failure => throw failure

def log (sink : Log.Sink) (records : List Log.Record) : Act Unit :=
  tell ((sink.lines records).map fun text => { err := text })

def writeFile (path : Path) (text : String) : Act Unit := do
  match (← get).files.writeText path text with
  | .ok files => modify fun traces => { traces with files }
  | .error fault => throw (.fault fault)

def report (console : Console) (failure : Failure) : Act Unit :=
  tell (console.error (Report.ofFailure failure none).compact)

end Act

open Act

/-! ### Settings -/

/-- The console that general options ask for. -/
def Options.console (options : Options) (surroundings : Surroundings) :
    Console :=
  let verbosity :=
    if options.quiet then Console.quiet
    else if options.debug then Console.everything
    else if options.verbose then Console.talkative
    else Console.normal
  let console : Console :=
    { outIsTerminal := surroundings.outIsTerminal,
      errIsTerminal := surroundings.errIsTerminal }
  console.configured (some verbosity) options.json options.compact
    options.noColor

/-- The settings of the file that the options name, or of the nearest file. -/
def Options.fileSettings (options : Options) (surroundings : Surroundings) :
    Attempt Settings := do
  let interpreter := surroundings.interpreter
  let files := surroundings.files
  let named := options.config.getD ""
  if named != "" then Settings.load interpreter files (Path.ofText named)
  else
    match ← Settings.findFile files (Path.ofPlace files.workplace) [] with
    | some path => Settings.load interpreter files path
    | none => return Settings.standard interpreter

/-- The settings of the files with what the options say in their place. -/
def Options.settings (options : Options) (surroundings : Surroundings) :
    Attempt Settings := do
  let settings ← options.fileSettings surroundings
  return if options.debug then { settings with logLevel := .str "DEBUG" }
    else settings

def Order.adjust (order : Order) (settings : Settings) : Settings :=
  { settings with
    timeoutSeconds := order.timeout.getD settings.timeoutSeconds
    maxSize := order.maxSize.getD settings.maxSize
    executor := order.executor.elim settings.executor .str }

/-- Whether people can do something about a failure to get ready. -/
def isReported : Failure → Bool
  | .problem _ => true
  | .fault fault => fault.kind.isSystem

/-- What is needed to carry out an order. -/
structure Preparation where
  settings : Settings
  sink : Log.Sink
  tasks : List Task

def Order.prepare (order : Order) (options : Options)
    (surroundings : Surroundings) : Attempt Preparation := do
  let settings := order.adjust (← options.settings surroundings)
  let sink ← (Log.Sink.ofNames settings.logLevel settings.logFormat :
    Except Fault Log.Sink)
  let tasks ← Task.load surroundings.files (Path.ofText order.file)
  return ⟨settings, sink, tasks⟩

/-! ### The commands -/

def Order.wanted (order : Order) (tasks : List Task) : List Task :=
  if order.functions.isEmpty then tasks
  else tasks.filter fun task => order.functions.contains (some task.name)

/-- Show that no task is wanted. Names that are missing cannot be shown. -/
def Order.reportNone (order : Order) (console : Console) : Act Unit := do
  match order.functions.mapM id with
  | some names =>
      let names := ", ".intercalate names
      tell (console.error s!"No function named {names} in {order.file}")
  | none =>
      throw <| .fault <| .describe .type
        "a name of a function is missing"

def showSolution (console : Console) (solution : Solution) : Act Unit := do
  match solution.code with
  | some code => tell (.ok (console.code code))
  | none =>
      let reason := solution.report.elim "failed" Report.message
      tell (console.error s!"{solution.name}: {reason}")
  match solution.counters with
  | some counters =>
      let elapsed ← use (Template.fill "%.0f" solution.elapsed)
      tell <| console.verbose
        s!"  {counters.toValue.literalText} in {elapsed}ms"
  | none => return ()

/-- Solve tasks one after the other, showing text as it comes. -/
def solveEach (workshop : Workshop) (console : Console) (sink : Log.Sink) :
    Nat → List Task → Act (List Solution)
  | _, [] => return []
  | readings, task :: tasks => do
      if console.isText then
        let count := task.examples.length
        tell (console.step s!"Synthesizing {task.name} ({count} examples)")
      let work := workshop.work readings task
      log sink work.journal
      let solution ← use work.result
      if console.isText then showSolution console solution
      return solution :: (← solveEach workshop console sink work.readings tasks)

/-- Show what came of all tasks, after the file with their functions has been
written. -/
def conclude (console : Console) (order : Order) (solutions : List Solution) :
    Act Nat := do
  let output := order.output.getD ""
  if output != "" then
    writeFile (Path.ofText output) (Solution.combined solutions)
  let tally := solutions.foldl Tally.count {}
  if console.isText then
    if output != "" then tell (console.success s!"Wrote {output}")
    tell (console.info tally.summary)
  else
    let functions ← use
      (solutions.mapM Solution.toValue : Except Fault (List Value))
    let data := Value.dict <| Entries.ofFields
      [("functions", .list functions), ("summary", .str tally.summary)]
    tell (console.data data Console.normal)
  return if tally.hasFailures then 1 else 0

def Order.carryOut (order : Order) (surroundings : Surroundings)
    (console : Console) (ready : Preparation) : Act Nat := do
  let tasks := order.wanted ready.tasks
  if !order.functions.isEmpty && tasks.isEmpty then
    order.reportNone console
    return 1
  let workshop : Workshop :=
    { settings := ready.settings, launcher := surroundings.launcher,
      clock := surroundings.clock }
  let solved : Except Failure (List Solution) ←
    tryCatch (Except.ok <$> solveEach workshop console ready.sink 0 tasks)
      fun failure => return .error failure
  match solved with
  | .ok solutions => conclude console order solutions
  | .error (.problem problem) => do
      report console (.problem problem)
      return 1
  | .error failure => throw failure

/-- Use what an attempt gives, or show the failure if people can do something
about it. -/
def orReport {α : Type} (console : Console) (attempt : Attempt α)
    (act : α → Act Nat) : Act Nat :=
  match attempt with
  | .ok a => act a
  | .error failure =>
      if isReported failure then do
        report console failure
        return 1
      else throw failure

/-- The methods with their signatures, each as a value. -/
def catalogEntries : List Value :=
  Catalog.standard.entries.map fun (name, method, signature) =>
    .dict <| Entries.ofFields
      [("class", .str name), ("method", .str method),
        ("params", .list (signature.arguments.map fun t => .str t.display)),
        ("returns", .str signature.result.display),
        ("property", .bool signature.isProperty),
        ("signature", .str s!"{name}.{method}{signature.display}")]

/-- Show the methods that are known. -/
def showCatalog (console : Console) : Act Nat := do
  if console.isText then
    for entry in catalogEntries do
      let text := (entry.get? "signature").elim "" Value.plainText
      tell (.ok (console.print text))
  else tell (console.data (.list catalogEntries) Console.normal)
  return 0

def showSettings (console : Console) (settings : Settings) : Act Nat := do
  if console.isText then tell (settings.fileText.map console.print)
  else tell (console.data settings.toValue Console.normal)
  return 0

def Command.carryOut (command : Command) (surroundings : Surroundings)
    (options : Options) : Act Nat :=
  let console := options.console surroundings
  match command with
  | .synth order =>
      orReport console (order.prepare options surroundings)
        (order.carryOut surroundings console)
  | .catalog => showCatalog console
  | .config =>
      orReport console (options.settings surroundings)
        (showSettings console)

/-! ### Performances -/

def Request.perform (request : Request) (surroundings : Surroundings) :
    Performance :=
  let ended (transcript : Transcript) (ending : Ending) : Performance :=
    { transcript, files := surroundings.files, ending }
  match request with
  | .present text => ended { out := text } (.stopped 0)
  | .refuse usage name complaint =>
      ended { err := usage ++ s!"{name}: error: {complaint}\n" } (.stopped 2)
  | .run _ none => ended { out := help } (.returned 0)
  | .run options (some command) =>
      let (result, traces) :=
        (command.carryOut surroundings options).run.run
          { files := surroundings.files }
      let ending :=
        match result with
        | .ok code => Ending.returned code
        | .error failure => .failed failure
      { toTraces := traces, ending }

def perform (surroundings : Surroundings) (words : List String) : Performance :=
  (Request.ofWords words).perform surroundings

end FunctionSynthesis.CommandLine
