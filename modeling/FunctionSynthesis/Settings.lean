import FunctionSynthesis.Grammar.Limits
import FunctionSynthesis.Text.Case

/-!
# Settings

The settings of a synthesis run. They are kept as they are given, whatever their
values: `Settings.complaints` says what is wrong with them, and what uses a
setting says what it needs it to be.
-/

namespace FunctionSynthesis

/-- The settings of a synthesis run: bounds on programs, time and pools, how
candidates are run, the limits of the grammar, and how the run is logged. -/
structure Settings where
  maxSize : Value := .int 50
  timeoutSeconds : Value := .int 60
  maxPoolSize : Value := .int 20
  maxLiteralLength : Value := .int 20
  executor : Value := .str "subprocess"
  /-- The interpreter that runs candidates. -/
  python : Value := .str "python3"
  exampleTimeoutSeconds : Value := .int 10
  limits : Limits := {}
  logLevel : Value := .str "WARNING"
  logFormat : Value := .str "text"
  deriving Inhabited

/-- The settings that hold unless others are given, in surroundings with an
interpreter of their own. One without a name is none. -/
def Settings.standard (interpreter : String) : Settings :=
  if interpreter = "" then {} else { python := .str interpreter }

namespace Limits

def fields (limits : Limits) : List (String × Value) :=
  [("max_array_arity", limits.maxArrayArity),
    ("arithmetic_constants", limits.arithmeticConstants),
    ("constant_pairs", limits.constantPairs),
    ("variable_triples", limits.variableTriples),
    ("concat_constants", limits.concatConstants)]

/-- The limits with the one of this name replaced, if there is one. -/
def set? (limits : Limits) (name : String) (value : Value) : Option Limits :=
  match name with
  | "max_array_arity" => some { limits with maxArrayArity := value }
  | "arithmetic_constants" => some { limits with arithmeticConstants := value }
  | "constant_pairs" => some { limits with constantPairs := value }
  | "variable_triples" => some { limits with variableTriples := value }
  | "concat_constants" => some { limits with concatConstants := value }
  | _ => none

def equal (a b : Limits) : Bool :=
  (a.fields.zip b.fields).all fun (x, y) => x.2 == y.2

end Limits

namespace Settings

/-- The ways to run candidates. -/
def executors : List String := ["subprocess", "inprocess"]

def logLevels : List String := ["DEBUG", "INFO", "WARNING", "ERROR"]

def logFormats : List String := ["text", "json"]

/-- A setting other than the limits, by its own name. -/
structure Field where
  name : String
  get : Settings → Value
  set : Settings → Value → Settings

/-- The settings other than the limits, each under its own name. -/
def fields : List Field :=
  [⟨"max_size", maxSize, fun s v => { s with maxSize := v }⟩,
    ⟨"timeout_seconds", timeoutSeconds, fun s v => { s with timeoutSeconds := v }⟩,
    ⟨"max_pool_size", maxPoolSize, fun s v => { s with maxPoolSize := v }⟩,
    ⟨"max_literal_length", maxLiteralLength,
      fun s v => { s with maxLiteralLength := v }⟩,
    ⟨"executor", executor, fun s v => { s with executor := v }⟩,
    ⟨"python", python, fun s v => { s with python := v }⟩,
    ⟨"example_timeout_seconds", exampleTimeoutSeconds,
      fun s v => { s with exampleTimeoutSeconds := v }⟩,
    ⟨"log_level", logLevel, fun s v => { s with logLevel := v }⟩,
    ⟨"log_format", logFormat, fun s v => { s with logFormat := v }⟩]

def field? (name : String) : Option Field :=
  fields.find? fun field => field.name == name

/-- The settings as one value, the limits in their place before the log
settings. -/
def toValue (settings : Settings) : Value :=
  let named := fields.map fun field => (field.name, field.get settings)
  let limits := ("limits", Value.dict (Entries.ofFields settings.limits.fields))
  .dict (Entries.ofFields (named.take 7 ++ limits :: named.drop 7))

/-! ### Complaints -/

/-- Whether a setting is below a bound. Only a number can be compared. -/
def isBelow (value : Value) (bound : Int) : Except Fault Bool :=
  match value.number? with
  | some n => return n.isLess (.int bound)
  | none => throw <| Fault.describe .type
      (s!"'<' not supported between instances of " ++
        s!"'{value.className}' and 'int'")

def isAtMostZero (value : Value) : Except Fault Bool :=
  match value.number? with
  | some n => return n.isAtMost (.int 0)
  | none => throw <| Fault.describe .type
      (s!"'<=' not supported between instances of " ++
        s!"'{value.className}' and 'int'")

/-- Whether a setting is none of some words. -/
def isNoneOf (value : Value) (words : List String) : Bool :=
  !words.any fun word => value == .str word

/-- Whether a setting names no log level, in whatever case. -/
def isNoLogLevel (value : Value) : Except Fault Bool :=
  match value with
  | .str s =>
      return !logLevels.contains (String.ofList (Text.upper s.toList))
  | value => throw <| Fault.describe .attribute
      s!"'{value.className}' object has no attribute 'upper'"

private def oneOf (name : String) (words : List String) : String :=
  s!"{name} must be one of {Value.commaSeparated words}"

/-- What is wrong with the settings. A setting that cannot even be compared is
a fault. -/
def complaints (settings : Settings) : Except Fault (List String) := do
  let checks : List (Except Fault Bool × String) :=
    [(isBelow settings.maxSize 1, "max_size must be at least 1"),
      (isAtMostZero settings.timeoutSeconds, "timeout_seconds must be positive"),
      (isBelow settings.maxPoolSize 0, "max_pool_size must not be negative"),
      (isBelow settings.maxLiteralLength 1,
        "max_literal_length must be at least 1"),
      (pure (isNoneOf settings.executor executors), oneOf "executor" executors),
      (isAtMostZero settings.exampleTimeoutSeconds,
        "example_timeout_seconds must be positive"),
      (isNoLogLevel settings.logLevel, oneOf "log_level" logLevels),
      (pure (isNoneOf settings.logFormat logFormats),
        oneOf "log_format" logFormats),
      (isBelow settings.limits.maxArrayArity 0,
        "limits.max_array_arity must not be negative")]
  let found ← checks.mapM fun (check, complaint) => do
    return if ← check then some complaint else none
  return found.filterMap id

/-! ### Merging -/

/-- What merging does with each setting of the new settings: it is taken over if
it differs from the default. The limits count as one setting. -/
def changes (interpreter : String) : List (Settings → Settings → Settings) :=
  let defaults := standard interpreter
  (fields.map fun field override merged =>
    if field.get override == field.get defaults then merged
    else field.set merged (field.get override)) ++
  [fun override merged =>
    if override.limits.equal defaults.limits then merged
    else { merged with limits := override.limits }]

/-- Settings of `base`, except where those of `override` differ from the
defaults. -/
def merge (interpreter : String) (base override : Settings) : Settings :=
  (changes interpreter).foldl (fun merged change => change override merged) base

/-- Merge the settings at two addresses of a memory. A copy of the base is put at
a new address, and every change is read where the override is and made where the
copy is. -/
def mergeAt (interpreter : String) (memory : List Settings)
    (base override : Nat) : Option (List Settings) := do
  let copied ← memory[base]?
  (changes interpreter).foldlM (fun now change => do
    let settings ← now[override]?
    let merged ← now[memory.length]?
    return now.set memory.length (change settings merged)) (memory ++ [copied])

end Settings

end FunctionSynthesis
