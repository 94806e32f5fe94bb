import FunctionSynthesis.Fault
import FunctionSynthesis.Term

/-!
# Problems

A problem is a failure that this library foresees, by its cause: an unusable
setting or task file, a term without a type, a broken executor, a search that
ended without a program. Each has a category, may suggest a remedy and says
whether it makes sense to go on. `Failure` is a problem or a fault.
-/

namespace FunctionSynthesis

/-- What a failure concerns. -/
inductive Category where
  | fileNotFound
  | parsing
  | configuration
  | validation
  | timeout
  | search
  | external
  | cancelled
  | internal
  deriving DecidableEq, Inhabited

namespace Category

def text : Category → String
  | .fileNotFound => "FILE_NOT_FOUND"
  | .parsing => "PARSE_ERROR"
  | .configuration => "CONFIG"
  | .validation => "VALIDATION"
  | .timeout => "TIMEOUT"
  | .search => "SEARCH"
  | .external => "EXTERNAL"
  | .cancelled => "CANCELLED"
  | .internal => "INTERNAL"

def all : List Category :=
  [.fileNotFound, .parsing, .configuration, .validation, .timeout, .search,
    .external, .cancelled, .internal]

def ofText? (name : String) : Option Category :=
  all.find? fun category => category.text == name

end Category

/-- What one search has counted: the programs it tested and the ones it
eliminated by their type, beside the number of examples that it was told. -/
structure Counters where
  examples : Int
  tested : Nat
  eliminated : Nat
  deriving DecidableEq, Inhabited

namespace Counters

/-- The counters under the names they are reported by. -/
def fields (counters : Counters) : List (String × Value) :=
  [("examples", .int counters.examples), ("tested", .int counters.tested),
    ("eliminated", .int counters.eliminated)]

def toValue (counters : Counters) : Value :=
  .dict (Entries.ofFields counters.fields)

end Counters

/-- A failure that the library foresees, by its cause. -/
inductive Problem where
  | general (message : String) (category : Category)
      (suggestion : Option String) (context : Entries) (recoverable : Bool)
  | synthesis (message : String) (category : Category)
      (suggestion : Option String) (context : Entries) (recoverable : Bool)
      (counters : Option Counters)
  | configuration (message : String) (file : Option String) (context : Entries)
  | taskFile (path detail : String) (context : Entries)
  | untypable (message : String) (term : Option Term)
  | invariant (message : String) (context : Entries)
  | operational (message : String) (context : Entries)
  | exhausted (message : String) (counters : Option Counters)
  | timedOut (limit : Value) (counters : Option Counters)
  deriving Inhabited

namespace Problem

def className : Problem → String
  | .general _ _ _ _ _ => "TypesynthError"
  | .synthesis _ _ _ _ _ _ => "SynthesisError"
  | .configuration _ _ _ => "ConfigError"
  | .taskFile _ _ _ => "TaskFileError"
  | .untypable _ _ => "TypeInterpretationError"
  | .invariant _ _ => "InvariantViolation"
  | .operational _ _ => "OperationalError"
  | .exhausted _ _ => "NoSolutionFound"
  | .timedOut _ _ => "TimedOut"

/-- The part of the program that a problem belongs to. -/
def home : Problem → String
  | .general _ _ _ _ _ => "typesynth.errors"
  | .configuration _ _ _ => "typesynth.errors"
  | .taskFile _ _ _ => "typesynth.errors"
  | _ => "typesynth.synthesis.errors"

/-- The text of a search that ended without a program. -/
def nothingFound : String := "No candidates found"

def message : Problem → String
  | .general message _ _ _ _ => message
  | .synthesis message _ _ _ _ _ => message
  | .configuration message _ _ => message
  | .taskFile path detail _ =>
      if detail = "" then s!"Invalid task file {path}"
      else s!"Invalid task file {path}: {detail}"
  | .untypable message _ => message
  | .invariant message _ => message
  | .operational message _ => message
  | .exhausted message _ => message
  | .timedOut limit _ => s!"Synthesis timed out after {limit.plainText}s"

def category : Problem → Category
  | .general _ category _ _ _ => category
  | .synthesis _ category _ _ _ _ => category
  | .configuration _ _ _ => .configuration
  | .taskFile _ _ _ => .parsing
  | .untypable _ _ => .internal
  | .invariant _ _ => .internal
  | .operational _ _ => .external
  | .exhausted _ _ => .search
  | .timedOut _ _ => .timeout

/-- What to try against a problem. -/
def suggestion : Problem → Option String
  | .general _ _ suggestion _ _ => suggestion
  | .synthesis _ _ suggestion _ _ _ => suggestion
  | .configuration _ _ _ =>
      some "Check typesynth.toml or pyproject.toml [tool.typesynth]"
  | .taskFile _ _ _ =>
      some ("Expected a JSON list of \x7b\"name\", \"examples\"\x7d objects " ++
        "or \x7b\"functions\": [...]\x7d")
  | .untypable _ _ => none
  | .invariant _ _ => none
  | .operational _ _ =>
      some "Check the Python executable used to run candidates"
  | .exhausted _ _ =>
      some ("Increase max_size, add literals to the pools " ++
        "or extend the catalog")
  | .timedOut _ _ => some "Increase the timeout or lower max_size"

/-- What is known about the circumstances, by name. -/
def context : Problem → Entries
  | .general _ _ _ context _ => context
  | .synthesis _ _ _ context _ _ => context
  | .configuration _ file context =>
      let named : Value :=
        match file with
        | some path => if path = "" then .none else .str path
        | none => .none
      Entries.merge (Entries.ofFields [("file", named)]) context
  | .taskFile path _ context =>
      Entries.merge (Entries.ofFields [("path", .str path)]) context
  | .untypable _ (some term) =>
      Entries.ofFields [("term", .str term.constructorText)]
  | .untypable _ none => []
  | .invariant _ context => context
  | .operational _ context => context
  | .exhausted _ _ => []
  | .timedOut limit _ => Entries.ofFields [("timeout", limit)]

/-- Whether it makes sense to go on with other work. -/
def isRecoverable : Problem → Bool
  | .general _ _ _ _ recoverable => recoverable
  | .synthesis _ _ _ _ recoverable _ => recoverable
  | .untypable _ _ => false
  | .invariant _ _ => false
  | .operational _ _ => false
  | _ => true

def counters? : Problem → Option Counters
  | .synthesis _ _ _ _ _ counters => counters
  | .exhausted _ counters => counters
  | .timedOut _ counters => counters
  | _ => none

end Problem

/-- Anything that can go wrong. -/
inductive Failure where
  | fault (fault : Fault)
  | problem (problem : Problem)
  deriving Inhabited

namespace Failure

def className : Failure → String
  | .fault f => f.kind.text
  | .problem p => p.className

def message : Failure → String
  | .fault f => f.message
  | .problem p => p.message

def counters? : Failure → Option Counters
  | .fault _ => none
  | .problem p => p.counters?

/-- Whether the program can carry on after this failure: a request to end the
program is not a failure of some part of it. -/
def isOrdinary : Failure → Bool
  | .fault f => !f.kind.endsProgram
  | .problem _ => true

/-- The kind of a failure together with where it is defined. -/
def qualifiedName : Failure → String
  | .fault f => f.kind.qualifiedText
  | .problem p => s!"{p.home}.{p.className}"

/-- The kind of a failure with its text, as it is listed on one line. -/
def headline (failure : Failure) : String :=
  if failure.message = "" then failure.qualifiedName
  else s!"{failure.qualifiedName}: {failure.message}"

end Failure

/-- A result or what went wrong instead. -/
abbrev Attempt := Except Failure

/-- A fault as an attempt that failed. -/
def Attempt.fault {α : Type} (fault : Fault) : Attempt α :=
  throw (.fault fault)

/-- A problem as an attempt that failed. -/
def Attempt.problem {α : Type} (problem : Problem) : Attempt α :=
  throw (.problem problem)

instance : MonadLift (Except Fault) Attempt where
  monadLift attempt := attempt.mapError .fault

end FunctionSynthesis
