import FunctionSynthesis.Log

/-!
# Loggers

A logger makes the records of a component under the circumstances that it
carries. The fields that are given for one record join those circumstances for
this record alone. A field may be given once, and under no name that a record
uses itself. Making a record that the sink does not keep gives nothing, but it
fails as well if its fields are not in order.
-/

namespace FunctionSynthesis.Log

/-- What makes records under a name and under given circumstances. -/
structure Logger where
  name : String
  context : Context
  deriving Inhabited

namespace Logger

def fullName (name : String) : String := s!"{rootName}.{name}"

def ofComponent (component : String) : Logger :=
  ⟨fullName component, { component }⟩

/-! ### Fields -/

/-- The field that asks for the failure that is being handled. -/
def failureField : String := "exc_info"

/-- The names that belong to a record itself. -/
def ownNames : List String := ["self", "msg", "level"]

/-- Fields under distinct names, none of which is taken. -/
def checkFields (taken : List String) (fields : Entries) :
    Except Fault Entries :=
  let names := fields.map fun field => field.1.text?
  let isFree : Option String → Bool
    | some name => !taken.contains name
    | none => false
  if names.all isFree && decide names.Nodup then return fields
  else throw (Fault.bare .type)

/-- Whether fields ask for the failure that is being handled. -/
def asksForFailure (fields : Entries) : Bool :=
  (Entries.valueOf? fields (.str failureField)).any Value.isTruthy

/-- The fields that describe what happened. -/
def described (fields : Entries) : Entries :=
  fields.filter fun field => field.1.text? != some failureField

/-! ### Derived loggers -/

/-- The logger under circumstances with more fields. -/
def withContext (logger : Logger) (fields : Entries) : Except Fault Logger := do
  let fields ← checkFields ["self"] fields
  return { logger with context := logger.context.withExtra fields }

def withOperation (logger : Logger) (operation : String) : Logger :=
  { logger with context := { logger.context with operation } }

def withRequestId (logger : Logger) (requestId : String) : Logger :=
  { logger with context := { logger.context with requestId } }

/-! ### Records -/

/-- A record with fields that are in order. -/
def make (logger : Logger) (level : Int) (message : String) (fields : Entries)
    (failure : Option Failure) : Record where
  logger := logger.name
  level := level
  message := message
  failure := failure
  context := some (logger.context.withExtra fields)

/-- The record of something that happened while perhaps a failure was being
handled, which is part of the record if the fields ask for it. -/
def record? (logger : Logger) (sink : Sink) (level : Int) (message : String)
    (fields : Entries) (handled : Option Failure) :
    Except Fault (Option Record) := do
  let fields ← checkFields ownNames fields
  let failure := if asksForFailure fields then handled else none
  if sink.keeps level then
    return some (logger.make level message (described fields) failure)
  else return none

/-- The record of the failure that is being handled. -/
def exception? (logger : Logger) (sink : Sink) (message : String)
    (fields : Entries) (handled : Failure) : Except Fault (Option Record) := do
  let fields ← checkFields (failureField :: ownNames) fields
  if sink.keeps errorLevel then
    return some (logger.make errorLevel message fields (some handled))
  else return none

/-- The field for the time that work took. -/
def elapsedField : String := "elapsed_ms"

/-- The time that work took, in thousandths of a second. The clock of the log
stands still. -/
def elapsedText : String := "0.00"

/-- The record at the end of work that was given fields and has fields as its
result, perhaps with a failure. -/
def completed? (logger : Logger) (sink : Sink) (operation : String)
    (given result : Entries) (failure : Option Failure) :
    Except Fault (Option Record) := do
  let own := Entries.ofFields
    [("operation", .str operation), (elapsedField, .str elapsedText)]
  let result := result.filter fun field => field.1.text? != some elapsedField
  logger.record? sink infoLevel s!"{operation} completed" (own ++ given ++ result)
    failure

/-- The record of an event in a component. -/
def event? (sink : Sink) (component message : String) (level : Int)
    (fields : Entries) : Except Fault (Option Record) := do
  let fields ← checkFields ["component", "event"] fields
  (ofComponent component).record? sink level message fields none

end Logger

end FunctionSynthesis.Log
