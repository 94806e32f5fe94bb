import FunctionSynthesis.Json.Writer
import FunctionSynthesis.Problem
import FunctionSynthesis.Text.Case
import FunctionSynthesis.Text.DecimalDigit
import FunctionSynthesis.Text.Word
import FunctionSynthesis.Value.Template

/-!
# Log records

A record says that something happened in a part of the program: how important
it is, a message, perhaps the failure that was being handled, and perhaps the
circumstances. `Log.Form.line` writes a record as text behind its circumstances
or as one JSON object, and a `Log.Sink` keeps the records that are important
enough.
-/

namespace FunctionSynthesis.Log

/-! ### Levels -/

/-- The names of levels of importance. The first name of a level is the one
that is written. -/
def levelNames : List (String × Int) :=
  [("CRITICAL", 50), ("FATAL", 50), ("ERROR", 40), ("WARNING", 30),
    ("WARN", 30), ("INFO", 20), ("DEBUG", 10), ("NOTSET", 0)]

def debugLevel : Int := 10
def infoLevel : Int := 20
def warningLevel : Int := 30
def errorLevel : Int := 40

def levelText (level : Int) : String :=
  match levelNames.find? fun named => named.2 = level with
  | some (name, _) => name
  | none => s!"Level {level}"

/-- The level that a number or a name in any letter case stands for. -/
def levelOf (given : Value) : Except Fault Int :=
  match given with
  | .str name =>
      let name := String.ofList (Text.upper name.toList)
      match levelNames.lookup name with
      | some level => return level
      | none =>
          let unknown := Value.str s!"Level {name}"
          throw (Fault.describe .value s!"Unknown level: {unknown.literalText}")
  | given =>
      match given.integer? with
      | some level => return level
      | none => throw <| Fault.describe .type
          s!"Level not an integer or a valid string: {given.literalText}"

/-- The level that a value stands for, as it is shown: a truth value is shown as
it is. -/
def shownLevel (given : Value) : Except Fault Value :=
  match given with
  | .bool b => return .bool b
  | given => return .int (← levelOf given)

/-! ### Records -/

/-- The circumstances in which something happened. Empty texts say nothing. -/
structure Context where
  component : String := ""
  operation : String := ""
  requestId : String := ""
  extra : Entries := []
  deriving Inhabited

namespace Context

/-- The circumstances with more fields; new values replace old ones. -/
def withExtra (context : Context) (fields : Entries) : Context :=
  { context with extra := Entries.merge context.extra fields }

end Context

/-- The name of the logger above all others. -/
def rootName : String := "typesynth"

/-- That something happened. -/
structure Record where
  logger : String
  level : Int
  message : String
  /-- What fills the places of the message, if there is anything. -/
  arguments : List Value := []
  failure : Option Failure := none
  context : Option Context := none
  deriving Inhabited

namespace Record

/-- What fills the places of the message: a dictionary that is the only argument
fills them by name. -/
def filling (record : Record) : Value :=
  match record.arguments with
  | [.dict es] => if es.isEmpty then .tuple [.dict es] else .dict es
  | arguments => .tuple arguments

def text (record : Record) : Except Fault String :=
  if record.arguments.isEmpty then return record.message
  else Template.fill record.message record.filling

end Record

/-! ### Written form -/

/-- The moment that stands on every record: logs are compared with one another,
so the clock of the log stands still. -/
def timestamp : String := "1970-01-01 00:00:00,000"

/-- How records are written: by a template for text, or as JSON objects. -/
inductive Form where
  | text (template : String)
  | json
  deriving DecidableEq, Inhabited

namespace Form

/-- The template of a message alone. -/
def messageOnly : String := "%(message)s"

/-- The form with moment, level and message. -/
def standard : Form := .text "%(asctime)s %(levelname)s %(message)s"

/-- The form with a given name. What is no name means text. -/
def ofName (name : Value) : Except Fault Form :=
  match name with
  | .str "text" => return standard
  | .str "json" => return json
  | .str name =>
      throw <| Fault.describe .value
        s!"{(Value.str name).literalText} is not a valid LogFormat"
  | _ => return standard

/-- The fields of an object that have something to say. -/
def present (fields : List (String × String)) : Entries :=
  let spoken := fields.filter fun field => field.2 != ""
  Entries.ofFields (spoken.map fun field => (field.1, .str field.2))

/-- A record as a JSON object. Its circumstances follow what it says itself,
and their further fields may replace what is there. -/
def jsonLine (record : Record) : Except Fault String := do
  let message ← record.text
  let own := Entries.ofFields
    [("timestamp", .str timestamp), ("level", .str (levelText record.level)),
      ("logger", .str record.logger), ("message", .str message)]
  let failure := Entries.ofFields <|
    record.failure.toList.map fun f => ("exception", .str f.headline)
  let context := record.context.getD {}
  let named := present
    [("component", context.component), ("operation", context.operation),
      ("request_id", context.requestId)]
  let entries := [failure, named, context.extra].foldl Entries.merge own
  (Value.dict entries).jsonText .line

/-- How much of a request's name is shown. -/
def shownRequestLength : Nat := 8

/-- What stands before a record for its circumstances. -/
def lead (context : Context) : String :=
  let request := String.ofList (context.requestId.toList.take shownRequestLength)
  " ".intercalate <| List.flatten
    [if context.component = "" then [] else [s!"[{context.component}]"],
      if context.operation = "" then [] else [s!"({context.operation})"],
      if context.requestId = "" then [] else [s!"req:{request}"]]

/-- The further fields of the circumstances. -/
def trail (context : Context) : String :=
  " ".intercalate <| context.extra.map fun (k, v) =>
    s!"{k.plainText}={v.plainText}"

/-- A text with another one on a line of its own below. -/
def below (text more : String) : String :=
  if text.toList.getLast? = some '\n' then text ++ more
  else text ++ "\n" ++ more

/-- Whether characters start with a place that has a name and a letter. -/
def startsWithNamed (chars : List Char) : Bool :=
  match chars with
  | '%' :: '(' :: rest =>
      let isInName (c : Char) : Bool :=
        Text.startsWord c || Text.isDecimalDigit c
      match rest.takeWhile isInName, rest.dropWhile isInName with
      | _ :: _, ')' :: rest =>
          let rest := skipMeasure (rest.dropWhile Template.isFlag)
          let rest :=
            match rest with
            | '.' :: '*' :: more => more
            | '.' :: d :: more =>
                if Text.isDecimalDigit d then more.dropWhile Text.isDecimalDigit
                else rest
            | rest => rest
          rest.head?.any fun c => "diouxefgcrsa%".toList.contains c.toLower
      | _, _ => false
  | _ => false
where
  skipMeasure : List Char → List Char
    | '*' :: rest => rest
    | rest => rest.dropWhile Text.isDecimalDigit

/-- Whether a template has a place for a field of a record. -/
def namesField : List Char → Bool
  | [] => false
  | c :: rest => startsWithNamed (c :: rest) || namesField rest

/-- A template for records, which has to show some field of them. -/
def recordTemplate (template : String) : Except Fault String :=
  let template := if template = "" then messageOnly else template
  if namesField template.toList then return template
  else throw (Fault.describe .value s!"Invalid format '{template}' for '%' style")

/-- What there is to say about where a record was made: one program with one
line of work, and nothing about its text. -/
def placeFields : Entries :=
  Entries.ofFields
    [("threadName", .str "MainThread"), ("processName", .str "MainProcess"),
      ("funcName", .none), ("stack_info", .none), ("exc_text", .none),
      ("created", .float (Binary64.zero false)),
      ("msecs", .float (Binary64.zero false))]

/-- The template of a record filled with its fields. -/
def fillRecord (template message : String) (record : Record) :
    Except Fault String :=
  let fields := Entries.ofFields
    [("asctime", .str timestamp), ("levelname", .str (levelText record.level)),
      ("levelno", .int record.level), ("name", .str record.logger),
      ("msg", .str record.message), ("args", record.filling),
      ("message", .str message)]
  match Template.fill template (.dict (fields ++ placeFields)) with
  | .error ⟨.key, [name]⟩ =>
      throw <| Fault.describe .value
        s!"Formatting field not found in record: {name.literalText}"
  | filled => filled

/-- A record as text: its template filled, the failure on a line of its own,
and the circumstances around both. -/
def textLine (template : String) (record : Record) : Except Fault String := do
  let template ← recordTemplate template
  let message ← record.text
  let filled ← fillRecord template message record
  let base := record.failure.elim filled fun f => below filled f.headline
  match record.context with
  | none => return base
  | some context =>
      let parts := [lead context, base, trail context]
      return " ".intercalate (parts.filter (· != ""))

def line (form : Form) (record : Record) : Except Fault String :=
  match form with
  | .text template => textLine template record
  | .json => jsonLine record

end Form

/-! ### Keeping records -/

/-- Where records go: the least level that is kept, and how it is written. -/
structure Sink where
  level : Int
  form : Form
  deriving DecidableEq, Inhabited

namespace Sink

/-- The sink for a level and a form given by name. -/
def ofNames (level form : Value) : Except Fault Sink := do
  let known := levelOf level
  let form ← Form.ofName form
  return ⟨← known, form⟩

/-- The least level that is kept. Nothing given means warnings. -/
def threshold (sink : Sink) : Int :=
  if sink.level = 0 then warningLevel else sink.level

/-- Whether records of a level are kept. -/
def keeps (sink : Sink) (level : Int) : Bool :=
  0 < level && sink.threshold ≤ level

/-- The lines of the records that are kept. -/
def lines (sink : Sink) (records : List Record) : Except Fault String := do
  let kept := records.filter fun record => sink.keeps record.level
  let written ← kept.mapM sink.form.line
  return String.join (written.map (· ++ "\n"))

end Sink

end FunctionSynthesis.Log
