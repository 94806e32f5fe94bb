import FunctionSynthesis.Value.Text

/-!
# Faults

A fault is a failure of a general kind, such as a missing file or an operand of
the wrong class, with the arguments that describe it. `Fault.message` gives the
text that people see.
-/

namespace FunctionSynthesis

/-- The general kinds of failure. -/
inductive Fault.Kind where
  | any
  | value
  | json
  | encoding
  | encodingText
  | decodingText
  | convertingText
  | type
  | index
  | key
  | attribute
  | unboundName
  | grammar
  | indentation
  | tabs
  | group
  | anyGroup
  | zeroDivision
  | overflow
  | memory
  | recursion
  | stop
  | runtime
  | notImplemented
  | system
  | fileNotFound
  | permission
  | isDirectory
  | notDirectory
  | fileExists
  | connection
  | connectionAborted
  | connectionRefused
  | connectionReset
  | brokenPipe
  | blocking
  | childProcess
  | interrupted
  | processLookup
  | timeout
  | expired
  | interrupt
  | exit
  | generatorExit
  | root
  | other (name : String)
  deriving DecidableEq, Inhabited

namespace Fault.Kind

/-- The name under which a kind is reported. -/
def text : Kind → String
  | .any => "Exception"
  | .value => "ValueError"
  | .json => "JSONDecodeError"
  | .encoding => "UnicodeError"
  | .encodingText => "UnicodeEncodeError"
  | .decodingText => "UnicodeDecodeError"
  | .convertingText => "UnicodeTranslateError"
  | .type => "TypeError"
  | .index => "IndexError"
  | .key => "KeyError"
  | .attribute => "AttributeError"
  | .unboundName => "NameError"
  | .grammar => "SyntaxError"
  | .indentation => "IndentationError"
  | .tabs => "TabError"
  | .group => "ExceptionGroup"
  | .anyGroup => "BaseExceptionGroup"
  | .zeroDivision => "ZeroDivisionError"
  | .overflow => "OverflowError"
  | .memory => "MemoryError"
  | .recursion => "RecursionError"
  | .stop => "StopIteration"
  | .runtime => "RuntimeError"
  | .notImplemented => "NotImplementedError"
  | .system => "OSError"
  | .fileNotFound => "FileNotFoundError"
  | .permission => "PermissionError"
  | .isDirectory => "IsADirectoryError"
  | .notDirectory => "NotADirectoryError"
  | .fileExists => "FileExistsError"
  | .connection => "ConnectionError"
  | .connectionAborted => "ConnectionAbortedError"
  | .connectionRefused => "ConnectionRefusedError"
  | .connectionReset => "ConnectionResetError"
  | .brokenPipe => "BrokenPipeError"
  | .blocking => "BlockingIOError"
  | .childProcess => "ChildProcessError"
  | .interrupted => "InterruptedError"
  | .processLookup => "ProcessLookupError"
  | .timeout => "TimeoutError"
  | .expired => "TimeoutExpired"
  | .interrupt => "KeyboardInterrupt"
  | .exit => "SystemExit"
  | .generatorExit => "GeneratorExit"
  | .root => "BaseException"
  | .other name => name

/-- The failures of the operating system. -/
def systemKinds : List Kind :=
  [.system, .fileNotFound, .permission, .isDirectory, .notDirectory,
    .fileExists, .connection, .connectionAborted, .connectionRefused,
    .connectionReset, .brokenPipe, .blocking, .childProcess, .interrupted,
    .processLookup, .timeout]

/-- The kinds that say a value is unusable. -/
def valueKinds : List Kind :=
  [.value, .json, .encoding, .encodingText, .decodingText, .convertingText]

/-- The kinds that concern the text of a program. -/
def grammarKinds : List Kind :=
  [.grammar, .indentation, .tabs]

/-- The kinds that stand for several failures at once. -/
def groupKinds : List Kind :=
  [.group, .anyGroup]

/-- The kinds that are not failures but requests to end the program. -/
def endingKinds : List Kind :=
  [.interrupt, .exit, .generatorExit, .root]

/-- The kinds that have a constructor of their own. -/
def known : List Kind :=
  systemKinds ++ valueKinds ++ grammarKinds ++ groupKinds ++ endingKinds ++
    [.any, .type, .index, .key, .attribute, .unboundName, .zeroDivision,
      .overflow, .memory, .recursion, .stop, .runtime, .notImplemented,
      .expired]

/-- The kind with a given name; general failures of the operating system have
more than one. -/
def ofText (name : String) : Kind :=
  if name = "IOError" || name = "EnvironmentError" then .system
  else (known.find? fun kind => kind.text == name).getD (.other name)

/-- The name of a kind together with where it is defined. -/
def qualifiedText : Kind → String
  | .json => "json.decoder.JSONDecodeError"
  | .expired => "subprocess.TimeoutExpired"
  | kind => kind.text

def isSystem (kind : Kind) : Bool :=
  systemKinds.contains kind

def isValue (kind : Kind) : Bool :=
  valueKinds.contains kind

def isGrammar (kind : Kind) : Bool :=
  grammarKinds.contains kind

def isGroup (kind : Kind) : Bool :=
  groupKinds.contains kind

def endsProgram (kind : Kind) : Bool :=
  endingKinds.contains kind

/-- The kind of system failure that an error number stands for. -/
def ofErrorNumber : Int → Kind
  | 1 => .permission
  | 2 => .fileNotFound
  | 3 => .processLookup
  | 4 => .interrupted
  | 10 => .childProcess
  | 11 => .blocking
  | 13 => .permission
  | 17 => .fileExists
  | 20 => .notDirectory
  | 21 => .isDirectory
  | 32 => .brokenPipe
  | 103 => .connectionAborted
  | 104 => .connectionReset
  | 108 => .brokenPipe
  | 110 => .timeout
  | 111 => .connectionRefused
  | 114 => .blocking
  | 115 => .blocking
  | _ => .system

end Fault.Kind

/-- A failure of a general kind with the arguments that describe it. -/
structure Fault where
  kind : Fault.Kind
  args : List Value
  deriving Inhabited

namespace Fault

def describe (kind : Kind) (text : String) : Fault :=
  ⟨kind, [.str text]⟩

/-- A fault that needs no description. -/
def bare (kind : Kind) : Fault :=
  ⟨kind, []⟩

/-- A system fault with its number, text and the file concerned. -/
def ofFile (number : Int) (text file : String) : Fault :=
  ⟨Kind.ofErrorNumber number, [.int number, .str text, .str file]⟩

def noSuchFile (file : String) : Fault :=
  ofFile 2 "No such file or directory" file

def isADirectory (file : String) : Fault :=
  ofFile 21 "Is a directory" file

def notADirectory (file : String) : Fault :=
  ofFile 20 "Not a directory" file

/-- A text that cannot be turned into an integer or back, since it would have too
many digits. -/
def tooManyDigits (found : Option Nat) : Fault :=
  let what := found.elim "" fun digits => s!": value has {digits} digits"
  describe .value <| s!"Exceeds the limit ({Value.longestNumeral} digits) for integer " ++
    s!"string conversion{what}; use sys.set_int_max_str_digits() to increase " ++
    "the limit"

/-! ### Faults by name -/

private def unsuitable (kind : Kind) : Fault :=
  describe .type s!"{kind.text}() was given unsuitable arguments"

/-- Whether arguments can describe a fault of a kind that asks for particular
ones. -/
def areSuitable (kind : Kind) (args : List Value) : Bool :=
  match kind, args with
  | .json, [_, .str _, position] => position.integer?.isSome
  | .json, _ => false
  | .expired, args => 2 ≤ args.length && args.length ≤ 4
  | .encodingText, [.str _, .str _, start, stop, .str _] =>
      start.integer?.isSome && stop.integer?.isSome
  | .encodingText, _ => false
  | .convertingText, [.str _, start, stop, .str _] =>
      start.integer?.isSome && stop.integer?.isSome
  | .convertingText, _ => false
  | .decodingText, _ => false
  | .blocking, _ :: _ :: .float _ :: rest => 2 < rest.length
  | kind, [_, place] =>
      !kind.isGrammar ||
        place.elements?.any fun parts => parts.length = 4 || parts.length = 6
  | _, _ => true

/-- Why arguments cannot describe several failures at once: the second one would
have to list failures, and a value is none. -/
def groupFault (kind : Kind) (args : List Value) : Fault :=
  let second := "second argument (exceptions)"
  match args with
  | [.str _, members] =>
      match members.sequence? with
      | some [] => describe .value s!"{second} must be a non-empty sequence"
      | some _ => describe .value s!"Item 0 of {second} is not an exception"
      | none => unsuitable kind
  | _ => unsuitable kind

/-- A fault of a named kind, if its arguments suit it. A general system failure
takes the kind that its error number stands for. -/
def ofName (name : String) (args : List Value) : Except Fault Fault :=
  let kind :=
    match Kind.ofText name, args with
    | .system, number :: _ :: rest =>
        if rest.length ≤ 3 then
          number.integer?.elim Kind.system Kind.ofErrorNumber
        else .system
    | kind, _ => kind
  if kind.isGroup then throw (groupFault kind args)
  else if areSuitable kind args then return ⟨kind, args⟩
  else throw (unsuitable kind)

/-! ### Text -/

/-- Line, column and offset of a position in a text, the first two counted from
one. A negative position counts from the end, and the column is measured from
the last line end before it. -/
def positionText (document : String) (position : Int) : String :=
  let chars := document.toList
  let stop := if position < 0 then position + chars.length else position
  let before := chars.take stop.toNat
  let lineStart := before.length - (before.reverse.takeWhile (· != '\n')).length
  let line := before.count '\n' + 1
  let column := position - lineStart + 1
  s!"line {line} column {column} (char {position})"

private def plainArgs (args : List Value) : String :=
  match args with
  | [] => ""
  | [arg] => arg.plainText
  | args => Value.literalText (.tuple args)

/-- The file that a system failure concerns. A number in its place tells
something else where an operation would have had to wait. -/
private def namedFile? (kind : Kind) : List Value → Option Value
  | _ :: _ :: .none :: _ => none
  | _ :: _ :: file :: _ =>
      if kind = .blocking && file.number?.isSome then none else some file
  | _ => none

private def systemText (kind : Kind) (args : List Value) : String :=
  match args with
  | number :: text :: rest =>
      if 3 < rest.length then plainArgs args
      else
        let headline := s!"[Errno {number.plainText}] {text.plainText}"
        match namedFile? kind args, rest[2]?.getD .none with
        | none, _ => headline
        | some file, .none => s!"{headline}: {file.literalText}"
        | some file, target =>
            s!"{headline}: {file.literalText} -> {target.literalText}"
  | args => plainArgs args

/-- A failure at a place in a program, of which the file and the line may be
known. -/
private def placedText (text : Value) (place : List Value) : String :=
  let file? :=
    match place with
    | .str path :: _ => some ((path.splitOn "/").getLastD path)
    | _ => none
  let line? :=
    match place with
    | _ :: .int n :: _ => some n
    | _ => none
  match file?, line? with
  | none, none => text.plainText
  | some file, none => s!"{text.plainText} ({file})"
  | none, some n => s!"{text.plainText} (line {n})"
  | some file, some n => s!"{text.plainText} ({file}, line {n})"

private def grammarText : List Value → String
  | [] => Value.none.plainText
  | [text, place] => placedText text (place.elements?.getD [])
  | text :: _ => text.plainText

/-- Which characters of a text could not be converted, and why. -/
private def conversionText (verb text : String) (start stop : Int)
    (reason : String) : String :=
  let only? :=
    if stop = start + 1 then text.toList[start.toNat]? else none
  match only? with
  | some c =>
      let escape := String.ofList (Text.numericEscape c)
      s!"can't {verb} character '{escape}' in position {start}: {reason}"
  | none => s!"can't {verb} characters in position {start}-{stop - 1}: {reason}"

def message (fault : Fault) : String :=
  match fault.kind, fault.args with
  | .key, [key] => key.literalText
  | .json, [text, .str document, position] =>
      let place := positionText document (position.integer?.getD 0)
      s!"{text.plainText}: {place}"
  | .expired, command :: limit :: _ =>
      s!"Command '{command.plainText}' timed out after {limit.plainText} seconds"
  | .encodingText, [.str codec, .str text, start, stop, .str reason] =>
      let what := conversionText "encode" text (start.integer?.getD 0)
        (stop.integer?.getD 0) reason
      s!"'{codec}' codec {what}"
  | .convertingText, [.str text, start, stop, .str reason] =>
      conversionText "translate" text (start.integer?.getD 0)
        (stop.integer?.getD 0) reason
  | kind, args =>
      if kind.isSystem then systemText kind args
      else if kind.isGrammar then grammarText args
      else plainArgs args

/-- The message, if the arguments can be written. -/
def written (fault : Fault) : Except Fault String :=
  if fault.args.all Value.isWritable then return fault.message
  else throw (tooManyDigits none)

end Fault

namespace Value

def elements (v : Value) : Except Fault (List Value) :=
  match v.elements? with
  | some items => return items
  | Option.none => throw <| Fault.describe .type
      s!"'{v.qualifiedClassName}' object is not iterable"

/-- A text that shows a value, if the value can be written. -/
def written (v : Value) (text : String) : Except Fault String :=
  if v.isWritable then return text else throw (Fault.tooManyDigits Option.none)

end Value

end FunctionSynthesis
