import FunctionSynthesis.Text.Word
import FunctionSynthesis.Value

/-!
# Names

What a name means in an expression that does not bind it. Some words are
reserved and cannot be names. Some names stand for values, classes and functions
that are always in scope. Of a class or a function an expression can use little
more than the text.
-/

namespace FunctionSynthesis.Names

/-- The words that stand for values. -/
def constants : List (String × Value) :=
  [("None", .none), ("True", .bool true), ("False", .bool false)]

/-- The words that belong to the grammar. -/
def reserved : List String :=
  ["and", "as", "assert", "async", "await", "break", "class", "continue", "def",
    "del", "elif", "else", "except", "finally", "for", "from", "global", "if",
    "import", "in", "is", "lambda", "nonlocal", "not", "or", "pass", "raise",
    "return", "try", "while", "with", "yield"]

def functions : List String :=
  ["__build_class__", "__import__", "abs", "aiter", "all", "anext", "any",
    "ascii", "bin", "breakpoint", "callable", "chr", "compile", "delattr", "dir",
    "divmod", "eval", "exec", "format", "getattr", "globals", "hasattr", "hash",
    "hex", "id", "input", "isinstance", "issubclass", "iter", "len", "locals",
    "max", "min", "next", "oct", "open", "ord", "pow", "print", "repr", "round",
    "setattr", "sorted", "sum", "vars"]

def classes : List String :=
  ["ArithmeticError", "AssertionError", "AttributeError", "BaseException",
    "BaseExceptionGroup", "BlockingIOError", "BrokenPipeError", "BufferError",
    "BytesWarning", "ChildProcessError", "ConnectionAbortedError",
    "ConnectionError", "ConnectionRefusedError", "ConnectionResetError",
    "DeprecationWarning", "EOFError", "EncodingWarning", "EnvironmentError",
    "Exception", "ExceptionGroup", "FileExistsError", "FileNotFoundError",
    "FloatingPointError", "FutureWarning", "GeneratorExit", "IOError",
    "ImportError", "ImportWarning", "IndentationError", "IndexError",
    "InterruptedError", "IsADirectoryError", "KeyError", "KeyboardInterrupt",
    "LookupError", "MemoryError", "ModuleNotFoundError", "NameError",
    "NotADirectoryError", "NotImplementedError", "OSError", "OverflowError",
    "PendingDeprecationWarning", "PermissionError", "ProcessLookupError",
    "RecursionError", "ReferenceError", "ResourceWarning", "RuntimeError",
    "RuntimeWarning", "StopAsyncIteration", "StopIteration", "SyntaxError",
    "SyntaxWarning", "SystemError", "SystemExit", "TabError", "TimeoutError",
    "TypeError", "UnboundLocalError", "UnicodeDecodeError", "UnicodeEncodeError",
    "UnicodeError", "UnicodeTranslateError", "UnicodeWarning", "UserWarning",
    "ValueError", "Warning", "ZeroDivisionError", "bool", "bytearray", "bytes",
    "classmethod", "complex", "dict", "enumerate", "filter", "float",
    "frozenset", "int", "list", "map", "memoryview", "object", "property",
    "range", "reversed", "set", "slice", "staticmethod", "str", "super", "tuple",
    "type", "zip"]

/-- The name of the function that an expression is the body of. -/
def ownName : String := "synthesized_function"

/-- The other things that are always in scope. -/
def objects : List (String × Value) :=
  [(ownName, .special "function" s!"<function {ownName}>" s!"<function {ownName}>"),
    ("__name__", .str "builtins"), ("__package__", .str ""),
    ("__debug__", .bool true),
    ("Ellipsis", .special "ellipsis" "Ellipsis" "Ellipsis"),
    ("NotImplemented",
      .special "NotImplementedType" "NotImplemented" "NotImplemented")] ++
    ["__builtins__", "__loader__", "__spec__", "copyright", "credits", "exit",
      "help", "license", "quit"].map fun name =>
        (name, .special "object" name name)

def classValue (name : String) : Value :=
  let name :=
    if name = "IOError" || name = "EnvironmentError" then "OSError" else name
  .special "type" s!"<class '{name}'>" s!"<class '{name}'>"

def functionValue (name : String) : Value :=
  let text := s!"<built-in function {name}>"
  .special "builtin_function_or_method" text text

/-- What a name stands for that an expression does not bind. -/
def meaning? (name : String) : Option Value :=
  match constants.lookup name with
  | some value => some value
  | none =>
      if functions.contains name then some (functionValue name)
      else if classes.contains name then some (classValue name)
      else objects.lookup name

/-- Whether a text can stand for a value. -/
def canStand (text : String) : Bool :=
  Text.isWord text.toList && !reserved.contains text

/-- Whether a text can name a method. -/
def canBeMethod (text : String) : Bool :=
  canStand text && (constants.lookup text).isNone

end FunctionSynthesis.Names
