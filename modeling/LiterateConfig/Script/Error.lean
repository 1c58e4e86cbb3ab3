/-!
# Kinds of errors in the block language

An error that a block raises is known by the name of its kind. Most kinds can
be recovered from, also the request to exit; an interruption, the closing of a
generator and the bare base kind cannot, and end whatever is running.
-/
namespace LiterateConfig.Script

structure ErrorKind where
  name : String
  deriving DecidableEq, Repr

namespace ErrorKind

/-- The kinds that a block can name. -/
def names : List String := [
  "BaseException", "SystemExit", "KeyboardInterrupt", "GeneratorExit", "Exception", "StopIteration",
  "StopAsyncIteration", "ArithmeticError", "FloatingPointError", "OverflowError",
  "ZeroDivisionError", "AssertionError", "AttributeError", "BufferError", "EOFError", "ImportError",
  "ModuleNotFoundError", "LookupError", "IndexError", "KeyError", "MemoryError", "NameError",
  "UnboundLocalError", "OSError", "BlockingIOError", "ChildProcessError", "ConnectionError",
  "BrokenPipeError", "ConnectionAbortedError", "ConnectionRefusedError", "ConnectionResetError",
  "FileExistsError", "FileNotFoundError", "InterruptedError", "IsADirectoryError",
  "NotADirectoryError", "PermissionError", "ProcessLookupError", "TimeoutError", "ReferenceError",
  "RuntimeError", "NotImplementedError", "RecursionError", "SyntaxError", "IndentationError",
  "TabError", "SystemError", "TypeError", "ValueError", "UnicodeError", "Warning",
  "DeprecationWarning", "PendingDeprecationWarning", "RuntimeWarning", "SyntaxWarning",
  "UserWarning", "FutureWarning", "ImportWarning", "UnicodeWarning", "BytesWarning",
  "ResourceWarning", "EncodingWarning"]

/-- The kind with a name; two older names stand for `OSError`. -/
def ofName? (s : String) : Option ErrorKind :=
  if s = "EnvironmentError" || s = "IOError" then some ⟨"OSError"⟩
  else if names.contains s then some ⟨s⟩
  else none

/-- Whether a run goes on after an error of this kind. -/
def recoverable (k : ErrorKind) : Bool :=
  !(["BaseException", "KeyboardInterrupt", "GeneratorExit"].contains k.name)

/-- The kinds that report a failure of the operating system. -/
def ofSystem (k : ErrorKind) : Bool :=
  ["OSError", "BlockingIOError", "ChildProcessError", "ConnectionError", "BrokenPipeError",
    "ConnectionAbortedError", "ConnectionRefusedError", "ConnectionResetError", "FileExistsError",
    "FileNotFoundError", "InterruptedError", "IsADirectoryError", "NotADirectoryError",
    "PermissionError", "ProcessLookupError", "TimeoutError"].contains k.name

/-- The special kind of a system failure with a number. -/
def ofErrorNumber (n : Int) : ErrorKind :=
  if n = 1 || n = 13 then ⟨"PermissionError"⟩
  else if n = 2 then ⟨"FileNotFoundError"⟩
  else if n = 3 then ⟨"ProcessLookupError"⟩
  else if n = 4 then ⟨"InterruptedError"⟩
  else if n = 10 then ⟨"ChildProcessError"⟩
  else if n = 11 || n = 114 || n = 115 then ⟨"BlockingIOError"⟩
  else if n = 17 then ⟨"FileExistsError"⟩
  else if n = 20 then ⟨"NotADirectoryError"⟩
  else if n = 21 then ⟨"IsADirectoryError"⟩
  else if n = 32 || n = 108 then ⟨"BrokenPipeError"⟩
  else if n = 103 then ⟨"ConnectionAbortedError"⟩
  else if n = 104 then ⟨"ConnectionResetError"⟩
  else if n = 110 then ⟨"TimeoutError"⟩
  else if n = 111 then ⟨"ConnectionRefusedError"⟩
  else ⟨"OSError"⟩

def attributeError : ErrorKind := ⟨"AttributeError"⟩
def indexError : ErrorKind := ⟨"IndexError"⟩
def keyError : ErrorKind := ⟨"KeyError"⟩
def memoryError : ErrorKind := ⟨"MemoryError"⟩
def moduleNotFoundError : ErrorKind := ⟨"ModuleNotFoundError"⟩
def nameError : ErrorKind := ⟨"NameError"⟩
def overflowError : ErrorKind := ⟨"OverflowError"⟩
def recursionError : ErrorKind := ⟨"RecursionError"⟩
def systemExit : ErrorKind := ⟨"SystemExit"⟩
def typeError : ErrorKind := ⟨"TypeError"⟩
def unboundLocalError : ErrorKind := ⟨"UnboundLocalError"⟩
def valueError : ErrorKind := ⟨"ValueError"⟩
def zeroDivisionError : ErrorKind := ⟨"ZeroDivisionError"⟩

end ErrorKind

end LiterateConfig.Script
