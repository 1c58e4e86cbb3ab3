/-!
# The log

A record says what happened, how grave it is, and which part of the program
says so. Records below the threshold are not written.
-/
namespace LiterateConfig.Log

inductive Level where
  | debug
  | info
  | warning
  | error
  deriving DecidableEq, Repr

def Level.rank : Level → Nat
  | .debug => 0
  | .info => 1
  | .warning => 2
  | .error => 3

def Level.name : Level → String
  | .debug => "DEBUG"
  | .info => "INFO"
  | .warning => "WARNING"
  | .error => "ERROR"

/-- A part of the program, by the name it has in the log. -/
abbrev Source := String

structure Record where
  level : Level
  source : Source
  message : String
  /-- Whether the trace of an error belongs to the record. -/
  traced : Bool
  deriving DecidableEq, Repr

/-- The name at the head of all sources. -/
def toolName : String := "mdconf"

/-- The full name of a source; the tool itself has no further name. -/
def Record.sourceName (r : Record) : String :=
  if r.source.isEmpty then toolName else toolName ++ "." ++ r.source

/-- What takes the place of a trace. -/
def traceMark : String := "<traceback>"

/-- The record as lines on the console. -/
def Record.consoleText (r : Record) : String :=
  "[" ++ toolName ++ "] " ++ r.level.name ++ " " ++ r.message ++ "\n" ++
    if r.traced then traceMark ++ "\n" else ""

/-- The record as lines of a log file. -/
def Record.fileText (r : Record) : String :=
  r.level.name ++ " " ++ r.sourceName ++ ": " ++ r.message ++ "\n" ++
    if r.traced then traceMark ++ "\n" else ""

end LiterateConfig.Log
