import LiterateConfig.CommandLine.Word

/-!
# Requests

A command line names a command, behind options for all commands, and in front of
the command's own options and the directory it is about. Options and the
directory may come in any order. Words that fit nowhere are only refused when
all others have been read, so that help can be asked for behind them.

Results:
* `read_nil`: a command has to be named.
-/
namespace LiterateConfig.CommandLine

inductive Command where
  | apply
  | blocks
  | status
  deriving DecidableEq, Repr

namespace Command

def name : Command → String
  | .apply => "apply"
  | .blocks => "blocks"
  | .status => "status"

def ofName? (s : String) : Option Command := [.apply, .blocks, .status].find? fun c => c.name == s

/-- The options of a command. -/
def flags : Command → List Flag
  | .apply => [.help, .verbose, .document]
  | .blocks | .status => [.help, .verbose]

end Command

structure Request where
  command : Command
  verbose : Bool
  /-- The directory of the documents. -/
  path : String
  /-- The only document to scan, if one is named. -/
  document : Option String
  deriving DecidableEq, Repr

/-- The options in front of the command. -/
def commonFlags : List Flag := [.help, .verbose]

/-- The path that is meant where none is given. -/
def usualPath : String := "."

/-- What has been read so far. -/
structure Progress where
  verbose : Bool
  /-- Whether a word fits nowhere. -/
  stray : Bool
  path : Option String
  document : Option String

namespace Progress

def start : Progress := ⟨false, false, none, none⟩

/-- Takes an option without a value. -/
def takeFlag (p : Progress) : Flag → Except Refusal Progress
  | .help => .error .help
  | .verbose => .ok { p with verbose := true }
  | .document => .error .misuse

/-- Takes the options of one word. -/
def takeFlags (p : Progress) : List Flag → Except Refusal Progress
  | [] => .ok p
  | f :: rest => do (← p.takeFlag f).takeFlags rest

/-- Takes short options in one word. -/
def takeLetters (flags : List Flag) (p : Progress) (f : Flag) (behind : List Char) :
    Except Refusal Progress := do
  let (fs, stray) ← letters flags f behind
  ({ p with stray := p.stray || stray }).takeFlags fs

/-- Takes an option by its long name, without a value. -/
def takeLong (p : Progress) (f : Flag) (value : Option (List Char)) : Except Refusal Progress :=
  if value.isSome then .error .misuse else p.takeFlag f

/-- Reads the words behind a command. The first plain word is the path, and so
is the first behind the divider. -/
def readRest (flags : List Flag) (p : Progress) : List Word → Except Refusal Progress
  | [] => .ok p
  | .long f value :: rest =>
    if f.takesValue then
      match value, rest with
      | some v, rest => readRest flags { p with document := some (String.ofList v) } rest
      | none, .plain s :: rest => readRest flags { p with document := some s } rest
      | none, _ => .error .misuse
    else do readRest flags (← p.takeLong f value) rest
  | .short f behind :: rest => do readRest flags (← p.takeLetters flags f behind) rest
  | .unknown :: rest => readRest flags { p with stray := true } rest
  | .plain s :: rest =>
    if p.path.isSome then readRest flags { p with stray := true } rest
    else
      match rest with
      | .divider :: rest => readRest flags { p with path := some s } rest
      | rest => readRest flags { p with path := some s } rest
  | .divider :: rest =>
    if p.path.isSome then readRest flags { p with stray := true } rest
    else
      match rest with
      | .plain s :: rest => readRest flags { p with path := some s } rest
      | rest => readRest flags { p with path := some usualPath } rest

/-- The request of a command, unless a word fits nowhere. -/
def finish (c : Command) (p : Progress) : Except Refusal Request :=
  if p.stray then .error .misuse else .ok ⟨c, p.verbose, p.path.getD usualPath, p.document⟩

end Progress

/-- Reads the words up to the command; `texts` are the texts of `ws`. -/
def readFrom (p : Progress) : List Word → List String → Except Refusal Request
  | .long f value :: ws, _ :: texts => do readFrom (← p.takeLong f value) ws texts
  | .short f behind :: ws, _ :: texts => do readFrom (← p.takeLetters commonFlags f behind) ws texts
  | .unknown :: ws, _ :: texts => readFrom { p with stray := true } ws texts
  | .plain s :: _, _ :: texts =>
    match Command.ofName? s with
    | none => .error .misuse
    | some c => do
      let rest ← words c.flags texts
      (← p.readRest c.flags rest).finish c
  | _, _ => .error .misuse

/-- Reads a command line. -/
def read (texts : List String) : Except Refusal Request := do
  readFrom .start (← words commonFlags texts) texts

/-- What is said to those who ask for help, or need it. -/
def usage : String :=
  "usage: mdconf [-h] [-v] apply [-h] [-v] [--document NAME] [path]\n" ++
  "       mdconf [-h] [-v] blocks [-h] [-v] [path]\n" ++
  "       mdconf [-h] [-v] status [-h] [-v] [path]"

theorem read_nil : read [] = .error .misuse := rfl

end LiterateConfig.CommandLine
