import LiterateConfig.Schedule.Basic

/-!
# Running entries at once

Entries run one after the other. One that cannot be compiled or fails is noted,
and the next runs all the same.
-/
namespace LiterateConfig.Schedule

open LiterateConfig.Script (Raised)

/-- What became of an entry. -/
inductive Outcome where
  /-- Not run: no action, or code that cannot be compiled. -/
  | skipped
  | failed
  | succeeded
  deriving DecidableEq, Repr

/-- What runs for an entry, if anything does. -/
def target (host : Script.Host) (e : Entry) : Try Raised (Option Action) := do
  match e.body with
  | .source text =>
    match Script.compile text with
    | .ok code => return some (.compiled ⟨code, none, host⟩)
    | .error err =>
      noteFailure logSource s!"Error compiling immediate config block #{e.index}"
        (err.message (codeLabel e.index)) (some text)
      return none
  | .callable v => return some (.call v)
  | .table v => return some (.call (← onMachine (setupPart v)))
  | .inert _ =>
    note .warning logSource
      (s!"Skipping immediate config block #{e.index} (unexpected " ++ e.body.kindName ++ " value)")
    return none

def executeOne (host : Script.Host) (e : Entry) : Try Raised Outcome := do
  match ← target host e with
  | none => return .skipped
  | some a =>
    note .debug logSource s!"Executing immediate config block #{e.index}"
    match ← attempt (a.run []) with
    | .ok _ => return .succeeded
    | .error err =>
      noteRaised logSource s!"Error executing immediate config block #{e.index}" err e.text?
      return .failed

/-- Runs entries in order. -/
def execute (host : Script.Host) : List Entry → Try Raised (List Outcome)
  | [] => return []
  | e :: rest => do
    let o ← executeOne host e
    return o :: (← execute host rest)

/-- The number of entries that ran well. -/
def successes (os : List Outcome) : Nat := os.count .succeeded

end LiterateConfig.Schedule
