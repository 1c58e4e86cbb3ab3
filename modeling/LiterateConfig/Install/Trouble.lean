import LiterateConfig.Install.Installer

/-!
# Installers in trouble

Installers that fail in known ways: some operation always fails, or removals
fail at first. A run has to cope with all of them.
-/
namespace LiterateConfig.Install

open LiterateConfig.Script (Raised)

inductive Trouble where
  /-- Nothing can be installed. -/
  | reconcile
  /-- Nothing can be registered. -/
  | callback
  /-- Everything registered is registered twice. -/
  | double
  /-- Nothing can be removed. -/
  | remove
  /-- The first removal of each component fails. -/
  | flaky
  deriving DecidableEq, Repr

namespace Trouble

def runtimeError (message : String) : Raised := ⟨⟨"RuntimeError"⟩, [.text message]⟩

def systemError (message : String) : Raised := ⟨⟨"OSError"⟩, [.text message]⟩

/-- How components are removed in the face of troubles. -/
def removing (ts : List Trouble) (identifier : String) : Task Raised Unit := do
  let before := (← getThe Session).asked
  modifyThe Session fun t => { t with asked := identifier :: before }
  if ts.contains .remove then throw (systemError s!"cannot delete {identifier}")
  else if ts.contains .flaky && !before.contains identifier then
    throw (systemError s!"{identifier} is busy")
  else Install.remove identifier

/-- The installer with a state file, with troubles. -/
def installer (ts : List Trouble) : Installer where
  reconcile specs := do
    if ts.contains .reconcile then throw (runtimeError "reconcile unavailable")
    else Install.reconcile specs
  register c := do
    if ts.contains .callback then throw (runtimeError "callbacks unavailable")
    else
      register (removing ts) c
      if ts.contains .double then register (removing ts) c
  remove := removing ts

end Trouble

end LiterateConfig.Install
