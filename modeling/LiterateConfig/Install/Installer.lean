import LiterateConfig.Install.Session

/-!
# Installers

The operations that a run asks of an installer, and the installer that keeps a
state file. Reconciling adds the declared components to the set; loading runs
their setup, and when all of the first load are done, what waits for that is
called back. Whatever is registered later is called back at once.
-/
namespace LiterateConfig.Install

open LiterateConfig.Component (Spec)
open LiterateConfig.Script (Raised)

/-- What a run asks of an installer. -/
structure Installer where
  /-- Installs components and tells which are installed. -/
  reconcile : List Spec → Task Raised NameSet
  /-- Has something called back when the first load is complete. -/
  register : Callback → Task Raised Unit
  remove : String → Task Raised Unit

/-! ## The set of components -/

/-- Adds the components that are not managed by hand. -/
def addEach : List Spec → Task Raised Unit
  | [] => return ()
  | s :: rest => do
    match Removal.desiredName? s with
    | none => addEach rest
    | some key =>
      if !(← getThe Session).installer.installed.contains key then
        note .info logSource s!"Installing component {key}"
        modifyThe Session fun t => t.withInstaller fun i => { i with installed := i.installed.insert key }
      addEach rest

def reconcile (specs : List Spec) : Task Raised NameSet := do
  addEach specs
  persist
  return (← getThe Session).installer.installed

/-- Removes a component that is installed. -/
def remove (identifier : String) : Task Raised Unit := do
  if (← getThe Session).installer.installed.contains identifier then
    modifyThe Session fun t => t.withInstaller fun i => { i with installed := i.installed.erase identifier }
    persist
  else Script.fail .keyError s!"Component is not installed: {identifier}" |> onMachine |> liftM

/-! ## Loading and calling back -/

/-- Runs the setup of a component. -/
def loadOne (s : Spec) : Try Raised Unit := do
  note .debug logSource s!"Loading component {s.label}"
  let _ ← s.runSetup []

def loadEach : List Spec → Try Raised Unit
  | [] => return ()
  | s :: rest => do
    loadOne s
    loadEach rest

/-- Calls back. This happens only when the first load is complete, so what is
registered meanwhile is called back at once, and loading fires nothing. -/
def fire (remove : Removal.Remover Session) : Callback → Task Raised Unit
  | .call v => do
    let _ ← onMachine (Script.callTop v [])
  | .both first second => do
    fire remove first
    fire remove second
  | .register c => fire remove c
  | .load specs => do loadEach specs
  | .depending f => do fire remove (f (← getThe World))
  | .cleanup run specs installed => do
    if ((← getThe Session).cleanup? run).isSome then return ()
    else
      let outcomes ← Removal.cleanup remove specs installed
      modifyThe Session fun t => { t with cleanups := (run, outcomes) :: t.cleanups }

def fireEach (remove : Removal.Remover Session) : List Callback → Task Raised Unit
  | [] => return ()
  | c :: rest => do
    fire remove c
    fireEach remove rest

/-- Calls back when the first load is complete, or at once if it is. -/
def register (remove : Removal.Remover Session) (c : Callback) : Task Raised Unit := do
  if (← getThe Session).installer.loaded then fire remove c
  else modifyThe Session fun t => t.withInstaller fun i => { i with pending := i.pending ++ [c] }

/-- Ends a load: the first one calls back what waits for it. -/
def completeLoad (remove : Removal.Remover Session) : Task Raised Unit := do
  let i := (← getThe Session).installer
  if i.loaded then return ()
  else
    modifyThe Session fun t => t.withInstaller fun i => { i with loaded := true, pending := [] }
    fireEach remove i.pending

/-- Loads components; after the first load, calls back what waits for it. -/
def loadAll (remove : Removal.Remover Session) (specs : List Spec) : Task Raised Unit := do
  loadEach specs
  completeLoad remove

/-- The installer that keeps a state file. -/
def stateFile : Installer := ⟨reconcile, register remove, remove⟩

end LiterateConfig.Install
