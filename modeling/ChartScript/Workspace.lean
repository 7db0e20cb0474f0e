import ChartScript.Engine
import ChartScript.Files

/-!
# Workspaces

A workspace is a list of documents, the scripts that are run together on the same candles. A
document has an engine of its own and keeps the values of its inputs between runs; it can be
loaded from a file and saved to one.
-/

set_option autoImplicit false

namespace ChartScript

structure Document where
  name : String
  source : String
  enabled : Bool
  inputs : Table String Float
  path : Option String
  engine : Engine
  lastChart : Option Chart

namespace Document

def new (name source : String) : Document :=
  ⟨name, source, true, [], none, .new, none⟩

def disabledText : String := "Disabled"

/-- Puts the defaults of declared inputs where no value is. -/
def keepDefaults (inputs : Table String Float) (declared : List Input) : Table String Float :=
  declared.foldl (fun inputs input => inputs.setNew input.name input.default) inputs

def run (document : Document) (window : List Candle) : Chart × Document :=
  if document.enabled then
    let (chart, engine) := document.engine.run document.source window document.inputs
    let inputs := keepDefaults document.inputs chart.inputs
    (chart, { document with engine := engine, inputs := inputs, lastChart := some chart })
  else
    let chart := Chart.failed document.name disabledText
    (chart, { document with lastChart := some chart })

end Document

inductive WorkspaceError where
  | noSuchDocument (index count : Nat)
  | noPath (name : String)
  | inaccessible (path : String) (cause : FileError)
deriving Repr, DecidableEq

def WorkspaceError.message : WorkspaceError → String
  | noSuchDocument index count =>
    "No script at index " ++ toString index ++ " (there are " ++ toString count ++ ")"
  | noPath name => "Script '" ++ name ++ "' has no file to save to"
  | inaccessible path cause => "Failed to access '" ++ path ++ "': " ++ cause.message

structure Workspace where
  documents : List Document

namespace Workspace

def empty : Workspace := ⟨[]⟩

def size (workspace : Workspace) : Nat :=
  workspace.documents.length

def isEmpty (workspace : Workspace) : Bool :=
  workspace.documents.isEmpty

def get? (workspace : Workspace) (index : Nat) : Option Document :=
  workspace.documents[index]?

def get (workspace : Workspace) (index : Nat) : Except WorkspaceError Document :=
  match workspace.get? index with
  | some document => .ok document
  | none => .error (.noSuchDocument index workspace.size)

def append (workspace : Workspace) (document : Document) : Nat × Workspace :=
  (workspace.size, ⟨workspace.documents ++ [document]⟩)

def add (workspace : Workspace) (name source : String) : Nat × Workspace :=
  workspace.append (.new name source)

/-- Takes a document out; those after it move up. -/
def remove (workspace : Workspace) (index : Nat) :
    Except WorkspaceError (Document × Workspace) := do
  let document ← workspace.get index
  return (document, ⟨workspace.documents.eraseIdx index⟩)

def modify (workspace : Workspace) (index : Nat) (change : Document → Document) :
    Except WorkspaceError (Document × Workspace) := do
  let document := change (← workspace.get index)
  return (document, ⟨workspace.documents.set index document⟩)

def setEnabled (workspace : Workspace) (index : Nat) (enabled : Bool) :
    Except WorkspaceError (Document × Workspace) :=
  workspace.modify index fun document => { document with enabled := enabled }

def toggle (workspace : Workspace) (index : Nat) : Except WorkspaceError (Document × Workspace) :=
  workspace.modify index fun document => { document with enabled := !document.enabled }

def updateSource (workspace : Workspace) (index : Nat) (source : String) :
    Except WorkspaceError (Document × Workspace) :=
  workspace.modify index fun document => { document with source := source }

def setInput (workspace : Workspace) (index : Nat) (name : String) (value : Float) :
    Except WorkspaceError (Document × Workspace) :=
  workspace.modify index fun document =>
    { document with inputs := document.inputs.set name value }

/-- Runs all documents over candles, the newest first, with one chart for each. -/
def runAll (workspace : Workspace) (window : List Candle) : List Chart × Workspace :=
  let results := workspace.documents.map (·.run window)
  (results.map (·.1), ⟨results.map (·.2)⟩)

/-! ## Files -/

/-- Adds the script of a file, under the name of the file. `readText` gives the text of a path. -/
def load (workspace : Workspace) (readText : String → Except FileError String) (path : String) :
    Except WorkspaceError (Nat × Workspace) :=
  match readText path with
  | .error cause => .error (.inaccessible path cause)
  | .ok source =>
    .ok (workspace.append { Document.new (Path.stem path) source with path := some path })

def writeSource (files : Files) (path source : String) : Except WorkspaceError Files :=
  match files.writeText path source with
  | .error cause => .error (.inaccessible path cause)
  | .ok written => .ok written

def save (workspace : Workspace) (files : Files) (index : Nat) : Except WorkspaceError Files := do
  let document ← workspace.get index
  match document.path with
  | none => .error (.noPath document.name)
  | some path => writeSource files path document.source

/-- Writes a document to a file, which it is saved to from then on. -/
def saveAs (workspace : Workspace) (files : Files) (index : Nat) (path : String) :
    Except WorkspaceError (Workspace × Files) := do
  let document ← workspace.get index
  let written ← writeSource files path document.source
  return (⟨workspace.documents.set index { document with path := some path }⟩, written)

end Workspace

end ChartScript
