import ChartScript.Files.Path
import ChartScript.Table

/-!
# Files

A tree of directories and files. A place in the tree is the list of names that lead to it from
the root. Files hold bytes; `Files.readText` takes only those that are a text. An operation that
fails changes nothing.
-/

set_option autoImplicit false

namespace ChartScript

inductive FileError where
  | notFound
  | isDirectory
  | notDirectory
  | notText
deriving Repr, DecidableEq

def FileError.message : FileError → String
  | notFound => "No such file or directory (os error 2)"
  | isDirectory => "Is a directory (os error 21)"
  | notDirectory => "Not a directory (os error 20)"
  | notText => "stream did not contain valid UTF-8"

inductive FileEntry where
  | directory
  | file (contents : ByteArray)

abbrev FilePlace := List String

structure Files where
  /-- Everything below the root. -/
  entries : Table FilePlace FileEntry

namespace Files

def empty : Files := ⟨[]⟩

def entry? (files : Files) (place : FilePlace) : Option FileEntry :=
  if place.isEmpty then some .directory else files.entries.get? place

/-- Follows names from a place. Every place on the way has to be a directory; the last one need
not exist. -/
def follow (files : Files) : FilePlace → List String → Except FileError FilePlace
  | place, [] => .ok place
  | place, name :: rest =>
    match files.entry? place with
    | none => .error .notFound
    | some (.file _) => .error .notDirectory
    | some .directory =>
      if name = "" || name = "." then files.follow place rest
      else if name = ".." then files.follow place.dropLast rest
      else files.follow (place ++ [name]) rest

def locate (files : Files) (path : String) : Except FileError FilePlace :=
  if path = "" then .error .notFound else files.follow [] (Path.components path)

def read (files : Files) (path : String) : Except FileError ByteArray := do
  let place ← files.locate path
  match files.entry? place with
  | none => .error .notFound
  | some .directory => .error .isDirectory
  | some (.file contents) => return contents

def textOf (contents : ByteArray) : Except FileError String :=
  match String.fromUTF8? contents with
  | some text => .ok text
  | none => .error .notText

def readText (files : Files) (path : String) : Except FileError String := do
  textOf (← files.read path)

def locateNew (files : Files) (path : String) : Except FileError FilePlace :=
  if path = "" then .error .notFound
  else
    match Path.beforeFinalSlash? path with
    | none => files.follow [] (Path.components path)
    | some components => do
      let _ ← files.follow [] components
      .error .isDirectory

def write (files : Files) (path : String) (contents : ByteArray) : Except FileError Files := do
  let place ← files.locateNew path
  match files.entry? place with
  | some .directory => .error .isDirectory
  | _ => return ⟨files.entries.set place (.file contents)⟩

def writeText (files : Files) (path text : String) : Except FileError Files :=
  files.write path text.toUTF8

/-- Follows names from a place and makes the directories that are missing. -/
def makeAlong (files : Files) : FilePlace → List String → Except FileError Files
  | _, [] => .ok files
  | place, name :: rest =>
    if name = "" || name = "." then files.makeAlong place rest
    else if name = ".." then files.makeAlong place.dropLast rest
    else
      let next := place ++ [name]
      match files.entry? next with
      | some .directory => files.makeAlong next rest
      | some (.file _) => .error .notDirectory
      | none => makeAlong ⟨files.entries.set next .directory⟩ next rest

def makeDirectory (files : Files) (path : String) : Except FileError Files :=
  files.makeAlong [] (Path.components path)

end Files

end ChartScript
