import DeviceGateway.Files.Tree
import DeviceGateway.Settings.Document
import DeviceGateway.Text.Utf8

/-
  Settings in a file. A missing file means the defaults; a file that is there must be readable.
-/

namespace DeviceGateway.Settings

/-- Why settings are not loaded or saved. -/
inductive FileFault
  | access (path : String) (e : Files.FileError)
  | document (e : DocumentError)
  | unwritable
  deriving DecidableEq, Repr

/-- The settings at a path. -/
def load (files : Files.Tree) (path : String) : Except FileFault Settings :=
  match files.read path with
  | .error .notFound => .ok {}
  | .error e => .error (.access path e)
  | .ok body =>
    match Utf8.decode? body with
    | none => .error (.access path .invalidData)
    | some text =>
      match ofDocument text with
      | .ok s => .ok s
      | .error e => .error (.document e)

/-- The parts of a path that make a difference: empty ones and single points do not. -/
def pathParts (path : String) : List String := (Files.parts path).filter (· ≠ ".")

/-- Makes the directories on the way to a path. -/
def makeWay (files : Files.Tree) (path : String) : Files.Tree × Except Files.FileError Unit :=
  let parts := (pathParts path).dropLast
  if parts.any (·.toList.contains '\x00') then (files, .error .nulInName)
  else files.makeDirectories (parts.length + 1) parts

/-- Saves settings at a path, and what the files are then; the directories on the way are made. -/
def save (files : Files.Tree) (path : String) (s : Settings) :
    Files.Tree × Except FileFault Unit :=
  match makeWay files path with
  | (files, .error e) => (files, .error (.access path e))
  | (files, .ok ()) =>
    match s.document? with
    | none => (files, .error .unwritable)
    | some text =>
      match files.write path (utf8 text) with
      | .ok files => (files, .ok ())
      | .error e => (files, .error (.access path e))

end DeviceGateway.Settings
