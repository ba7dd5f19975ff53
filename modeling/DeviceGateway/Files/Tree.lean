import DeviceGateway.Bytes
import DeviceGateway.Files.Path

/-
  A tree of files: looking up a path, making directories, and writing a file. A path that goes on
  behind a file, or ends in a slash behind one, finds nothing.
-/

namespace DeviceGateway.Files

/-- A file with its octets, or a directory. -/
inductive Entry
  | file (body : Bytes)
  | directory
  deriving DecidableEq, Repr

/-- The entries by their parts; directories that only lead to an entry need not be listed. -/
structure Tree where
  entries : List (List String × Entry) := []
  deriving DecidableEq, Repr

/-- Why something cannot be done in a tree. -/
inductive FileError
  | notFound
  | notDirectory
  | isDirectory
  | alreadyExists
  | nameTooLong
  | nulInName
  | invalidData
  deriving DecidableEq, Repr

/-- What the system says of an error. -/
def FileError.message : FileError → String
  | .notFound => "No such file or directory (os error 2)"
  | .notDirectory => "Not a directory (os error 20)"
  | .isDirectory => "Is a directory (os error 21)"
  | .alreadyExists => "File exists (os error 17)"
  | .nameTooLong => "File name too long (os error 36)"
  | .nulInName => "file name contained an unexpected NUL byte"
  | .invalidData => "stream did not contain valid UTF-8"

/-- How many octets a path may have, the one that ends it counted in. -/
def maxPathLength : Nat := 4096

/-- How many octets a part of a path may have. -/
def maxPartLength : Nat := 255

/-- Is the path one to look for at all? -/
def checkPath (path : String) : Except FileError Unit :=
  if path.toList.contains '\x00' then .error .nulInName
  else if path = "" then .error .notFound
  else if maxPathLength ≤ utf8Size path then .error .nameTooLong
  else .ok ()

namespace Tree

/-- The entry at parts: listed, or a directory on the way to a listed one. -/
def at? (t : Tree) (path : List String) : Option Entry :=
  match t.entries.find? (·.1 = path) with
  | some (_, e) => some e
  | none =>
    if path.isEmpty || t.entries.any (fun e => path.isPrefixOf e.1) then some .directory else none

/-- The tree with an entry put at parts. -/
def put (t : Tree) (path : List String) (entry : Entry) : Tree :=
  ⟨(path, entry) :: t.entries.filter (·.1 ≠ path)⟩

/-- Follows parts from a place, where `.` stays and `..` goes up. -/
def walk (t : Tree) (place : List String) : List String → Except FileError (List String)
  | [] => .ok place
  | part :: rest =>
    match t.at? place with
    | some .directory =>
      if part = "." || part = "" then walk t place rest
      else if part = ".." then walk t place.dropLast rest
      else if maxPartLength < utf8Size part then .error .nameTooLong
      else
        match t.at? (place ++ [part]) with
        | some _ => walk t (place ++ [part]) rest
        | none => .error .notFound
    | some (.file _) => .error .notDirectory
    | none => .error .notFound

/-- What a path finds; a slash at its end asks for a directory. -/
def lookup (t : Tree) (path : String) : Except FileError Entry := do
  checkPath path
  let place ← t.walk [] ((Text.splitOn '/' path.toList).map String.ofList)
  match t.at? place with
  | some e => return e
  | none => throw .notFound

/-- The octets of the file that a path finds. -/
def read (t : Tree) (path : String) : Except FileError Bytes :=
  match t.lookup path with
  | .ok (.file body) => .ok body
  | .ok .directory => .error .isDirectory
  | .error e => .error e

/-- Is there a directory at parts? -/
def hasDirectory (t : Tree) (parts : List String) : Bool :=
  match t.walk [] parts with
  | .ok place => t.at? place = some .directory
  | .error _ => false

/-- Makes one directory. -/
def makeDirectory (t : Tree) (parts : List String) : Except FileError Tree :=
  match parts.getLast? with
  | none => .error .alreadyExists
  | some name => do
    let parent ← t.walk [] parts.dropLast
    match t.at? parent with
    | some .directory =>
      if name = ".." then .error .alreadyExists
      else if maxPartLength < utf8Size name then .error .nameTooLong
      else if (t.at? (parent ++ [name])).isSome then .error .alreadyExists
      else return t.put (parent ++ [name]) .directory
    | _ => .error .notDirectory

/-- Makes a directory unless it is there. -/
def ensureDirectory (t : Tree) (parts : List String) : Tree × Except FileError Unit :=
  match t.makeDirectory parts with
  | .ok t' => (t', .ok ())
  | .error e => (t, if t.hasDirectory parts then .ok () else .error e)

/-- Makes a directory and those on the way to it; it is enough that they are there. Those that were
made stay when a later one cannot be. -/
def makeDirectories (t : Tree) : (fuel : Nat) → List String → Tree × Except FileError Unit
  | 0, _ => (t, .ok ())
  | n + 1, parts =>
    if parts.isEmpty then (t, .ok ())
    else
      match t.makeDirectory parts with
      | .error .notFound =>
        match t.makeDirectories n parts.dropLast with
        | (t', .ok ()) => t'.ensureDirectory parts
        | (t', .error e) => (t', .error e)
      | _ => t.ensureDirectory parts

/-- Writes a file in place of any file there. A path that ends in a slash or in points asks for a
directory. -/
def write (t : Tree) (path : String) (body : Bytes) : Except FileError Tree := do
  checkPath path
  match (parts path).getLast? with
  | none => throw .isDirectory
  | some name =>
    let parent ← t.walk [] (parts path).dropLast
    match t.at? parent with
    | some .directory =>
      if name = "." || name = ".." || path.toList.getLast? = some '/' then throw .isDirectory
      else if maxPartLength < utf8Size name then throw .nameTooLong
      else if t.at? (parent ++ [name]) = some .directory then throw .isDirectory
      else return t.put (parent ++ [name]) (.file body)
    | _ => throw .notDirectory

end Tree

end DeviceGateway.Files
