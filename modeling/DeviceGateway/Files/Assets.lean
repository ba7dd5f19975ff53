import DeviceGateway.Files.Tree

/-
  Static files below a root. Only paths whose parts are plain names reach the file system.
-/

namespace DeviceGateway.Files

/-- A file that is served. -/
structure Asset where
  contentType : String
  body : Bytes
  deriving DecidableEq, Repr

/-- The path below the root that a request asks for: nothing asks for `index.html`. -/
def relative (path : String) : String :=
  let cs := path.toList.dropWhile (· = '/')
  if cs.isEmpty then "index.html" else String.ofList cs

/-- Are all parts plain names? A single point may stand anywhere but in front, two points
nowhere. -/
def isPlain (path : String) : Bool :=
  !path.toList.contains '\\' && !path.toList.contains '\x00' &&
    (Text.splitOn '/' path.toList).head? ≠ some ['.'] &&
    !(Text.splitOn '/' path.toList).contains ['.', '.']

/-- A path below a root. -/
def under (root rest : String) : String :=
  if root = "" || root.toList.getLast? = some '/' then root ++ rest else root ++ "/" ++ rest

/-- The path that a request for a static file leads to. -/
def resolve? (root : Option String) (path : String) : Option String :=
  match root with
  | none => none
  | some root => if isPlain (relative path) then some (under root (relative path)) else none

/-- The static file that a request finds. -/
def asset? (files : Tree) (root : Option String) (path : String) : Option Asset :=
  (resolve? root path).bind fun file =>
    match files.lookup file with
    | .ok (.file body) => some { contentType := contentType file, body }
    | _ => none

end DeviceGateway.Files
