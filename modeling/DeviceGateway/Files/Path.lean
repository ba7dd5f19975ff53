import DeviceGateway.Text.Blank

/-
  Paths of files: parts between slashes.
-/

namespace DeviceGateway.Files

/-- The parts of a path between slashes, empty ones left out. -/
def parts (path : String) : List String :=
  ((Text.splitOn '/' path.toList).filter (!·.isEmpty)).map String.ofList

/-- The part after the last point of a name, unless the name starts with its only point. -/
def extension? (name : String) : Option String :=
  let cs := name.toList.reverse
  let ext := cs.takeWhile (· ≠ '.')
  match cs.dropWhile (· ≠ '.') with
  | [] => none
  | [_] => none
  | _ => if name = ".." then none else some (String.ofList ext.reverse)

/-- The last part of a path that names something: a point at the end names what is before it. -/
def fileName? (path : String) : Option String :=
  match ((parts path).filter (· ≠ ".")).getLast? with
  | some name => if name = ".." then none else some name
  | none => none

/-- The content type of a file by its name's extension, in either case of the letters. -/
def contentType (path : String) : String :=
  match (fileName? path).bind extension? with
  | none => "application/octet-stream"
  | some ext =>
    match String.ofList (Text.lowerAscii ext.toList) with
    | "html" | "htm" => "text/html; charset=utf-8"
    | "css" => "text/css"
    | "js" | "mjs" => "application/javascript"
    | "json" => "application/json"
    | "svg" => "image/svg+xml"
    | "png" => "image/png"
    | "jpg" | "jpeg" => "image/jpeg"
    | "gif" => "image/gif"
    | "ico" => "image/x-icon"
    | "txt" => "text/plain; charset=utf-8"
    | "wasm" => "application/wasm"
    | _ => "application/octet-stream"

end DeviceGateway.Files
