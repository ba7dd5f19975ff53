import DeviceGateway.Toml.Number
import DeviceGateway.Toml.Value

/-
  Reading values and whole documents of TOML 1.0. A table is defined once: by a header, by
  dotted keys, or in braces.
-/

namespace DeviceGateway.Toml

/-- What one value leaves of the text it was read from. -/
def consumed (before after : List Char) : String :=
  String.ofList (before.take (before.length - after.length))

/-! ## Tables under construction -/

/-- What a key of a document holds. A table is implicit when only its parts were named, and
dotted when they were named by dotted keys; rows of a table array come latest first. -/
inductive Node
  | value (v : Value)
  | table (isImplicit isDotted : Bool) (entries : List (String × Node))
  | rows (tables : List (List (String × Node)))
  deriving Inhabited

/-- The entries of a table under construction. -/
abbrev Nodes := List (String × Node)

/-- The entries with the node of a key replaced, or added at the end. -/
def put (key : String) (node : Node) : Nodes → Nodes
  | [] => [(key, node)]
  | (k, n) :: r => if k = key then (k, node) :: r else (k, n) :: put key node r

/-- Changes the table at a path below a table, making the tables on the way; `f` learns whether
the table at the path is a dotted one. Through a table array the path leads into its last row. -/
def descend (dotted : Bool) (f : Bool → Nodes → Option Nodes) (isDotted : Bool) :
    (path : List String) → Nodes → Option Nodes
  | [], nodes => f isDotted nodes
  | key :: path, nodes =>
    match nodes.lookup key with
    | none =>
      (descend dotted f dotted path []).map fun sub => nodes ++ [(key, .table true dotted sub)]
    | some (.value _) => none
    | some (.rows []) => none
    | some (.rows (last :: earlier)) =>
      (descend dotted f false path last).map fun row => put key (.rows (row :: earlier)) nodes
    | some (.table isImplicit d sub) =>
      if dotted && !isImplicit then none
      else (descend dotted f d path sub).map fun sub' => put key (.table isImplicit d sub') nodes

/-- Adds a key and its value to a table; the last part of the key must be new, and dotted keys
may not add to a table that was defined otherwise. -/
def addEntry (key : List String) (node : Node) (nodes : Nodes) : Option Nodes :=
  match key.getLast? with
  | none => none
  | some last =>
    let path := key.dropLast
    descend true
      (fun isDotted sub =>
        if isDotted == path.isEmpty || (sub.lookup last).isSome then none
        else some (sub ++ [(last, node)]))
      false path nodes

mutual

/-- The value that a finished node is. -/
def Node.finish : Node → Value
  | .value v => v
  | .table _ _ entries => .table (finishNodes entries)
  | .rows tables => .array (finishRows tables [])

/-- The entries of a finished table. -/
def finishNodes : List (String × Node) → Entries
  | [] => []
  | (k, n) :: r => (k, n.finish) :: finishNodes r

/-- The rows of a finished table array, earliest first. -/
def finishRows : List (List (String × Node)) → List Value → List Value
  | [], done => done
  | t :: ts, done => finishRows ts (.table (finishNodes t) :: done)

end

/-! ## Values -/

/-- The items of an array after its bracket; `done` holds the items so far, latest first. -/
def items? (item : List Char → Reads Value) (fuel : Nat) (done : List Value) (cs : List Char) :
    Reads Value :=
  match fuel with
  | 0 => none
  | n + 1 =>
    match skipLines fuel cs with
    | none => none
    | some (']' :: r) => some (.array done.reverse, r)
    | some r =>
      match item r with
      | none => none
      | some (v, s) =>
        match skipLines fuel s with
        | some (',' :: t) => items? item n (v :: done) t
        | some (']' :: t) => some (.array (v :: done).reverse, t)
        | _ => none

/-- The entries of a table in braces, from a key on. -/
def pairs? (item : List Char → Reads Value) (lineFuel : Nat) (fuel : Nat) (done : Nodes)
    (cs : List Char) : Reads Value :=
  match fuel with
  | 0 => none
  | n + 1 =>
    match key? lineFuel cs with
    | some (key, '=' :: r) =>
      match item (skipBlanks r) with
      | none => none
      | some (v, s) =>
        match addEntry key (.value v) done, skipBlanks s with
        | some done', ',' :: t => pairs? item lineFuel n done' t
        | some done', '\x7d' :: t => some (.table (finishNodes done'), t)
        | _, _ => none
    | _ => none

/-- A number, a date or a time. -/
def number? (cs : List Char) : Reads Value :=
  match moment cs with
  | .read r => some (.moment (consumed cs r), r)
  | .broken => none
  | .absent =>
    match float cs with
    | .read x r => some (.float x, r)
    | .broken => none
    | .absent => (integer? cs).map fun (n, r) => (.integer n, r)

/-- A value that holds no others. -/
def plain? (fuel : Nat) (cs : List Char) : Reads Value :=
  match cs with
  | 't' :: 'r' :: 'u' :: 'e' :: r => some (.boolean true, r)
  | 'f' :: 'a' :: 'l' :: 's' :: 'e' :: r => some (.boolean false, r)
  | '"' :: _ => (string? fuel cs).map fun (s, r) => (.string s, r)
  | '\'' :: _ => (string? fuel cs).map fun (s, r) => (.string s, r)
  | _ => number? cs

/-- A value with at most `depth` brackets in one another. -/
def value? (fuel : Nat) : (depth : Nat) → List Char → Reads Value
  | 0, cs => if cs.head? = some '[' || cs.head? = some '\x7b' then none else plain? fuel cs
  | d + 1, cs =>
    match cs with
    | '[' :: r => items? (value? fuel d) fuel [] r
    | '\x7b' :: r =>
      match skipBlanks r with
      | '\x7d' :: s => some (.table [], s)
      | s => pairs? (value? fuel d) fuel fuel [] s
    | _ => plain? fuel cs

/-! ## Documents -/

/-- A document under construction: what is finished, and the table that lines add to. -/
structure Document where
  root : Nodes := []
  path : List String := []
  isRow : Bool := false
  current : Nodes := []

/-- Puts the current table in its place. -/
def Document.close (d : Document) : Option Nodes :=
  match d.path.getLast? with
  | none => some d.current
  | some last =>
    descend false
      (fun _ nodes =>
        if d.isRow then
          match nodes.lookup last with
          | none => some (nodes ++ [(last, .rows [d.current])])
          | some (.rows rows) => some (put last (.rows (d.current :: rows)) nodes)
          | some _ => none
        else if (nodes.lookup last).isSome then none
        else some (nodes ++ [(last, .table false false d.current)]))
      false d.path.dropLast d.root

/-- The node at a path, following the last rows of table arrays. -/
def nodeAt? : List String → Nodes → Option Node
  | [], _ => none
  | [key], nodes => nodes.lookup key
  | key :: path, nodes =>
    match nodes.lookup key with
    | some (.table _ _ sub) => nodeAt? path sub
    | some (.rows (last :: _)) => nodeAt? path last
    | _ => none

/-- Begins a table with a header: a table that so far was only named on the way to others is
taken up with what it holds. -/
def Document.header (d : Document) (path : List String) : Option Document := do
  let root ← d.close
  match nodeAt? path root with
  | none =>
    -- The tables on the way are made when the table is closed; here they must only be possible.
    let _ ← descend false (fun _ nodes => some nodes) false path.dropLast root
    return { root, path, current := [] }
  | some (.table true false sub) =>
    let last ← path.getLast?
    let root ← descend false (fun _ nodes => some (nodes.filter (·.1 ≠ last))) false
      path.dropLast root
    return { root, path, current := sub }
  | some _ => none

/-- Begins a row of a table array. -/
def Document.row (d : Document) (path : List String) : Option Document := do
  let root ← d.close
  match nodeAt? path root with
  | none =>
    let _ ← descend false (fun _ nodes => some nodes) false path.dropLast root
    return { root, path, isRow := true, current := [] }
  | some (.rows _) => return { root, path, isRow := true, current := [] }
  | some _ => none

/-- One line with something on it: a header or a key with its value. -/
def Document.line? (fuel : Nat) (d : Document) (cs : List Char) :
    Option (Document × List Char) :=
  match cs with
  | '[' :: '[' :: r => do
    match ← key? fuel r with
    | (path, ']' :: ']' :: s) => return (← d.row path, ← lineEnd? s)
    | _ => none
  | '[' :: r => do
    match ← key? fuel r with
    | (path, ']' :: s) => return (← d.header path, ← lineEnd? s)
    | _ => none
  | _ => do
    match ← key? fuel cs with
    | (key, '=' :: r) =>
      let (v, s) ← value? fuel maxNesting (skipBlanks r)
      let s ← lineEnd? s
      let current ← addEntry key (.value v) d.current
      return ({ d with current }, s)
    | _ => none

/-- The lines of a document. -/
def lines? (lineFuel : Nat) (fuel : Nat) (d : Document) (cs : List Char) : Option Document :=
  match fuel with
  | 0 => none
  | n + 1 =>
    match skipBlanks cs with
    | [] => some d
    | '#' :: r => (lineEnd? ('#' :: r)).bind (lines? lineFuel n d)
    | r =>
      match newline? r with
      | some s => lines? lineFuel n d s
      | none =>
        match d.line? lineFuel r with
        | some (d', s) => lines? lineFuel n d' s
        | none => none

/-- The table that a whole text writes; a byte order mark may stand in front. -/
def parse? (text : String) : Option Entries :=
  let cs := match text.toList with
    | '\uFEFF' :: r => r
    | cs => cs
  let fuel := cs.length + 1
  (lines? fuel fuel {} cs).bind fun d => d.close.map finishNodes

end DeviceGateway.Toml
