import DeviceGateway.Access.Level
import DeviceGateway.Channel.Envelope
import DeviceGateway.Text.Quoted

/-
  Commands by name. A handler sees the request and a world that it may change; it edits the
  response and may fail. Every request gets exactly one response with its `msgid`.
-/

namespace DeviceGateway.Channel

/-- Why a command fails. -/
inductive CommandError
  | invalidArguments
  | forbidden
  | notFound (name : String)
  | failed (reason : String)
  deriving DecidableEq, Repr

namespace CommandError

/-- The code that the response carries. -/
def code : CommandError → String
  | invalidArguments => "invalid arguments"
  | forbidden => "access denied"
  | notFound _ => "not found"
  | failed _ => "failed"

/-- The wording with its particulars. -/
def message : CommandError → String
  | invalidArguments => "invalid arguments"
  | forbidden => "access denied"
  | notFound name => "not found: " ++ name
  | failed reason => "failed: " ++ reason

end CommandError

/-- What a handler does to its response. -/
inductive Edit
  | insert (key : String) (value : Json)
  | fail (error : Json)
  deriving Repr

/-- The response with an edit made. -/
def Response.apply (r : Response) : Edit → Response
  | .insert key value => r.insert key value
  | .fail error => r.fail error

/-- What a handler looks at: who asks, what is asked, and on which session. -/
structure Call where
  owner : Principal
  request : Request
  session : Nat

/-- What a handler leaves: the world, the edits to its response in order, and its failure. -/
structure Outcome (σ : Type) where
  world : σ
  edits : List Edit := []
  failure : Option CommandError := none

/-- A handler over worlds `σ`. -/
abbrev Handler (σ : Type) := Call → σ → Outcome σ

/-- Handlers by name, names in ascending order. -/
structure CommandTable (σ : Type) where
  handlers : List (String × Handler σ) := []

namespace CommandTable

variable {σ : Type}

/-- Puts a handler in place of any other of its name. -/
def insertHandler (name : String) (h : Handler σ) :
    List (String × Handler σ) → List (String × Handler σ)
  | [] => [(name, h)]
  | (n, g) :: r =>
    if name < n then (name, h) :: (n, g) :: r
    else if name = n then (name, h) :: r
    else (n, g) :: insertHandler name h r

/-- The table with a handler registered. -/
def register (t : CommandTable σ) (name : String) (h : Handler σ) : CommandTable σ :=
  ⟨insertHandler name h t.handlers⟩

/-- The registered names in ascending order. -/
def names (t : CommandTable σ) : List String := t.handlers.map (·.1)

/-- Is there a handler of this name? -/
def contains (t : CommandTable σ) (name : String) : Bool := t.names.contains name

/-- The handler of a name. -/
def find? (t : CommandTable σ) (name : String) : Option (Handler σ) :=
  (t.handlers.find? (·.1 = name)).map (·.2)

/-- The response that a handler's outcome makes. -/
def respond (msgid : Nat) (edits : List Edit) (failure : Option CommandError) : Response :=
  let r := edits.foldl Response.apply { msgid }
  match failure with
  | none => r
  | some e => r.fail (.str e.code)

/-- Runs the handler of a request. A name without handler is an ordinary failure. -/
def dispatch (t : CommandTable σ) (call : Call) (world : σ) : σ × Response :=
  match t.find? call.request.command with
  | none => (world, respond call.request.msgid [] (some .invalidArguments))
  | some handler =>
    let o := handler call world
    (o.world, respond call.request.msgid o.edits o.failure)

/-- The table as it shows itself in a log. -/
def describe (t : CommandTable σ) : String :=
  "CommandTable \x7b commands: [" ++ ", ".intercalate (t.names.map Text.quoted) ++ "] \x7d"

/-- The diagnostics that every gateway answers. -/
def core : CommandTable σ :=
  CommandTable.mk []
    |>.register "ping" (fun _ w => { world := w, edits := [.insert "pong" (.bool true)] })
    |>.register "whoami" (fun call w =>
      { world := w
        edits := [.insert "name" (.str call.owner.name),
          .insert "level" (.str call.owner.level.name)] })

end CommandTable

end DeviceGateway.Channel
