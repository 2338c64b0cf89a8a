import ScriptBridge.Native.Callable

/-!
# Events

What the bridge reports about its own work. An event knows its level, the part of the bridge that it
comes from and its fields; which events are written is for the log filter to say, and the filter
knows an event by its callsite.
-/
namespace ScriptBridge

inductive Level where
  | error
  | warn
  | info
  | debug
  | trace
  deriving DecidableEq, Repr, Inhabited

namespace Level

def verbosity : Level → Nat
  | error => 1
  | warn => 2
  | info => 3
  | debug => 4
  | trace => 5

def name : Level → String
  | error => "ERROR"
  | warn => "WARN"
  | info => "INFO"
  | debug => "DEBUG"
  | trace => "TRACE"

end Level

inductive Event where
  | hostCreated (libraries : List String) (memoryLimit : Option Nat)
  | bound (function : String) (shape : Shape) (signature : Signature)
  /-- An entry point returned an error; `function` is the name it was bound under. -/
  | callFailed (function : String) (error : BridgeError)
  | typeRegistered (typeName identifier : String)
  | methodsAttached (identifier : String) (methods : Nat)
  | handleCreated (identifier : String)
  /-- An object was destroyed, `early` if not by the collector. -/
  | handleReleased (identifier : String) (early : Bool)
  | configRejected (path reason : String)
  | invalidDirective (directive : String)
  deriving DecidableEq, Repr

/-- What filters see of an event, of the bridge or of a program around it. -/
structure Callsite where
  target : String
  level : Level
  /-- The names of the fields. -/
  fields : List String
  deriving DecidableEq, Repr

inductive FieldValue where
  | text (s : String)
  | count (n : Nat)
  | flag (b : Bool)
  deriving DecidableEq, Repr

namespace Event

def level : Event → Level
  | handleCreated _ | handleReleased .. => .trace
  | configRejected .. | invalidDirective _ => .warn
  | _ => .debug

/-- The part of the bridge an event comes from, by which filters choose. -/
def target : Event → String
  | hostCreated .. => "laf::host"
  | configRejected .. => "laf::infrastructure::config"
  | _ => "laf::infrastructure::logging"

def fields : Event → List (String × FieldValue)
  | hostCreated libraries limit =>
    [("libraries", .text (Rendered.list (libraries.map quoted))),
      ("memory_limit", .text (Rendered.option (limit.map toString))),
      ("message", .text "Created script host")]
  | bound function shape signature =>
    [("event", .text "bind"), ("function", .text function), ("shape", .text shape.rendered),
      ("signature", .text signature.text), ("message", .text "Bound native callable")]
  | callFailed function error =>
    [("event", .text "call_error"), ("function", .text function),
      ("kind", .text error.cause.rendered), ("message", .text error.message)]
  | typeRegistered typeName identifier =>
    [("event", .text "type_registered"), ("type_name", .text typeName),
      ("identifier", .text identifier), ("message", .text "Registered type identity")]
  | methodsAttached identifier methods =>
    [("event", .text "methods_attached"), ("identifier", .text identifier),
      ("methods", .count methods), ("message", .text "Attached method table")]
  | handleCreated identifier =>
    [("event", .text "handle_created"), ("identifier", .text identifier)]
  | handleReleased identifier early =>
    [("event", .text "handle_released"), ("identifier", .text identifier), ("early", .flag early)]
  | configRejected path reason => [("path", .text path), ("message", .text reason)]
  | invalidDirective directive => [("message", .text ("Invalid filter directive: " ++ directive))]

def callsite (e : Event) : Callsite := ⟨e.target, e.level, e.fields.map Prod.fst⟩

/-- The type identifier an event is about. -/
def subject : Event → String
  | typeRegistered _ identifier => identifier
  | methodsAttached identifier _ => identifier
  | handleCreated identifier => identifier
  | handleReleased identifier _ => identifier
  | _ => ""

/-- Events in the order of the identifiers they are about. -/
def sorted (events : List Event) : List Event :=
  events.mergeSort fun a b => decide (a.subject ≤ b.subject)

end Event

end ScriptBridge
