import ScriptBridge.Config
import ScriptBridge.Signature

/-!
# Bridge errors

Why wiring or calling native code failed. A cause belongs to one of two phases; an error adds the
name of the callable, which once set is kept, and hints. The wording of all of it is in this module.
-/
namespace ScriptBridge

inductive Cause where
  | unregisteredType (typeName : String)
  | duplicateType (typeName existing requested : String)
  | identifierTaken (identifier owner : String)
  | duplicateMethodName (table method : String)
  | foreignMember (table method owner : String)
  | signatureMismatch (expected found : String)
  | typeMismatch (index : Nat) (expected : Kind) (found : String)
  | receiverType (expected found : String)
  | arity (expected found : Nat)
  | outOfRange (value : String)
  | reclaimedHandle (identifier : String)
  | native (message : String)
  | runtime (message : String)
  deriving DecidableEq, Repr

namespace Cause

/-- Arises while callables, types and tables are wired together; the other causes arise in calls. -/
def isRegistration : Cause → Bool
  | unregisteredType _ | duplicateType .. | identifierTaken .. | duplicateMethodName ..
  | foreignMember .. | signatureMismatch .. => true
  | _ => false

def isCall (c : Cause) : Bool := !c.isRegistration

def text : Cause → String
  | unregisteredType t => s!"type {t} has no registered script identifier"
  | duplicateType t existing requested =>
    s!"type {t} is already registered as '{existing}', cannot register it as '{requested}'"
  | identifierTaken i owner => s!"identifier '{i}' is already used by type {owner}"
  | duplicateMethodName table method =>
    s!"method '{method}' is defined twice in the method table of {table}"
  | foreignMember table method owner =>
    s!"method '{method}' in the method table of {table} is a member of {owner}"
  | signatureMismatch expected found =>
    s!"signature mismatch: requested {expected}, bound {found}"
  | typeMismatch index expected found =>
    s!"bad argument #{index} ({expected.scriptName} expected, got {found})"
  | receiverType expected found => s!"bad receiver ({expected} expected, got {found})"
  | arity expected found => s!"wrong number of arguments: expected {expected}, got {found}"
  | outOfRange value => s!"integer {value} does not fit the runtime's 64-bit integers"
  | reclaimedHandle i => s!"{i} handle used after its object was released"
  | native message => message
  | runtime message => message

def textIn (name : String) : Cause → String
  | typeMismatch index expected found =>
    s!"bad argument #{index} to '{name}' ({expected.scriptName} expected, got {found})"
  | receiverType expected found =>
    s!"calling '{name}' on bad self ({expected} expected, got {found})"
  | c => s!"{name}: {c.text}"

def rendered : Cause → String
  | unregisteredType t => Rendered.record "UnregisteredType" [("type_name", quoted t)]
  | duplicateType t existing requested =>
    Rendered.record "DuplicateType"
      [("type_name", quoted t), ("existing", quoted existing), ("requested", quoted requested)]
  | identifierTaken i owner =>
    Rendered.record "IdentifierTaken" [("identifier", quoted i), ("owner", quoted owner)]
  | duplicateMethodName table method =>
    Rendered.record "DuplicateMethodName" [("table", quoted table), ("method", quoted method)]
  | foreignMember table method owner =>
    Rendered.record "ForeignMember"
      [("table", quoted table), ("method", quoted method), ("owner", quoted owner)]
  | signatureMismatch expected found =>
    Rendered.record "SignatureMismatch" [("expected", quoted expected), ("found", quoted found)]
  | typeMismatch index expected found =>
    Rendered.record "TypeMismatch"
      [("index", toString index), ("expected", expected.rendered), ("found", quoted found)]
  | receiverType expected found =>
    Rendered.record "ReceiverType" [("expected", quoted expected), ("found", quoted found)]
  | arity expected found =>
    Rendered.record "Arity" [("expected", toString expected), ("found", toString found)]
  | outOfRange value => Rendered.record "OutOfRange" [("value", quoted value)]
  | reclaimedHandle i => Rendered.record "ReclaimedHandle" [("identifier", quoted i)]
  | native message => Rendered.record "Native" [("message", quoted message)]
  | runtime message => Rendered.record "Runtime" [("message", quoted message)]

end Cause

structure BridgeError where
  cause : Cause
  function : Option String := none
  hints : List String := []
  deriving DecidableEq, Repr

/-- Hints that tell a caller which setting or call would have succeeded. -/
inductive Hint where
  | registerType
  | truncateFloats
  | readStrings
  | notNumeric
  | writeNumbers
  | passHandle
  | colonCall
  | separateTable
  deriving DecidableEq, Repr

namespace Hint

def text : Hint → String
  | registerType => "register the type with an identifier before exposing it"
  | truncateFloats => "pass a whole number, or set codec.integer_coercion = \"truncate\""
  | readStrings => "convert with tonumber(), or enable codec.string_to_number"
  | notNumeric => "the string is not a number tonumber() would accept"
  | writeNumbers => "convert with tostring(), or enable codec.number_to_string"
  | passHandle => "pass a handle created by the host"
  | colonCall => "call methods with ':' so the handle is passed first"
  | separateTable => "build a separate method table for the member's own type"

/-- The hint for an argument of kind `expected` that was `found` under the settings of `codec`. -/
def forMismatch (codec : CodecConfig) : Kind → String → Option Hint
  | .integer, "number" => if codec.integerCoercion = .exact then some truncateFloats else none
  | .number, "string" | .integer, "string" =>
    some (if codec.stringToNumber then notNumeric else readStrings)
  | .string, "number" | .string, "integer" =>
    if codec.numberToString then none else some writeNumbers
  | .object, _ => some passHandle
  | _, _ => none

end Hint

namespace BridgeError

/-- Names the callable that failed, unless an inner one is named already. -/
def inFunction (e : BridgeError) (name : String) : BridgeError :=
  match e.function with
  | none => { e with function := some name }
  | some _ => e

def suggest (e : BridgeError) (hint : String) : BridgeError :=
  { e with hints := e.hints ++ [hint] }

def withHint (c : Cause) (h : Hint) : BridgeError := { cause := c, hints := [h.text] }

def unregisteredType (typeName : String) : BridgeError :=
  withHint (.unregisteredType typeName) .registerType

def arity (expected found : Nat) : BridgeError := { cause := .arity expected found }

def typeMismatch (codec : CodecConfig) (index : Nat) (expected : Kind) (found : String) :
    BridgeError where
  cause := .typeMismatch index expected found
  hints := ((Hint.forMismatch codec expected found).map Hint.text).toList

def receiver (expected found : String) : BridgeError :=
  withHint (.receiverType expected found) .colonCall

def foreignMember (table method owner : String) : BridgeError :=
  withHint (.foreignMember table method owner) .separateTable

def outOfRange (value : Int) : BridgeError := { cause := .outOfRange (toString value) }

def reclaimed (identifier : String) : BridgeError := { cause := .reclaimedHandle identifier }

def native (message : String) : BridgeError := { cause := .native message }

def runtime (message : String) : BridgeError := { cause := .runtime message }

def message (e : BridgeError) : String :=
  e.hints.foldl (fun text hint => text ++ "\n  hint: " ++ hint)
    (match e.function with
      | some name => e.cause.textIn name
      | none => e.cause.text)

end BridgeError

end ScriptBridge
