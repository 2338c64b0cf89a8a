import ScriptBridge.Error
import ScriptBridge.Numeral

/-!
# Script values and runtime errors

The values of the script runtime. Tables, functions and userdata are held by number; what the
numbers stand for is in the host state. A runtime error is a chain of wrappers around a leaf, and a
bridge error travels through the runtime as such a leaf.
-/
namespace ScriptBridge

inductive RuntimeError where
  /-- Raised by script code or by the runtime itself. -/
  | raised (message : String)
  | malformed (message : String)
  | memory (message : String)
  | stackExhausted
  | conversion (source target : String) (detail : Option String)
  | borrow
  | exclusiveBorrow
  /-- The userdata holds an object of another type. -/
  | otherPayload
  /-- A plain text error of native code. -/
  | external (message : String)
  | bridge (error : BridgeError)
  /-- An argument of the native function `function` was refused. -/
  | badArgument (argument function : String) (cause : RuntimeError)
  | context (text : String) (cause : RuntimeError)
  /-- An error that left a native function, with the stack of that moment. -/
  | callback (traceback : String) (cause : RuntimeError)
  deriving DecidableEq, Repr

namespace RuntimeError

/-- Of directly nested native functions only the innermost shows its stack, and none if it has none.
-/
def text : RuntimeError → String
  | raised message => "runtime error: " ++ message
  | malformed message => "syntax error: " ++ message
  | memory message => "memory error: " ++ message
  | stackExhausted =>
    "out of Lua stack, too many arguments to a Lua function or too many return values from a callback"
  | conversion source target detail =>
    "error converting Lua " ++ source ++ " to " ++ target ++
      (match detail with
        | some d => " (" ++ d ++ ")"
        | none => "")
  | borrow => "error borrowing userdata"
  | exclusiveBorrow => "error mutably borrowing userdata"
  | otherPayload => "userdata is not expected type"
  | external message => message
  | bridge error => error.message
  | badArgument argument function cause =>
    "bad argument " ++ argument ++ " to \x60" ++ function ++ "\x60: " ++ cause.text
  | context text cause => text ++ "\n" ++ cause.text
  | callback _ (callback traceback cause) => (callback traceback cause).text
  | callback traceback cause =>
    if traceback.isEmpty then cause.text else cause.text ++ "\n" ++ traceback ++ "\n"

/-- The bridge error in a chain of native functions and contexts. -/
def bridgeError? : RuntimeError → Option BridgeError
  | bridge error => some error
  | context _ cause => cause.bridgeError?
  | callback _ cause => cause.bridgeError?
  | _ => none

end RuntimeError

/-- The bridge error that a runtime error carries; any other error is told by its text alone. -/
def BridgeError.ofRuntime (e : RuntimeError) : BridgeError :=
  e.bridgeError?.getD (.runtime e.text)

inductive Value where
  | nil
  | boolean (b : Bool)
  | integer (i : Int64)
  | number (x : Binary64)
  | string (bytes : ByteArray)
  | table (id : Nat)
  | function (id : Nat)
  | thread
  | lightUserdata
  | userdata (id : Nat)
  | error (e : RuntimeError)

namespace Value

instance : Inhabited Value := ⟨nil⟩

def ofText (s : String) : Value := string s.toUTF8

/-- Type names that tell whole numbers from floats. -/
def typeName : Value → String
  | nil => "nil"
  | boolean _ => "boolean"
  | integer _ => "integer"
  | number _ => "number"
  | string _ => "string"
  | table _ => "table"
  | function _ => "function"
  | thread => "thread"
  | lightUserdata => "lightuserdata"
  | userdata _ => "userdata"
  | error _ => "error"

/-- Type names as the runtime's own messages have them. -/
def plainTypeName : Value → String
  | integer _ => "number"
  | lightUserdata => "userdata"
  | error _ => "userdata"
  | v => v.typeName

def numberText? : Value → Option String
  | integer i => some (toString i.toInt)
  | number x => some x.text
  | _ => none

def text? : Value → Option String
  | string bytes => String.fromUTF8? bytes
  | _ => none

end Value

end ScriptBridge
