import ScriptBridge.Native.Type
import ScriptBridge.Script.Coercion

/-!
# Decoding script values

From a script value to a native one. Kinds are not mixed beyond what the runtime itself holds equal
and what the settings allow: whole numbers and floats, and strings for numbers either way. A failure
says what was found, in the terms of the script.
-/
namespace ScriptBridge

/-- What decoding has to know of a host: the names and identifiers of types, and the stamp of a
userdata where it reads as text. -/
structure Identities (τ : Type) where
  typeName : τ → String
  identifier? : τ → Option String
  stamp? : Nat → Option String

namespace Identities

variable {τ : Type}

/-- The userdata in a value that carries the stamp `expected`, or what was found instead. -/
def stamped (ids : Identities τ) (expected : String) : Value → Except String Nat
  | .userdata block =>
    match ids.stamp? block with
    | some stamp => if stamp = expected then .ok block else .error stamp
    | none => .error "userdata"
  | v => .error v.typeName

end Identities

namespace Codec

def floatToInteger? : IntegerCoercion → Binary64 → Option Int64
  | .exact, x => x.toInt?.bind int64?
  | .truncate, x => x.truncate?.bind int64?

/-- The whole number an argument is worth, before the range of its type is looked at. -/
def wholeNumber? (codec : CodecConfig) (v : Value) : Option Int64 :=
  match v with
  | .integer i => some i
  | .number x => floatToInteger? codec.integerCoercion x
  | .string _ =>
    if codec.stringToNumber then
      match v.coerceInteger? with
      | some i => some i
      | none => v.coerceNumber?.bind (floatToInteger? codec.integerCoercion)
    else none
  | _ => none

def float? (codec : CodecConfig) (v : Value) : Option Binary64 :=
  match v with
  | .integer i => some (.ofInt .double i.toInt)
  | .number x => some x
  | .string _ => if codec.stringToNumber then v.coerceNumber? else none
  | _ => none

def textOf (bytes : ByteArray) : Except String String :=
  match String.fromUTF8? bytes with
  | some s => .ok s
  | none => .error "non-UTF-8 string"

def text (codec : CodecConfig) (v : Value) : Except String String :=
  match v with
  | .string bytes => textOf bytes
  | _ =>
    match if codec.numberToString then v.numberText? else none with
    | some s => .ok s
    | none => .error v.typeName

def colorOf? (bytes : ByteArray) : Option UInt32 :=
  match bytes.data.toList.map fun b => Char.ofNat b.toNat with
  | '#' :: digits =>
    if digits.length = 6 ∧ digits.all isHexadecimal then
      some (UInt32.ofNat (positional 16 digits))
    else none
  | _ => none

variable {τ : Type}

def decode (codec : CodecConfig) (ids : Identities τ) :
    (t : NativeType τ) → Value → Except String t.Native
  | .integer t, v =>
    match wholeNumber? codec v with
    | none => .error v.typeName
    | some i =>
      match Bounded.ofInt? t i.toInt with
      | some n => .ok n
      | none => .error s!"out-of-range integer {i.toInt}"
  | .float w, v =>
    match float? codec v with
    | some x => .ok (.ofBinary64 w x)
    | none => .error v.typeName
  | .boolean, v =>
    match v with
    | .boolean b => .ok b
    | _ => .error v.typeName
  | .text, v => text codec v
  | .view, v =>
    match v with
    | .string bytes => (textOf bytes).map StringView.mk
    | _ => .error v.typeName
  | .object t, v =>
    match ids.identifier? t with
    | none => .error (ids.typeName t ++ " (unregistered)")
    | some expected => (ids.stamped expected v).map ObjectRef.mk
  | .option t, v =>
    match v with
    | .nil => .ok none
    | _ => (decode codec ids t v).map some
  | .color, v =>
    match v with
    | .string bytes =>
      match colorOf? bytes with
      | some c => .ok c
      | none => .error "malformed color"
    | _ => .error v.typeName
  | .callback, v =>
    match v with
    | .function id => .ok ⟨id⟩
    | _ => .error v.typeName

end Codec

end ScriptBridge
