import ScriptBridge.Script.Value
import ScriptBridge.Text.Utf8

/-!
# The runtime's own coercions

Strings stand for numbers as numerals, numbers for strings as their text. Code that asks the runtime
for a whole number, a float or a string gets it through these.
-/
namespace ScriptBridge.Value

def ofNumeral : Numeral → Value
  | .integer i => integer i
  | .float x => number x

def toNumeral? : Value → Option Numeral
  | integer i => some (.integer i)
  | number x => some (.float x)
  | string bytes => Numeral.ofBytes? bytes
  | _ => none

def coerceInteger? (v : Value) : Option Int64 :=
  match v.toNumeral? with
  | some (.integer i) => some i
  | some (.float x) => x.toInt?.bind int64?
  | none => none

def coerceNumber? (v : Value) : Option Binary64 := v.toNumeral?.map Numeral.toBinary64

def coerceString? : Value → Option ByteArray
  | string bytes => some bytes
  | v => v.numberText?.map String.toUTF8

/-- Text from a value that has to be a string or a number. -/
def coerceText (v : Value) : Except RuntimeError String :=
  match v.coerceString? with
  | none => .error (.conversion v.typeName "String" (some "expected string or number"))
  | some bytes =>
    match String.fromUTF8? bytes with
    | some s => .ok s
    | none =>
      .error (.conversion v.typeName "String" ((Utf8.fault? bytes).map Utf8.Fault.text))

/-- As `coerceText`, where nil stands for no text. -/
def coerceText? : Value → Except RuntimeError (Option String)
  | nil => .ok none
  | v => v.coerceText.map some

end ScriptBridge.Value
