import ScriptBridge.Native.Type

/-!
# Encoding native values

From a native value to a script one. Only whole numbers beyond the runtime's 64 bits are refused.
-/
namespace ScriptBridge.Codec

variable {τ : Type}

def encode : (t : NativeType τ) → t.Native → Except BridgeError Value
  | .integer _, n =>
    match int64? n.val with
    | some i => .ok (.integer i)
    | none => .error (.outOfRange n.val)
  | .float _, x => .ok (.number x.toBinary64)
  | .boolean, b => .ok (.boolean b)
  | .text, s => .ok (.ofText s)
  | .view, s => .ok (.ofText s.text)
  | .object _, r => .ok (.userdata r.block)
  | .option _, none => .ok .nil
  | .option t, some a => encode t a
  | .color, c => .ok (.ofText ("#" ++ paddedHex 6 c.toNat))
  | .callback, f => .ok (.function f.function)

end ScriptBridge.Codec
