import ScriptBridge.Host.Basic
import ScriptBridge.Sample.Callables

/-!
# What can be shown of values

Script and native values as an observer of a session sees them: handles by their object type and
their text, errors by the bridge error they carry, values without content by their type alone.
-/
namespace ScriptBridge

inductive ShownValue where
  | nil
  | boolean (b : Bool)
  | integer (i : Int64)
  | number (x : Binary64)
  | text (s : String)
  | bytes (b : ByteArray)
  | handle (typeName text : String)
  | error (e : BridgeError)
  /-- A value of which only the type is shown. -/
  | opaqueValue (typeName : String)

inductive ShownNative where
  | integer (i : Int)
  | double (x : Binary64)
  | single (x : Binary32)
  | boolean (b : Bool)
  | text (s : String)
  | view (s : String)
  | reference (typeName : String) (live : Bool)
  | absent
  | present (a : ShownNative)
  | color (c : UInt32)
  | function

namespace Sample

abbrev World := State sampleNatives

def shown (s : World) (v : Value) : ShownValue :=
  match v with
  | .nil => .nil
  | .boolean b => .boolean b
  | .integer i => .integer i
  | .number x => .number x
  | .string bytes =>
    match String.fromUTF8? bytes with
    | some t => .text t
    | none => .bytes bytes
  | .userdata block =>
    match (s.blocks[block]?).bind Block.content with
    | some ⟨t, h⟩ => .handle (ObjectType.name t) h.text
    | none => .opaqueValue v.typeName
  | .error e => .error (.ofRuntime e)
  | _ => .opaqueValue v.typeName

def isLiveNow (s : World) (t : ObjectType) (block : Nat) : Bool :=
  ((Access.isLive (N := sampleNatives) t block).run s).1

def shownNative (s : World) : (t : Param) → t.Native → ShownNative
  | .integer _, a => .integer a.val
  | .float .double, x => .double x
  | .float .single, x => .single x
  | .boolean, b => .boolean b
  | .text, a => .text a
  | .view, a => .view a.text
  | .object t, r => .reference (ObjectType.typeName t) (isLiveNow s t r.block)
  | .option _, none => .absent
  | .option t, some a => .present (shownNative s t a)
  | .color, c => .color c
  | .callback, _ => .function

def referenceText (typeName : String) (live : Bool) : String :=
  Rendered.record "ObjectRef" [("type", quoted typeName), ("live", toString live)]

/-- The type identities every session starts with. -/
def registry : Registry ObjectType :=
  ({} : Registry ObjectType).insert ⟨.account, "bank::Account"⟩ |>.insert ⟨.sensor, "lab::Sensor"⟩

def params : Names Param :=
  [("i8", int i8), ("i16", int i16), ("i32", int i32), ("i64", long), ("isize", int isize),
    ("u8", int u8), ("u16", int u16), ("u32", int u32), ("u64", int u64), ("usize", int usize),
    ("f32", .float .single), ("f64", double), ("bool", .boolean), ("string", .text), ("view", .view),
    ("opt_u8", .option (int u8)), ("opt_i64", .option long), ("opt_f64", .option double),
    ("opt_bool", .option .boolean), ("opt_string", .option .text), ("opt_view", .option .view),
    ("opt_account", .option account), ("account", account), ("sensor", .object .sensor),
    ("stranger", .object .stranger), ("color", .color), ("callback", .callback)]

end Sample

end ScriptBridge
