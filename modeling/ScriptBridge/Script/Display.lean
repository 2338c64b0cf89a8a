import ScriptBridge.Host.Access

/-!
# Displaying script values

The text scripts see of a value. A handle shows what it was made for and whether its object is live;
while it is lent exclusively it cannot be shown.
-/
namespace ScriptBridge

variable {N : Natives}

def shortName (typeName : String) : String :=
  String.ofList ((typeName.toList.reverse.takeWhile (· != ':')).reverse)

/-- The name of handles to objects of a type, as the runtime's messages have it. -/
def handleTypeName (N : Natives) (t : N.ObjectType) : String :=
  s!"ObjectHandle<{shortName (N.typeName t)}>"

namespace Handle

variable {t : N.ObjectType}

def text (h : Handle N t) : String :=
  h.identifier ++ (if h.object.isSome then ": live" else ": released")

end Handle

namespace State

def userdataText (s : State N) (block : Nat) : Except RuntimeError String :=
  match (s.blocks[block]?).bind Block.content with
  | none => .ok "userdata"
  | some ⟨t, h⟩ =>
    if s.mayLend block false then .ok h.text
    else
      .error (.callback ""
        (.badArgument "\x60self\x60" (handleTypeName N t ++ ".__tostring") .borrow))

def display (s : State N) : Value → Except RuntimeError ByteArray
  | .nil => .ok "nil".toUTF8
  | .boolean b => .ok (toString b).toUTF8
  | .string bytes => .ok bytes
  | .userdata block => (s.userdataText block).map String.toUTF8
  | .error e => .ok e.text.toUTF8
  | v =>
    match v.numberText? with
    | some text => .ok text.toUTF8
    | none => .ok v.typeName.toUTF8

def typeNameOf (s : State N) (v : Value) : String :=
  match v with
  | .userdata block =>
    match (s.blocks[block]?).bind Block.content with
    | some ⟨t, _⟩ => handleTypeName N t
    | none => v.plainTypeName
  | _ => v.plainTypeName

/-- The error that a raised value is for native code: an error value is itself, anything else its
text. -/
def raisedError (s : State N) (v : Value) : RuntimeError :=
  match v with
  | .error e => e
  | _ =>
    match s.display v with
    | .ok bytes => .raised (Utf8.lossy bytes)
    | .error e => e

end State

end ScriptBridge
