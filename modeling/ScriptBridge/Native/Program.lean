import ScriptBridge.Native.Type

/-!
# Native programs

The body of a native callable, as a program over what such a body can reach: the state its closures
captured, script functions, and objects through references. Object access is scoped. A program
inside an access is handed the object, and one inside an exclusive access gives back the object to
leave behind, so nothing can keep an object past the access or change one it has only been shown.
-/
namespace ScriptBridge

/-- The native side of a host: its object types with their payloads, and what closures have
captured. -/
structure Natives where
  ObjectType : Type
  decEq : DecidableEq ObjectType
  typeName : ObjectType → String
  Payload : ObjectType → Type
  Captured : Type

instance (N : Natives) : DecidableEq N.ObjectType := N.decEq

inductive Program (N : Natives) : Type → Type 1 where
  | done {α : Type} (a : α) : Program N α
  | captured {α : Type} (next : N.Captured → Program N α) : Program N α
  | capture {α : Type} (c : N.Captured) (next : Program N α) : Program N α
  /-- Calls a script function; an error it raises comes back as a value. -/
  | call {α : Type} (f : Callback) (args : List Value)
      (next : Except RuntimeError (List Value) → Program N α) : Program N α
  | shared {α β : Type} (t : N.ObjectType) (r : ObjectRef t) (inner : N.Payload t → Program N β)
      (next : Except BridgeError β → Program N α) : Program N α
  | exclusive {α β : Type} (t : N.ObjectType) (r : ObjectRef t)
      (inner : N.Payload t → Program N (β × N.Payload t))
      (next : Except BridgeError β → Program N α) : Program N α
  /-- Destroys the object of a handle; false if that has been done before. -/
  | release {α : Type} (t : N.ObjectType) (r : ObjectRef t)
      (next : Except BridgeError Bool → Program N α) : Program N α

namespace Program

variable {N : Natives} {α β : Type}

def bind : {α : Type} → Program N α → (α → Program N β) → Program N β
  | _, done a, f => f a
  | _, captured next, f => captured fun c => (next c).bind f
  | _, capture c next, f => capture c (next.bind f)
  | _, call g args next, f => call g args fun r => (next r).bind f
  | _, shared t r inner next, f => shared t r inner fun b => (next b).bind f
  | _, exclusive t r inner next, f => exclusive t r inner fun b => (next b).bind f
  | _, release t r next, f => release t r fun b => (next b).bind f

instance : Monad (Program N) where
  pure := done
  bind := bind

variable {t : N.ObjectType}

def getCaptured : Program N N.Captured := captured done

def setCaptured (c : N.Captured) : Program N Unit := capture c (done ())

def callScript (f : Callback) (args : List Value) : Program N (Except RuntimeError (List Value)) :=
  call f args done

def access (r : ObjectRef t) (inner : N.Payload t → Program N β) : Program N (Except BridgeError β) :=
  shared t r inner done

def update (r : ObjectRef t) (inner : N.Payload t → β × N.Payload t) :
    Program N (Except BridgeError β) :=
  exclusive t r (fun o => done (inner o)) done

def destroy (r : ObjectRef t) : Program N (Except BridgeError Bool) := release t r done

/-- An object is live if it can be shown at this moment. -/
def isLive (r : ObjectRef t) : Program N Bool :=
  shared t r (fun _ => done ()) fun
    | .ok () => done true
    | .error _ => done false

end Program

end ScriptBridge
