import ScriptBridge.Host.Bind

/-!
# Method tables

Named callables for the handles of one object type. A table is built if no name is used twice and
every member in it belongs to the type; free-standing callables may stand in it and get the handle
as an ordinary first argument. Attaching a table replaces the one before, also for handles that
exist.
-/
namespace ScriptBridge

structure MethodTable (N : Natives) where
  owner : N.ObjectType
  entries : List (String × Callable N)

namespace MethodTable

variable {N : Natives}

/-- The first entry at fault, where `seen` are the names before; a name used twice is told first. -/
def faultAfter (owner : N.ObjectType) (seen : List String) :
    List (String × Callable N) → Option BridgeError
  | [] => none
  | (name, c) :: rest =>
    if name ∈ seen then some { cause := .duplicateMethodName (N.typeName owner) name }
    else
      match c.owner?.filter fun t => t ≠ owner with
      | some foreign =>
        some
          ((BridgeError.foreignMember (N.typeName owner) name (N.typeName foreign)).inFunction name)
      | none => faultAfter owner (name :: seen) rest

def build (owner : N.ObjectType) (entries : List (String × Callable N)) :
    Except BridgeError (MethodTable N) :=
  match faultAfter owner [] entries with
  | some e => .error e
  | none => .ok ⟨owner, entries⟩

def get? (t : MethodTable N) (name : String) : Option (Callable N) := Names.get? t.entries name

def names (t : MethodTable N) : List String := t.entries.map Prod.fst

def size (t : MethodTable N) : Nat := t.entries.length

def ownerName (t : MethodTable N) : String := N.typeName t.owner

def bindEntries (codec : CodecConfig) (methods : Names Value) :
    List (String × Callable N) → Run N (Except BridgeError (Names Value))
  | [] => pure (.ok methods)
  | (name, c) :: rest => do
    match ← bind codec name c with
    | .error e => return .error e
    | .ok f => bindEntries codec (methods.put name f) rest

/-- Binds every entry and publishes the table for the handles of its type. -/
def attach (codec : CodecConfig) (t : MethodTable N) : Run N (Except BridgeError (Names Value)) := do
  match ← Run.read fun s => s.registry.identifier? t.owner with
  | none => return .error (.unregisteredType t.ownerName)
  | some identifier =>
    match ← bindEntries codec [] t.entries with
    | .error e => return .error e
    | .ok methods =>
      Run.modify fun s => { s with methods := s.methods.put identifier methods }
      Run.emit (.methodsAttached identifier t.size)
      return .ok methods

end MethodTable

end ScriptBridge
