import ScriptBridge.Host.Run

/-!
# Object access

Objects are reached only under a loan of their block. Any number of shared loans may be open at
once, or one exclusive loan. The type of the payload is checked before the loans, and the loans
before the object.
-/
namespace ScriptBridge

variable {N : Natives} {α : Type}

namespace State

/-- Whether a loan of the given mode may be opened on top of those that are open. -/
def mayLend (s : State N) (block : Nat) (exclusive : Bool) : Bool :=
  if exclusive then !s.isLent block else !s.isLentExclusively block

def lend (s : State N) (block : Nat) (exclusive : Bool) : State N :=
  { s with loans := ⟨block, exclusive⟩ :: s.loans }

def endLoan (s : State N) : State N := { s with loans := s.loans.drop 1 }

/-- The handle that a loan would open, or why it cannot be opened. -/
def lendable (s : State N) (t : N.ObjectType) (block : Nat) (exclusive : Bool) :
    Except RuntimeError (Handle N t) :=
  match s.handle? t block with
  | none => .error .otherPayload
  | some h =>
    if s.mayLend block exclusive then .ok h
    else .error (if exclusive then .exclusiveBorrow else .borrow)

def bury (s : State N) (t : N.ObjectType) (h : Handle N t) (o : N.Payload t) (early : Bool) :
    State N :=
  ({ s with destroyed := s.destroyed ++ [⟨t, h.serial, o⟩] } : State N).emit
    (.handleReleased h.identifier early)

end State

namespace Access

/-- Runs `f` on a handle while its block is lent. The loan ends whatever comes of `f`. -/
def lending (t : N.ObjectType) (block : Nat) (exclusive : Bool)
    (f : Handle N t → Run N (Except BridgeError α)) : Run N (Except BridgeError α) :=
  Run.look fun s =>
    match s.lendable t block exclusive with
    | .error e => pure (.error (.ofRuntime e))
    | .ok h => do
      Run.announce (.lent ⟨block, exclusive⟩) fun s => s.lend block exclusive
      let r ← f h
      Run.announce .returned State.endLoan
      return r

def shared (t : N.ObjectType) (block : Nat) (f : N.Payload t → Run N α) :
    Run N (Except BridgeError α) :=
  lending t block false fun h =>
    match h.object with
    | none => pure (.error (.reclaimed h.identifier))
    | some o => do return .ok (← f o)

/-- Runs `f` on an object while its block is lent exclusively, and puts back the object it leaves.
-/
def exclusive (t : N.ObjectType) (block : Nat) (f : N.Payload t → Run N (α × N.Payload t)) :
    Run N (Except BridgeError α) :=
  lending t block true fun h =>
    match h.object with
    | none => pure (.error (.reclaimed h.identifier))
    | some o => do
      let (a, o) ← f o
      Run.modify fun s => s.setHandle t block { h with object := some o }
      return .ok a

/-- Destroys the object of a handle now; false if it has been destroyed before. -/
def release (t : N.ObjectType) (block : Nat) : Run N (Except BridgeError Bool) :=
  lending t block true fun h =>
    match h.object with
    | none => pure (.ok false)
    | some o => do
      Run.modify fun s => (s.setHandle t block { h with object := none }).bury t h o true
      return .ok true

def isLive (t : N.ObjectType) (block : Nat) : Run N Bool := do
  match ← lending t block false fun h => pure (.ok h.object.isSome) with
  | .ok live => return live
  | .error _ => return false

end Access

/-- Moves an object into a new handle stamped with the identifier of its type. The object of a type
without one is destroyed at once. -/
def createHandle (t : N.ObjectType) (o : N.Payload t) :
    Run N (Except BridgeError (ObjectRef t)) := Run.atomic fun s =>
  let serial := s.serials
  let s := { s with serials := serial + 1 }
  match s.registry.identifier? t with
  | none =>
    (.error (.unregisteredType (N.typeName t)),
      { s with destroyed := s.destroyed ++ [⟨t, serial, o⟩] })
  | some identifier =>
    let block := s.blocks.length
    (.ok ⟨block⟩,
      ({ s with
        blocks := s.blocks ++ [⟨.ofText identifier, some ⟨t, ⟨identifier, serial, some o⟩⟩⟩] } :
          State N).emit (.handleCreated identifier))

end ScriptBridge
