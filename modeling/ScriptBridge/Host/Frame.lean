import ScriptBridge.Codec.Decode
import ScriptBridge.Codec.Encode

/-!
# Call frames

The arguments of one call from a script and the results that native code has pushed so far.
Positions count from one, as scripts count them. A push gives the frame back in any case, as it is
afterwards: what had been pushed before a failure would stay.
-/
namespace ScriptBridge

structure Frame where
  codec : CodecConfig
  args : List Value
  results : List Value := []

namespace Frame

variable {τ : Type}

def value? (f : Frame) (position : Nat) : Option Value :=
  match position with
  | 0 => none
  | i + 1 => f.args[i]?

def checkArity (f : Frame) (expected : Nat) : Except BridgeError Unit :=
  if f.args.length = expected then .ok () else .error (.arity expected f.args.length)

/-- Decodes the argument at a position; a missing one reads as nil. -/
def decode (f : Frame) (ids : Identities τ) (t : NativeType τ) (position : Nat) :
    Except BridgeError t.Native :=
  match Codec.decode f.codec ids t ((f.value? position).getD .nil) with
  | .ok a => .ok a
  | .error found => .error (.typeMismatch f.codec position t.kind found)

/-- Decodes the parameters from position `first` on, the leftmost failure first. -/
def decodeArgs (f : Frame) (ids : Identities τ) (first : Nat) :
    (ts : List (NativeType τ)) → Except BridgeError (Args ts)
  | [] => .ok ()
  | t :: ts => do
    let a ← f.decode ids t first
    let rest ← f.decodeArgs ids (first + 1) ts
    return (a, rest)

/-- The userdata at a position, if it is stamped as an object of type `t`. -/
def receiver (f : Frame) (ids : Identities τ) (t : τ) (position : Nat) : Except BridgeError Nat :=
  match ids.identifier? t with
  | none => .error (.unregisteredType (ids.typeName t))
  | some expected =>
    match ids.stamped expected ((f.value? position).getD .nil) with
    | .ok block => .ok block
    | .error found => .error (.receiver expected found)

def push (f : Frame) (t : NativeType τ) (a : t.Native) : Except BridgeError Unit × Frame :=
  match Codec.encode t a with
  | .error e => (.error e, f)
  | .ok v => (.ok (), { f with results := f.results ++ [v] })

/-- Pushes what a body gave back; the count is the number of values pushed. -/
def pushResult (f : Frame) : (r : ReturnType τ) → r.Native → Except BridgeError Nat × Frame
  | .nothing, () => (.ok 0, f)
  | .value t, a =>
    let (outcome, f) := f.push t a
    (outcome.map fun () => 1, f)
  | .fallible r, .ok a => f.pushResult r a
  | .fallible _, .error message => (.error (.native message), f)

/-- Ends an invocation with what became of its body, or with the error of a gate. -/
def finish (f : Frame) (r : ReturnType τ) :
    Except BridgeError r.Native → Except BridgeError Nat × Frame
  | .error e => (.error e, f)
  | .ok a => f.pushResult r a

end Frame

end ScriptBridge
