import ScriptBridge.Host.Access
import ScriptBridge.Script.Expr

/-!
# Literals

Script values as they are written down, before they exist in a host. Those that have an identity,
such as tables and handles, come into being each time a literal is created.
-/
namespace ScriptBridge

inductive Literal (N : Natives) where
  | plain (v : Value)
  | table
  | function
  /-- Userdata from elsewhere, stamped if a stamp is given. -/
  | userdata (stamp : Option (Literal N))
  /-- A new handle, whose stamp is overwritten if one is given. -/
  | handle (t : N.ObjectType) (o : N.Payload t) (stamp : Option (Literal N))

namespace Literal

variable {N : Natives}

def restamp (block : Nat) (stamp : Value) : Run N Unit :=
  Run.modify fun s => { s with blocks := s.blocks.modify block fun b => { b with stamp := stamp } }

def create : Literal N → ExceptT BridgeError (Run N) Value
  | plain v => pure v
  | table => do return .table (← ExceptT.lift (Run.addTable []))
  | function => ExceptT.lift (Run.addFunction .inert)
  | userdata none => do return .userdata (← ExceptT.lift (Run.addBlock ⟨.nil, none⟩))
  | userdata (some stamp) => do
    let v ← stamp.create
    return .userdata (← ExceptT.lift (Run.addBlock ⟨v, none⟩))
  | handle t o none => do
    let r ← ExceptT.mk (createHandle t o)
    return .userdata r.block
  | handle t o (some stamp) => do
    let r ← ExceptT.mk (createHandle t o)
    let v ← stamp.create
    ExceptT.lift (restamp r.block v)
    return .userdata r.block

end Literal

end ScriptBridge
