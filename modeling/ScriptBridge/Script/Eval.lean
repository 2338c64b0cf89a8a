import ScriptBridge.Host.Invoke

/-!
# Running scripts

Evaluation of script trees over the host state. Functions are called through a parameter, so
evaluation follows the tree; `callWith` ties the two together with a bound on the depth of nested
calls, beyond which the runtime raises an error of its own. How much of the bound is left differs
from one piece of code to the next, so whatever runs code is given its depth.

The runtime also writes the stack of calls into the error that it makes of a native failure. That
text is left out: it is empty in every such error, and missing from the messages of those that are
handed on.
-/
namespace ScriptBridge

variable {N : Natives} {α : Type}

abbrev Raising (N : Natives) (α : Type) := ExceptT Value (Run N) α

namespace Raising

def raise (v : Value) : Raising N α := ExceptT.mk (pure (.error v))

def raiseText (message : String) : Raising N α := raise (.ofText message)

def ofRun (r : Run N α) : Raising N α := ExceptT.lift r

def ofChecked (f : State N → Except RuntimeError α) : Raising N α :=
  ExceptT.mk (Run.read fun s => (f s).mapError Value.error)

def outcome (r : Raising N α) : Raising N (Except Value α) := ExceptT.lift r.run

end Raising

/-- How the runtime's messages refer to what an expression stands for. -/
def Expr.reference : Expr Value → String
  | .global name => s!" (global '{name}')"
  | .method _ name _ => s!" (method '{name}')"
  | .index _ (.constant (.string bytes)) => s!" (field '{Utf8.lossy bytes}')"
  | _ => ""

namespace State

/-- An entry of a named table, by a key of any kind. -/
def entry (t : Names Value) (key : Value) : Value :=
  match key.text? with
  | some name => (t.get? name).getD .nil
  | none => .nil

/-- Attribute lookup: the stamp of a handle says which attached table is searched. -/
def member (s : State N) (block : Nat) (key : Value) : Except RuntimeError Value :=
  match (s.stampOf block).coerceText? with
  | .error e => .error (.callback "" e)
  | .ok none => .ok .nil
  | .ok (some identifier) =>
    match s.methods.get? identifier with
    | some methods => .ok (entry methods key)
    | none => .ok .nil

def isHandle (s : State N) (block : Nat) : Bool := ((s.blocks[block]?).bind Block.content).isSome

end State

open Raising in
/-- Looks a key up in a value that an expression with the given reference stands for. -/
def indexValue (reference : String) (v key : Value) : Raising N Value := do
  let refuse : Raising N Value := do
    let name ← ofRun (Run.read fun s => s.typeNameOf v)
    raiseText s!"attempt to index a {name} value{reference}"
  match v with
  | .table id => ofRun (Run.read fun s => State.entry (s.table id) key)
  | .userdata block =>
    if ← ofRun (Run.read fun s => s.isHandle block) then
      ofChecked fun s => s.member block key
    else refuse
  | .string _ =>
    match ← ofRun (Run.read fun s => s.stringTable) with
    | some id => ofRun (Run.read fun s => State.entry (s.table id) key)
    | none => refuse
  | _ => refuse

open Raising in
/-- Calls a value that an expression with the given reference stands for. -/
def callValue (call : Caller N) (reference : String) (f : Value) (args : List Value) :
    Raising N (List Value) :=
  match f with
  | .function _ => ExceptT.mk (call f args)
  | _ => do
    let name ← ofRun (Run.read fun s => s.typeNameOf f)
    raiseText s!"attempt to call a {name} value{reference}"

def repeated (n : Nat) (body : Raising N Unit) : Raising N Unit :=
  match n with
  | 0 => pure ()
  | n + 1 => do
    body
    repeated n body

/-- Exactly one value; nil where there is none. -/
def firstOf (vs : List Value) : Value := vs.headD .nil

mutual

open Raising

variable (call : Caller N)

def Expr.eval : Expr Value → Raising N (List Value)
  | .constant v => pure [v]
  | .global name => ofRun (Run.read fun s => [s.global name])
  | .index of key => do
    let v := firstOf (← of.eval)
    let k := firstOf (← key.eval)
    return [← indexValue of.reference v k]
  | .call f args => do
    let g := firstOf (← f.eval)
    let vs ← evalArgs args
    callValue call f.reference g vs
  | .method of name args => do
    let v := firstOf (← of.eval)
    let g ← indexValue of.reference v (.ofText name)
    let vs ← evalArgs args
    callValue call s!" (method '{name}')" g (v :: vs)
  | .protectedCall f args => do
    let g := firstOf (← f.eval)
    let vs ← evalArgs args
    match ← outcome (callValue call "" g vs) with
    | .ok results => return .boolean true :: results
    | .error v => return [.boolean false, v]
  | .display of => do
    match ← of.eval with
    | [] => raiseText "bad argument #1 to 'tostring' (value expected)"
    | v :: _ => return [.string (← ofChecked fun s => s.display v)]
  | .lambda body => do
    return [← ofRun (Run.addFunction (.lambda body))]

/-- Argument lists: the last expression gives all its values, the others one each. -/
def evalArgs : List (Expr Value) → Raising N (List Value)
  | [] => pure []
  | e :: es => do
    let vs ← e.eval
    match es with
    | [] => return vs
    | _ :: _ => return firstOf vs :: (← evalArgs es)

def Stmt.exec : Stmt Value → Raising N Unit
  | .assign name e => do
    let v := firstOf (← e.eval)
    ofRun (Run.modify fun s => s.setGlobal name v)
  | .evaluate e => do
    let _ ← e.eval
    return ()
  | .raise e => do
    let v := firstOf (← e.eval)
    raise v
  | .loop times body => repeated times (execBody body)

def execBody : List (Stmt Value) → Raising N Unit
  | [] => pure ()
  | s :: ss => do
    s.exec
    execBody ss

end

/-- Calls a value, with at most `depth` calls inside one another. -/
def callWith : (depth : Nat) → Caller N
  | 0, _, _ => pure (.error (.ofText "stack overflow"))
  | depth + 1, f, args =>
    match f with
    | .function id => Run.look fun s =>
      match s.functions[id]? with
      | some (.entry e) => do
        let r ← e.enter (callWith depth) args
        return r.mapError fun error => .error (.callback "" (.bridge error))
      | some (.lambda body) => do
        let r ← (execBody (callWith depth) body).run
        return r.map fun () => []
      | some .inert => pure (.ok [])
      | none => pure (.ok [])
    | _ => callValue (fun _ _ => pure (.ok [])) "" f args

end ScriptBridge
