import ScriptBridge.Host.Frame
import ScriptBridge.Script.Display

/-!
# Invoking native callables

One call of a native body on a frame. The gates come first: the count of arguments, the receiver,
its loan and its object, the arguments from left to right. The body runs if all of them are passed,
once, and its result is pushed when the loan of the receiver is over. A shared receiver is opened
before the other arguments are looked at, an exclusive one after. However the call ends, the frame
is given back.
-/
namespace ScriptBridge

variable {N : Natives} {α : Type}

/-- How a script value is called. A failure is the value that was raised. -/
abbrev Caller (N : Natives) := Value → List Value → Run N (Except Value (List Value))

namespace Program

/-- Runs a native body; script functions are called through `call`. -/
def run (call : Caller N) : {α : Type} → Program N α → Run N α
  | _, done a => pure a
  | _, captured next => Run.look fun s => (next s.captured).run call
  | _, capture c next => do
    Run.modify fun s => { s with captured := c }
    next.run call
  | _, .call f args next => do
    let r ← call (.function f.function) args
    Run.look fun s => (next (r.mapError s.raisedError)).run call
  | _, shared t r inner next => do
    let b ← Access.shared t r.block fun o => (inner o).run call
    (next b).run call
  | _, exclusive t r inner next => do
    let b ← Access.exclusive t r.block fun o => (inner o).run call
    (next b).run call
  | _, release t r next => do
    let b ← Access.release t r.block
    (next b).run call

end Program

def BodyRun.run (call : Caller N) (b : BodyRun N) (body : Program N α) : Run N α := do
  Run.announce (.ran b) id
  body.run call

namespace Callable

/-- The outcome of a body under the gates, before its result is pushed. -/
def evaluate (call : Caller N) (c : Callable N) (f : Frame) :
    Run N (Except BridgeError c.returns.Native) :=
  match c.body with
  | .free _ body => Run.look fun s =>
    match (do f.checkArity c.params.length; f.decodeArgs s.identities 1 c.params) with
    | .error e => pure (.error e)
    | .ok args => do return .ok (← BodyRun.run call ⟨c, none, args⟩ (body args))
  | .shared owner body => Run.look fun s =>
    match (do f.checkArity (c.params.length + 1); f.receiver s.identities owner 1) with
    | .error e => pure (.error e)
    | .ok block => do
      let r ← Access.shared owner block fun o => Run.look fun s =>
        match f.decodeArgs s.identities 2 c.params with
        | .error e => pure (.error e)
        | .ok args => do return .ok (← BodyRun.run call ⟨c, some block, args⟩ (body o args))
      return r.bind id
  | .exclusive owner body => Run.look fun s =>
    match (do
      f.checkArity (c.params.length + 1)
      let block ← f.receiver s.identities owner 1
      let args ← f.decodeArgs s.identities 2 c.params
      return (block, args)) with
    | .error e => pure (.error e)
    | .ok (block, args) =>
      Access.exclusive owner block fun o => BodyRun.run call ⟨c, some block, args⟩ (body o args)

def invoke (call : Caller N) (c : Callable N) (f : Frame) :
    Run N (Except BridgeError Nat × Frame) := do
  return f.finish c.returns (← c.evaluate call f)

end Callable

namespace State

def countCall (s : State N) : State N :=
  { s with counters.callsMade := s.counters.callsMade + 1 }

def countError (s : State N) : State N :=
  { s with counters.callErrors := s.counters.callErrors + 1 }

end State

namespace EntryPoint

def frame (e : EntryPoint N) (args : List Value) : Frame := { codec := e.codec, args := args }

/-- Ends a call. A failure is counted, named and logged. -/
def answer (e : EntryPoint N) :
    Except BridgeError Nat × Frame → Run N (Except BridgeError (List Value))
  | (.ok _, f) => do
    Run.announce (.answered (.ok f.results)) id
    return .ok f.results
  | (.error error, _) => do
    let error := error.inFunction e.name
    Run.announce (.answered (.error error)) fun s => s.countError.emit (.callFailed e.name error)
    return .error error

def enter (call : Caller N) (e : EntryPoint N) (args : List Value) :
    Run N (Except BridgeError (List Value)) := do
  Run.announce (.called e args) State.countCall
  e.answer (← e.callable.invoke call (e.frame args))

end EntryPoint

end ScriptBridge
