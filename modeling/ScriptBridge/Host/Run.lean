import ScriptBridge.Host.State

/-!
# Computations over the host state

A computation goes from state to state in single steps. It can be run to its end, and every state it
passes on the way can be looked at. A step may carry a mark, which says what begins or ends with it;
marks change nothing.
-/
namespace ScriptBridge

/-- One run of a native body; a member runs on the object in the block `receiver`. -/
structure BodyRun (N : Natives) where
  callable : Callable N
  receiver : Option Nat
  args : Args callable.params

inductive Mark (N : Natives) where
  /-- A call of an entry point begins. -/
  | called (e : EntryPoint N) (args : List Value)
  /-- The call that was begun last among those in progress ends. -/
  | answered (outcome : Except BridgeError (List Value))
  | ran (b : BodyRun N)
  | lent (loan : Loan)
  /-- The innermost loan ends. -/
  | returned

/-- A computation over the host state, step by step: each step changes the state and goes on as the
state before it says. -/
inductive Run (N : Natives) (α : Type) : Type 1 where
  | done (a : α)
  | step (mark : Option (Mark N)) (change : State N → State N) (next : State N → Run N α)

namespace Run

variable {N : Natives} {α β : Type}

def bind : Run N α → (α → Run N β) → Run N β
  | done a, f => f a
  | step mark change next, f => step mark change fun s => (next s).bind f

instance : Monad (Run N) where
  pure := done
  bind := bind

def run : Run N α → State N → α × State N
  | done a, s => (a, s)
  | step _ change next, s => (next s).run (change s)

def look (f : State N → Run N α) : Run N α := step none id f

def atomic (f : State N → α × State N) : Run N α :=
  step none (fun s => (f s).2) fun s => done (f s).1

def announce (mark : Mark N) (f : State N → State N) : Run N Unit :=
  step (some mark) f fun _ => done ()

def read (f : State N → α) : Run N α := look fun s => done (f s)

def modify (f : State N → State N) : Run N Unit := atomic fun s => ((), f s)

def emit (e : Event) : Run N Unit := modify fun s => s.emit e

def addFunction (f : ScriptFunction N) : Run N Value := atomic fun s =>
  (.function s.functions.length, { s with functions := s.functions ++ [f] })

def addTable (t : Names Value) : Run N Nat := atomic fun s =>
  (s.tables.length, { s with tables := s.tables ++ [t] })

def addBlock (b : Block N) : Run N Nat := atomic fun s =>
  (s.blocks.length, { s with blocks := s.blocks ++ [b] })

end Run

end ScriptBridge
