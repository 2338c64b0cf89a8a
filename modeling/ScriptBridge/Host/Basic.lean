import ScriptBridge.Host.Collect
import ScriptBridge.Object.MethodTable
import ScriptBridge.Script.Library

/-!
# Hosts

A host opens a script runtime under a configuration and runs code in it, with a bound on the depth
of calls. Errors that leave a script come back as bridge errors.
-/
namespace ScriptBridge

variable {N : Natives}

namespace Host

/-- The libraries that a configuration asks for; none named are all of them. -/
def libraries (config : RuntimeConfig) : Except BridgeError (List StandardLibrary) :=
  if config.libraries.isEmpty then .ok StandardLibrary.all
  else
    config.libraries.mapM fun name =>
      match StandardLibrary.ofName? name with
      | some l => .ok l
      | none => .error (.runtime s!"unknown standard library '{name}'")

/-- The state of a fresh runtime, for a native side that has registered and captured what is given.
-/
def fresh (libraries : List StandardLibrary) (registry : Registry N.ObjectType)
    (captured : N.Captured) : State N where
  registry := registry
  tables := Library.tables libraries
  functions := [.inert]
  blocks := []
  stringTable := Library.stringTable? libraries
  methods := []
  loans := []
  captured := captured
  serials := 0
  destroyed := []
  counters := {}
  log := []

def create (config : Config) (registry : Registry N.ObjectType) (captured : N.Captured) :
    Except BridgeError (State N) :=
  match libraries config.runtime with
  | .error e => .error e
  | .ok opened =>
    .ok ((fresh opened registry captured).emit
      (.hostCreated config.runtime.libraries config.runtime.memoryLimit))

def enter {α : Type} (code : Raising N α) : Run N (Except BridgeError α) := do
  let r ← code.run
  Run.read fun s => r.mapError fun v => .ofRuntime (s.raisedError v)

def exec (depth : Nat) (body : List (Stmt Value)) : Run N (Except BridgeError Unit) :=
  enter (execBody (callWith depth) body)

def eval (depth : Nat) (body : List (Stmt Value)) (results : List (Expr Value)) :
    Run N (Except BridgeError (List Value)) :=
  enter do
    execBody (callWith depth) body
    evalArgs (callWith depth) results

def call (depth : Nat) (f : Value) (args : List Value) : Run N (Except BridgeError (List Value)) :=
  enter (ExceptT.mk (callWith depth f args))

/-- Collects garbage; `held` are the values that native code still refers to. -/
def collectGarbage (held : List Value) : Run N Unit := Run.modify fun s => s.collect held

end Host

end ScriptBridge
