import ScriptBridge.Codec.Decode
import ScriptBridge.Log.Event
import ScriptBridge.Names
import ScriptBridge.Object.Registry
import ScriptBridge.Script.Expr

/-!
# Host state

Everything a host and its scripts can change, as one value. Userdata blocks and functions are
numbered in the order they were made and are never reused. Loans are the object accesses in
progress, the innermost first.
-/
namespace ScriptBridge

variable (N : Natives)

/-- The native part of a handle to an object of type `t`. The object is gone once it is destroyed;
what it was is kept. -/
structure Handle (t : N.ObjectType) where
  identifier : String
  serial : Nat
  object : Option (N.Payload t)

/-- A userdata block: a handle, or userdata from elsewhere. -/
structure Block where
  stamp : Value
  content : Option ((t : N.ObjectType) × Handle N t)

structure Destroyed where
  type : N.ObjectType
  serial : Nat
  object : N.Payload type

structure Loan where
  block : Nat
  exclusive : Bool
  deriving DecidableEq, Repr

/-- A callable bound for scripts, with the settings it was bound under. -/
structure EntryPoint where
  name : String
  callable : Callable N
  codec : CodecConfig

inductive ScriptFunction where
  | entry (e : EntryPoint N)
  | lambda (body : List (Stmt Value))
  | inert

structure Counters where
  callsMade : Nat := 0
  callErrors : Nat := 0
  entryPoints : Nat := 0
  deriving DecidableEq, Repr

structure State where
  registry : Registry N.ObjectType
  /-- Tables by number; the first holds the globals. -/
  tables : List (Names Value)
  functions : List (ScriptFunction N)
  blocks : List (Block N)
  /-- The table that strings are looked up in. -/
  stringTable : Option Nat
  /-- Attached method tables, by type identifier. -/
  methods : Names (Names Value)
  loans : List Loan
  captured : N.Captured
  /-- How many objects have been handed over so far. -/
  serials : Nat
  destroyed : List (Destroyed N)
  counters : Counters
  log : List Event

variable {N}

/-- The handle in a block, if it is one for objects of type `t`. -/
def Block.handle? (b : Block N) (t : N.ObjectType) : Option (Handle N t) :=
  match b.content with
  | some ⟨u, h⟩ => if e : u = t then some (e ▸ h) else none
  | none => none

namespace State

def globals (s : State N) : Names Value := s.tables.headD []

def global (s : State N) (name : String) : Value := (s.globals.get? name).getD .nil

def setGlobals (s : State N) (globals : Names Value) : State N :=
  { s with tables := globals :: s.tables.drop 1 }

def setGlobal (s : State N) (name : String) (v : Value) : State N :=
  s.setGlobals (s.globals.put name v)

def table (s : State N) (id : Nat) : Names Value := s.tables[id]?.getD []

def setTable (s : State N) (id : Nat) (t : Names Value) : State N :=
  { s with tables := s.tables.set id t }

def emit (s : State N) (e : Event) : State N := { s with log := s.log ++ [e] }

def handle? (s : State N) (t : N.ObjectType) (block : Nat) : Option (Handle N t) :=
  s.blocks[block]?.bind fun b => b.handle? t

def setHandle (s : State N) (t : N.ObjectType) (block : Nat) (h : Handle N t) : State N :=
  { s with blocks := s.blocks.modify block fun b => { b with content := some ⟨t, h⟩ } }

def stampOf (s : State N) (block : Nat) : Value :=
  match s.blocks[block]? with
  | some b => b.stamp
  | none => .nil

def identities (s : State N) : Identities N.ObjectType where
  typeName := N.typeName
  identifier? := s.registry.identifier?
  stamp? block :=
    match (s.stampOf block).coerceText? with
    | .ok stamp => stamp
    | .error _ => none

def isLent (s : State N) (block : Nat) : Bool := s.loans.any fun l => l.block == block

def isLentExclusively (s : State N) (block : Nat) : Bool :=
  s.loans.any fun l => l.block == block && l.exclusive

end State

end ScriptBridge
