import ScriptBridge.Script.Literal
import ScriptBridge.Session.Shown

/-!
# Steps and replies

What can be asked of a host session, one step at a time, and what is answered.
-/
namespace ScriptBridge.Sample

abbrev Code.Body := List (Stmt (Literal sampleNatives))

/-- Native types that the results of a script can be asked for as. -/
inductive Conversion where
  | i64
  | f64
  | bool
  | string
  deriving DecidableEq, Repr

/-- A global to be set: a native value or a reference by name. -/
inductive GlobalValue where
  | native (t : Param) (a : t.Native)
  | reference (name : String)

inductive Poke where
  | balance (a : Bounded i64)
  | reading (x : Binary64)
  | tag (s : String)

inductive Step where
  | register (name : String) (c : NativeCallable)
  | registerIn (namespaceName name : String) (c : NativeCallable)
  | registerSignature (name : String) (c : NativeCallable) (requested : Signature)
  /-- Binds under one name and keeps the entry point as a global of another. -/
  | bind (name : String) (c : NativeCallable) (global : String)
  | table (saveAs : String) (owner : ObjectType) (entries : List (String × NativeCallable))
  | tableGet (table name : String)
  | attach (table : String)
  | create (reference : String) (t : ObjectType) (o : Payload t) (global : String)
  | setGlobal (name : String) (v : GlobalValue)
  | peek (reference : String)
  | poke (reference : String) (v : Poke)
  | reference (name : String)
  | release (reference : String)
  | dropReference (name : String)
  | restamp (reference : String) (stamp : Literal sampleNatives)
  | nestedPeek (reference : String)
  | nestedPoke (reference : String)
  | exec (body : Code.Body)
  | eval (body : Code.Body) (results : List (Expr (Literal sampleNatives)))
      (conversion : Option Conversion)
  | collect
  | environment
  | statistics
  | config
  | registerType (t : ObjectType) (identifier : String)
  | identity (t : ObjectType)
  | ownerOf (identifier : String)

inductive ShownObject where
  | account (balance : Int) (label : String)
  | sensor (reading : Binary64)
  | tagged (tag : String)

/-- What became of accesses inside a shared access. -/
structure NestedPeek where
  balance : Int
  again : Except BridgeError Int
  exclusive : Except BridgeError Int
  release : Except BridgeError Bool
  live : Bool

/-- What became of accesses inside an exclusive access. -/
structure NestedPoke where
  balance : Int
  shared : Except BridgeError Int
  exclusive : Except BridgeError Int
  release : Except BridgeError Bool
  live : Bool
  rendered : String

inductive Reply where
  | done
  | failed (e : BridgeError)
  | values (vs : List ShownValue)
  | native (a : ShownNative)
  | flag (b : Bool)
  | names (names : List String)
  | table (names : List String) (owner : String)
  | callable (c : Option NativeCallable)
  | object (o : ShownObject)
  | drops (tags : List String)
  | environment (tally : Int) (sink : Binary64)
  | statistics (c : Counters)
  | config (c : Config)
  | registered (i : Identity ObjectType)
  | identity (identifier : Except BridgeError String) (known : Option (Identity ObjectType))
  | owner (known : Option (Identity ObjectType))
  | nestedPeek (r : NestedPeek)
  | nestedPoke (r : NestedPoke)
  /-- The step refers to something the session does not have. -/
  | missing (name : String)

end ScriptBridge.Sample
