import ScriptBridge.Script.Eval

/-!
# Binding callables

From native callables to functions in scripts: as globals, in named tables, and as methods of
handles. A member can be bound once its type has an identity. Whatever is refused leaves no trace
but, for a namespace that is no table, the entry point that was made for it.
-/
namespace ScriptBridge

variable {N : Natives}

def bind (codec : CodecConfig) (name : String) (c : Callable N) :
    Run N (Except BridgeError Value) :=
  Run.atomic fun s =>
    match c.owner?.filter fun t => (s.registry.identityOf? t).isNone with
    | some t => (.error ((BridgeError.unregisteredType (N.typeName t)).inFunction name), s)
    | none =>
      (.ok (.function s.functions.length),
        ({ s with
          functions := s.functions ++ [.entry ⟨name, c, codec⟩]
          counters.entryPoints := s.counters.entryPoints + 1 } : State N).emit
          (.bound name c.shape c.signature))

/-- As `bind`, for a callable that has to have the signature `requested`. -/
def bindWithSignature (codec : CodecConfig) (name : String) (c : Callable N) (requested : Signature) :
    Run N (Except BridgeError Value) :=
  if c.signature = requested then bind codec name c
  else
    pure (.error
      { cause := .signatureMismatch requested.text c.signature.text, function := some name })

def register (codec : CodecConfig) (name : String) (c : Callable N) :
    Run N (Except BridgeError Unit) := do
  match ← bind codec name c with
  | .error e => return .error e
  | .ok f =>
    Run.modify fun s => s.setGlobal name f
    return .ok ()

def registerWithSignature (codec : CodecConfig) (name : String) (c : Callable N)
    (requested : Signature) : Run N (Except BridgeError Unit) := do
  match ← bindWithSignature codec name c requested with
  | .error e => return .error e
  | .ok f =>
    Run.modify fun s => s.setGlobal name f
    return .ok ()

/-- The table that a namespace names; a new one if there is nothing under the name. -/
def namespaceTable (name : String) : Run N (Except BridgeError Nat) := Run.atomic fun s =>
  match s.global name with
  | .table id => (.ok id, s)
  | .nil =>
    let id := s.tables.length
    (.ok id, ({ s with tables := s.tables ++ [[]] } : State N).setGlobal name (.table id))
  | v => (.error (.ofRuntime (.conversion v.typeName "table" none)), s)

def registerIn (codec : CodecConfig) (namespaceName name : String) (c : Callable N) :
    Run N (Except BridgeError Unit) := do
  match ← bind codec name c with
  | .error e => return .error e
  | .ok f =>
    match ← namespaceTable namespaceName with
    | .error e => return .error e
    | .ok id =>
      Run.modify fun s => s.setTable id ((s.table id).put name f)
      return .ok ()

def setGlobal (name : String) (t : NativeType N.ObjectType) (a : t.Native) :
    Run N (Except BridgeError Unit) :=
  match Codec.encode t a with
  | .error e => pure (.error e)
  | .ok v => do
    Run.modify fun s => s.setGlobal name v
    return .ok ()

def registerType (t : N.ObjectType) (identifier : String) :
    Run N (Except BridgeError (Identity N.ObjectType)) := Run.atomic fun s =>
  match s.registry.register N.typeName t identifier with
  | .error cause => (.error { cause := cause }, s)
  | .ok (identity, registry) =>
    let isNew := (s.registry.identityOf? t).isNone
    let s := { s with registry := registry }
    (.ok identity, if isNew then s.emit (.typeRegistered (N.typeName t) identifier) else s)

end ScriptBridge
