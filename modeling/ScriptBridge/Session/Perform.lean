import ScriptBridge.Session.Step

/-!
# Performing steps

A session drives one host over the sample natives. It keeps the references it was given, the method
tables it has built and the constants of the code it ran last, all of which keep objects from being
collected.
-/
namespace ScriptBridge.Sample

abbrev WorldRun := Run sampleNatives

/-- How deep calls nest before the runtime of a session runs out of stack. -/
def callDepth : Nat := 200

structure Reference where
  type : ObjectType
  block : Nat

structure Session where
  config : Config
  world : World
  references : Names Reference := []
  tables : Names (MethodTable sampleNatives) := []
  constants : List Value := []

namespace Session

def start (config : Config) : Except BridgeError Session :=
  match Host.create (N := sampleNatives) config registry {} with
  | .error e => .error e
  | .ok world => .ok { config := config, world := world }

/-- What the session itself keeps from being collected. -/
def held (s : Session) : List Value :=
  (s.references.map fun (_, r) => .userdata r.block) ++ s.constants

/-- The tags of the objects destroyed so far, in ascending order. -/
def drops (w : World) : List String :=
  (w.destroyed.map fun d => tagOf d.type d.object).mergeSort

/-- Runs a computation on the world and answers with its outcome. -/
def answer {α : Type} (s : Session) (code : WorldRun (Except BridgeError α))
    (reply : World → α → Reply) : Reply × Session :=
  let (r, w) := code.run s.world
  let s := { s with world := w }
  match r with
  | .error e => (.failed e, s)
  | .ok a => (reply w a, s)

def done {α : Type} : World → α → Reply := fun _ _ => .done

def withReference (s : Session) (name : String) (f : Reference → Reply × Session) :
    Reply × Session :=
  match s.references.get? name with
  | some r => f r
  | none => (.missing name, s)

def fieldsOf : (t : ObjectType) → Payload t → ShownObject
  | .account, o => .account o.balance.val o.label
  | .sensor, o => .sensor o.reading
  | .stranger, o => .tagged o.tag
  | .ghost, o => .tagged o.tag

/-- Replaces the first field of an object and gives the old one; a value of another type changes
nothing. -/
def pokeObject : (t : ObjectType) → Poke → Payload t → ShownNative × Payload t
  | .account, .balance a, o => (.integer o.balance.val, { o with balance := a })
  | .sensor, .reading x, o => (.double o.reading, { o with reading := x })
  | .stranger, .tag s, o => (.text o.tag, { o with tag := s })
  | .ghost, .tag s, o => (.text o.tag, { o with tag := s })
  | _, _, o => (.absent, o)

def balanceIn (block : Nat) : WorldRun (Except BridgeError Int) :=
  Access.shared (N := sampleNatives) ObjectType.account block fun o : Account => pure o.balance.val

def setBalanceIn (block : Nat) : WorldRun (Except BridgeError Int) :=
  Access.exclusive (N := sampleNatives) ObjectType.account block fun o : Account =>
    pure (o.balance.val, o)

def releaseIn (block : Nat) : WorldRun (Except BridgeError Bool) :=
  Access.release (N := sampleNatives) ObjectType.account block

def liveIn (block : Nat) : WorldRun Bool :=
  Access.isLive (N := sampleNatives) ObjectType.account block

def nestedPeek (block : Nat) : WorldRun (Except BridgeError NestedPeek) :=
  Access.shared (N := sampleNatives) ObjectType.account block fun o : Account => do
    return ⟨o.balance.val, ← balanceIn block, ← setBalanceIn block, ← releaseIn block,
      ← liveIn block⟩

def nestedPoke (block : Nat) : WorldRun (Except BridgeError NestedPoke) :=
  Access.exclusive (N := sampleNatives) ObjectType.account block fun o : Account => do
    let shared ← balanceIn block
    let exclusive ← setBalanceIn block
    let release ← releaseIn block
    let live ← liveIn block
    return (⟨o.balance.val, shared, exclusive, release, live,
      referenceText ObjectType.account.typeName live⟩, o)

/-- The result of a script as a native value, by the conversions of the runtime. -/
def convert (c : Conversion) (v : Value) : Except RuntimeError ShownNative :=
  let refused (target detail : String) : RuntimeError :=
    .conversion v.typeName target (some detail)
  let notNumeric := "expected number or string coercible to number"
  let truncated (x : Binary64) : Except RuntimeError ShownNative :=
    match Codec.floatToInteger? .truncate x with
    | some i => .ok (.integer i.toInt)
    | none => .error (refused "i64" "out of range")
  match c with
  | .i64 =>
    match v with
    | .number x => truncated x
    | _ =>
      match v.coerceInteger?, v.coerceNumber? with
      | some i, _ => .ok (.integer i.toInt)
      | none, some x => truncated x
      | none, none => .error (refused "i64" notNumeric)
  | .f64 =>
    match v.coerceNumber? with
    | some x => .ok (.double x)
    | none => .error (refused "f64" notNumeric)
  | .bool =>
    match v with
    | .nil => .ok (.boolean false)
    | .boolean b => .ok (.boolean b)
    | _ => .ok (.boolean true)
  | .string => v.coerceText.map .text

def load {α : Type} (s : Session) (code : ExceptT BridgeError WorldRun (α × List Value))
    (next : Session → α → Reply × Session) : Reply × Session :=
  let (r, w) := code.run.run s.world
  let s := { s with world := w }
  match r with
  | .error e => (.failed e, s)
  | .ok (a, constants) => next { s with constants := constants } a

def realizeCode (body : Code.Body) (results : List (Expr (Literal sampleNatives))) :
    ExceptT BridgeError WorldRun ((List (Stmt Value) × List (Expr Value)) × List Value) := do
  let body ← realizeBody Literal.create body
  let results ← realizeArgs Literal.create results
  return ((body, results), constantsOfBody body ++ constantsOfArgs results)

def perform (s : Session) : Step → Reply × Session
  | .register name c => s.answer (ScriptBridge.register s.config.codec name c) done
  | .registerIn space name c => s.answer (ScriptBridge.registerIn s.config.codec space name c) done
  | .registerSignature name c requested =>
    s.answer (registerWithSignature s.config.codec name c requested) done
  | .bind name c global =>
    s.answer
      (do
        match ← ScriptBridge.bind s.config.codec name c with
        | .error e => return .error e
        | .ok f =>
          Run.modify fun w => w.setGlobal global f
          return .ok ())
      done
  | .table saveAs owner entries =>
    match MethodTable.build (N := sampleNatives) owner entries with
    | .error e => (.failed e, s)
    | .ok t => (.table t.names t.ownerName, { s with tables := s.tables.put saveAs t })
  | .tableGet table name =>
    match s.tables.get? table with
    | some t => (.callable (t.get? name), s)
    | none => (.missing table, s)
  | .attach table =>
    match s.tables.get? table with
    | some t =>
      s.answer (t.attach s.config.codec) fun _ methods => .names ((methods.map Prod.fst).mergeSort)
    | none => (.missing table, s)
  | .create name t o global =>
    let (r, w) := (createHandle (N := sampleNatives) t o).run s.world
    match r with
    | .error e => (.failed e, { s with world := w })
    | .ok r =>
      let w := w.setGlobal global (.userdata r.block)
      (.native (.reference t.typeName (isLiveNow w t r.block)),
        { s with world := w, references := s.references.put name ⟨t, r.block⟩ })
  | .setGlobal name (.native t a) =>
    s.answer (ScriptBridge.setGlobal (N := sampleNatives) name t a) done
  | .setGlobal name (.reference r) =>
    s.withReference r fun r =>
      (.done, { s with world := s.world.setGlobal name (.userdata r.block) })
  | .peek name =>
    s.withReference name fun r =>
      s.answer (Access.shared r.type r.block fun o => pure (fieldsOf r.type o)) fun _ o => .object o
  | .poke name v =>
    s.withReference name fun r =>
      s.answer (Access.exclusive r.type r.block fun o => pure (pokeObject r.type v o))
        fun _ old => .native old
  | .reference name =>
    s.withReference name fun r =>
      (.native (.reference r.type.typeName (isLiveNow s.world r.type r.block)), s)
  | .release name =>
    s.withReference name fun r => s.answer (Access.release r.type r.block) fun _ b => .flag b
  | .dropReference name =>
    (.done, { s with references := s.references.filter fun (n, _) => n ≠ name })
  | .restamp name stamp =>
    s.withReference name fun r =>
      s.answer
        (do
          let v ← stamp.create
          ExceptT.lift (Literal.restamp r.block v) : ExceptT BridgeError WorldRun Unit)
        done
  | .nestedPeek name =>
    s.withReference name fun r => s.answer (nestedPeek r.block) fun _ p => .nestedPeek p
  | .nestedPoke name =>
    s.withReference name fun r => s.answer (nestedPoke r.block) fun _ p => .nestedPoke p
  | .exec body =>
    s.load (realizeCode body []) fun s (body, _) => s.answer (Host.exec callDepth body) done
  | .eval body results conversion =>
    s.load (realizeCode body results) fun s (body, results) =>
      let (r, w) := (Host.eval callDepth body results).run s.world
      let s := { s with world := w }
      match r, conversion with
      | .error e, _ => (.failed e, s)
      | .ok vs, none => (.values (vs.map (shown w)), s)
      | .ok vs, some c =>
        match convert c (firstOf vs) with
        | .ok a => (.native a, s)
        | .error e => (.failed (.ofRuntime e), s)
  | .collect =>
    let w := s.world.collect s.held
    (.drops (drops w), { s with world := w })
  | .environment => (.environment s.world.captured.tally.val s.world.captured.sink, s)
  | .statistics => (.statistics s.world.counters, s)
  | .config => (.config s.config, s)
  | .registerType t identifier =>
    s.answer (ScriptBridge.registerType (N := sampleNatives) t identifier) fun _ i => .registered i
  | .identity t =>
    let known := s.world.registry.identityOf? t
    (.identity
      (match known with
        | some i => .ok i.identifier
        | none => .error (.unregisteredType t.typeName))
      known, s)
  | .ownerOf identifier => (.owner (s.world.registry.ownerOf? identifier), s)

/-- Closes the host when all references are gone. -/
def close (s : Session) : World := s.world.close

end Session

end ScriptBridge.Sample
