import ScriptBridge.Proofs.Gates.Entry
import ScriptBridge.Proofs.Host.Tables
import ScriptBridge.Proofs.Identity.Registration
import ScriptBridge.Proofs.Objects.Step

/-!
# Refused operations

When an operation that wires a host is refused, with which error, and what is left of it: nothing
but an object that could not be given a handle, which is destroyed, and the entry point that was
made for a namespace that is no table. What is refused while wiring and what fails in calls are told
apart by the causes.
-/
namespace ScriptBridge
set_option autoImplicit false

variable {N : Natives} {α : Type}

/-- The error that a computation ends with. -/
def Run.refusal? (m : Run N (Except BridgeError α)) (s : State N) : Option BridgeError :=
  match (m.run s).1 with
  | .error e => some e
  | .ok _ => none

theorem Run.forget_run (m : Run N α) (s : State N) : (m.forget.run s).2 = (m.run s).2 := by
  rw [forget, run_bind]
  rfl

/-- Two states with the same tables, the globals among them, and the same method tables, identities,
handles and functions but for new ones. -/
structure State.SameWiring (s s' : State N) : Prop where
  tables : s'.tables = s.tables
  methods : s'.methods = s.methods
  registry : s'.registry = s.registry
  blocks : s'.blocks = s.blocks
  loans : s'.loans = s.loans
  captured : s'.captured = s.captured
  functions : s.functions <+: s'.functions

namespace Operation

/-- The error of an operation that wires the host, if it is refused. Attaching begins when the table
has been built. -/
def refusal? (s : State N) : Operation N → Option BridgeError
  | bind codec name c => (ScriptBridge.bind codec name c).refusal? s
  | register codec name c => (ScriptBridge.register codec name c).refusal? s
  | registerWithSignature codec name c requested =>
    (ScriptBridge.registerWithSignature codec name c requested).refusal? s
  | registerIn codec namespaceName name c =>
    (ScriptBridge.registerIn codec namespaceName name c).refusal? s
  | attach codec owner entries =>
    match MethodTable.build owner entries with
    | .error _ => none
    | .ok t => (t.attach codec).refusal? s
  | registerType t identifier => (ScriptBridge.registerType t identifier).refusal? s
  | setGlobal name t a => (ScriptBridge.setGlobal name t a).refusal? s
  | create t o => (createHandle t o).refusal? s
  | _ => none

/-- The callable that an operation binds, and its name. -/
def binding? : Operation N → Option (String × Callable N)
  | bind _ name c | register _ name c | registerIn _ _ name c => some (name, c)
  | registerWithSignature _ name c requested =>
    if c.signature = requested then some (name, c) else none
  | _ => none

/-- When an operation is refused, with which error, and the state after. -/
inductive Refused (s : State N) : Operation N → BridgeError → State N → Prop where
  | unregistered {op : Operation N} {name : String} {c : Callable N} {t : N.ObjectType}
      (hBinding : op.binding? = some (name, c)) (hOwner : c.owner? = some t)
      (hNone : s.registry.identityOf? t = none) :
      Refused s op ((BridgeError.unregisteredType (N.typeName t)).inFunction name) s
  | mismatched {codec : CodecConfig} {name : String} {c : Callable N} {requested : Signature}
      (h : c.signature ≠ requested) :
      Refused s (.registerWithSignature codec name c requested)
        { cause := .signatureMismatch requested.text c.signature.text, function := some name } s
  | occupied {codec : CodecConfig} {namespaceName name : String} {c : Callable N}
      (hBindable : c.Bindable s) (hNil : s.global namespaceName ≠ .nil)
      (hTable : ∀ id, s.global namespaceName ≠ .table id) :
      Refused s (.registerIn codec namespaceName name c)
        (.ofRuntime (.conversion (s.global namespaceName).typeName "table" none))
        (s.withEntry ⟨name, c, codec⟩)
  | unknownOwner {codec : CodecConfig} {owner : N.ObjectType}
      {entries : List (String × Callable N)} (h : s.registry.identifier? owner = none) :
      Refused s (.attach codec owner entries) (.unregisteredType (N.typeName owner)) s
  | conflict {t : N.ObjectType} {identifier : String} {cause : Cause}
      (h : s.registry.Refuses N.typeName t identifier cause) :
      Refused s (.registerType t identifier) { cause := cause } s
  | unencodable {name : String} {t : NativeType N.ObjectType} {a : t.Native} {e : BridgeError}
      (h : Codec.encode t a = .error e) : Refused s (.setGlobal name t a) e s
  | unstamped {t : N.ObjectType} {o : N.Payload t} (h : s.registry.identifier? t = none) :
      Refused s (.create t o) (.unregisteredType (N.typeName t)) (s.dropObject t o)

variable {s : State N} {op : Operation N} {err : BridgeError}

section Ends

variable {m : Run N (Except BridgeError α)} {s' : State N}

theorem not_refused {a : α} (hRefusal : op.refusal? s = m.refusal? s)
    (hRun : m.run s = (.ok a, s')) : op.refusal? s ≠ some err := by
  rw [hRefusal, Run.refusal?, hRun]
  nofun

theorem refused_of_run {e : BridgeError} (hRefusal : op.refusal? s = m.refusal? s)
    (hPerform : op.perform = m.forget) (hRun : m.run s = (.error e, s'))
    (hRefused : Refused s op e s') (h : op.refusal? s = some err) :
    Refused s op err (op.perform.run s).2 := by
  rw [hRefusal, Run.refusal?, hRun] at h
  obtain rfl := Option.some.inj h
  rw [hPerform, Run.forget_run, hRun]
  exact hRefused

end Ends

section Runs

variable {codec : CodecConfig} {name namespaceName : String} {c : Callable N}

theorem run_register_bindable (h : c.Bindable s) :
    (ScriptBridge.register codec name c).run s =
      (.ok (), (s.withEntry ⟨name, c, codec⟩).setGlobal name (.function s.functions.length)) := by
  rw [ScriptBridge.register, Run.run_bind, run_bind_bindable h]
  rfl

theorem run_register_unregistered {t : N.ObjectType} (hOwner : c.owner? = some t)
    (hNone : s.registry.identityOf? t = none) :
    (ScriptBridge.register codec name c).run s =
      (.error ((BridgeError.unregisteredType (N.typeName t)).inFunction name), s) := by
  rw [ScriptBridge.register, Run.run_bind, run_bind_unregistered hOwner hNone]
  rfl

theorem registerWithSignature_of_eq :
    ScriptBridge.registerWithSignature codec name c c.signature =
      ScriptBridge.register codec name c := by
  rw [ScriptBridge.registerWithSignature, bindWithSignature, if_pos rfl]
  rfl

theorem run_registerWithSignature_mismatched {requested : Signature} (h : c.signature ≠ requested) :
    (ScriptBridge.registerWithSignature codec name c requested).run s =
      (.error
        { cause := .signatureMismatch requested.text c.signature.text, function := some name },
        s) := by
  rw [ScriptBridge.registerWithSignature, bindWithSignature, if_neg h]
  rfl

theorem run_registerIn_unregistered {t : N.ObjectType} (hOwner : c.owner? = some t)
    (hNone : s.registry.identityOf? t = none) :
    (ScriptBridge.registerIn codec namespaceName name c).run s =
      (.error ((BridgeError.unregisteredType (N.typeName t)).inFunction name), s) := by
  rw [ScriptBridge.registerIn, Run.run_bind, run_bind_unregistered hOwner hNone]
  rfl

theorem run_namespaceTable (s : State N) (name : String) :
    (∃ id s', (namespaceTable name).run s = (.ok id, s')) ∨
    s.global name ≠ .nil ∧ (∀ id, s.global name ≠ .table id) ∧ (namespaceTable name).run s =
      (.error (.ofRuntime (.conversion (s.global name).typeName "table" none)), s) := by
  rw [namespaceTable, Run.run_atomic]
  split
  · exact .inl ⟨_, _, rfl⟩
  · exact .inl ⟨_, _, rfl⟩
  · rename_i hTable hNil
    exact .inr ⟨hNil, hTable, rfl⟩

/-- The namespace is looked at once the entry point is made. -/
theorem run_registerIn_bindable (h : c.Bindable s) :
    (∃ s', (ScriptBridge.registerIn codec namespaceName name c).run s = (.ok (), s')) ∨
    s.global namespaceName ≠ .nil ∧ (∀ id, s.global namespaceName ≠ .table id) ∧
      (ScriptBridge.registerIn codec namespaceName name c).run s =
        (.error (.ofRuntime (.conversion (s.global namespaceName).typeName "table" none)),
          s.withEntry ⟨name, c, codec⟩) := by
  rw [ScriptBridge.registerIn, Run.run_bind, run_bind_bindable h]
  simp only [Run.run_bind]
  rcases run_namespaceTable (s.withEntry ⟨name, c, codec⟩) namespaceName with
    ⟨id, s', hSpace⟩ | ⟨hNil, hTable, hSpace⟩
  · rw [hSpace]
    exact .inl ⟨_, rfl⟩
  · rw [hSpace]
    exact .inr ⟨hNil, hTable, rfl⟩

end Runs

theorem refused_register {codec : CodecConfig} {name : String} {c : Callable N}
    (hBinding : op.binding? = some (name, c))
    (hRefusal : op.refusal? s = (ScriptBridge.register codec name c).refusal? s)
    (hPerform : op.perform = (ScriptBridge.register codec name c).forget)
    (h : op.refusal? s = some err) : Refused s op err (op.perform.run s).2 := by
  rcases c.bindable_or s with hBindable | ⟨t, hOwner, hNone⟩
  · exact absurd h (not_refused hRefusal (run_register_bindable hBindable))
  · exact refused_of_run hRefusal hPerform (run_register_unregistered hOwner hNone)
      (.unregistered hBinding hOwner hNone) h

theorem refused_attach {codec : CodecConfig} {owner : N.ObjectType}
    {entries : List (String × Callable N)}
    (h : refusal? s (.attach codec owner entries) = some err) :
    Refused s (.attach codec owner entries) err ((attach codec owner entries).perform.run s).2 := by
  cases hBuild : MethodTable.build owner entries with
  | error e =>
    rw [refusal?, hBuild] at h
    cases h
  | ok t =>
    obtain ⟨rfl, hTable⟩ := MethodTable.of_build hBuild
    have hRefusal : refusal? s (.attach codec owner entries) =
        (MethodTable.attach codec ⟨owner, entries⟩).refusal? s := by
      rw [refusal?, hBuild]
    have hPerform : (attach codec owner entries).perform =
        (MethodTable.attach codec ⟨owner, entries⟩).forget := by
      rw [perform, hBuild]
    cases hIdentifier : s.registry.identifier? owner with
    | none =>
      exact refused_of_run hRefusal hPerform (MethodTable.run_attach_unregistered hIdentifier)
        (.unknownOwner hIdentifier) h
    | some identifier =>
      exact absurd h
        (not_refused hRefusal (MethodTable.run_attach_registered hTable hIdentifier))

/-- Whatever is refused, is refused for one of the reasons. -/
theorem refused (h : op.refusal? s = some err) : Refused s op err (op.perform.run s).2 := by
  cases op with
  | bind codec name c =>
    rcases c.bindable_or s with hBindable | ⟨t, hOwner, hNone⟩
    · exact absurd h (not_refused rfl (run_bind_bindable hBindable codec name))
    · exact refused_of_run rfl rfl (run_bind_unregistered hOwner hNone codec name)
        (.unregistered rfl hOwner hNone) h
  | register codec name c => exact refused_register rfl rfl rfl h
  | registerWithSignature codec name c requested =>
    by_cases hSignature : c.signature = requested
    · subst hSignature
      have hRefusal : (registerWithSignature codec name c c.signature).refusal? s =
          (ScriptBridge.register codec name c).refusal? s := by
        rw [refusal?, registerWithSignature_of_eq]
      have hPerform : (registerWithSignature codec name c c.signature).perform =
          (ScriptBridge.register codec name c).forget := by
        rw [perform, registerWithSignature_of_eq]
      exact refused_register (if_pos rfl) hRefusal hPerform h
    · exact refused_of_run rfl rfl (run_registerWithSignature_mismatched hSignature)
        (.mismatched hSignature) h
  | registerIn codec namespaceName name c =>
    rcases c.bindable_or s with hBindable | ⟨t, hOwner, hNone⟩
    · rcases run_registerIn_bindable hBindable with ⟨s', hRun⟩ | ⟨hNil, hTable, hRun⟩
      · exact absurd h (not_refused rfl hRun)
      · exact refused_of_run rfl rfl hRun (.occupied hBindable hNil hTable) h
    · exact refused_of_run rfl rfl (run_registerIn_unregistered hOwner hNone)
        (.unregistered rfl hOwner hNone) h
  | attach codec owner entries => exact refused_attach h
  | registerType t identifier =>
    cases hRegister : s.registry.register N.typeName t identifier with
    | error cause =>
      exact refused_of_run rfl rfl (registerType_refused hRegister)
        (.conflict (Registry.refuses_of_register hRegister)) h
    | ok accepted =>
      obtain ⟨s', hRun, -⟩ := registerType_accepted hRegister
      exact absurd h (not_refused rfl hRun)
  | setGlobal name t a =>
    cases hEncode : Codec.encode t a with
    | error e =>
      have hRun : (ScriptBridge.setGlobal name t a).run s = (.error e, s) := by
        rw [ScriptBridge.setGlobal, hEncode]
        rfl
      exact refused_of_run rfl rfl hRun (.unencodable hEncode) h
    | ok v =>
      have hRun : (ScriptBridge.setGlobal name t a).run s = (.ok (), s.setGlobal name v) := by
        rw [ScriptBridge.setGlobal, hEncode]
        rfl
      exact absurd h (not_refused rfl hRun)
  | create t o =>
    cases hIdentifier : s.registry.identifier? t with
    | none =>
      exact refused_of_run rfl rfl (run_createHandle_unregistered hIdentifier)
        (.unstamped hIdentifier) h
    | some identifier =>
      exact absurd h (not_refused rfl (run_createHandle_registered hIdentifier))
  | _ => cases h

namespace Refused

variable {s' : State N}

theorem sameWiring (h : Refused s op err s') : s.SameWiring s' := by
  cases h with
  | occupied => exact ⟨rfl, rfl, rfl, rfl, rfl, rfl, List.prefix_append _ _⟩
  | _ => exact ⟨rfl, rfl, rfl, rfl, rfl, rfl, List.prefix_refl _⟩

theorem ends_eq (h : Refused s op err s') :
    s' = s ∨ (∃ t o, op = .create t o ∧ s' = s.dropObject t o) ∨
      ∃ codec namespaceName name c, op = .registerIn codec namespaceName name c ∧
        s.global namespaceName ≠ .nil ∧ (∀ id, s.global namespaceName ≠ .table id) ∧
        s' = s.withEntry ⟨name, c, codec⟩ := by
  cases h with
  | occupied hBindable hNil hTable =>
    exact .inr (.inr ⟨_, _, _, _, rfl, hNil, hTable, rfl⟩)
  | unstamped => exact .inr (.inl ⟨_, _, rfl, rfl⟩)
  | _ => exact .inl rfl

theorem of_create {t : N.ObjectType} {o : N.Payload t} (h : Refused s (.create t o) err s') :
    s' = s.dropObject t o := by
  cases h with
  | unregistered hBinding => cases hBinding
  | unstamped => rfl

theorem of_attach {codec : CodecConfig} {owner : N.ObjectType}
    {entries : List (String × Callable N)} (h : Refused s (.attach codec owner entries) err s') :
    err = .unregisteredType (N.typeName owner) ∧ s.registry.identifier? owner = none ∧ s' = s := by
  cases h with
  | unregistered hBinding => cases hBinding
  | unknownOwner hNone => exact ⟨rfl, hNone, rfl⟩

theorem isRegistration (h : Refused s op err s')
    (hIn : ∀ codec namespaceName name c, op ≠ .registerIn codec namespaceName name c)
    (hSet : ∀ name t a, op ≠ .setGlobal name t a) : err.cause.isRegistration = true := by
  cases h with
  | unregistered =>
    rw [BridgeError.cause_inFunction]
    rfl
  | occupied => exact absurd rfl (hIn _ _ _ _)
  | conflict h => cases h <;> rfl
  | unencodable => exact absurd rfl (hSet _ _ _)
  | _ => rfl

end Refused

end Operation

theorem Cause.OfBody.isCall {c : Cause} (h : c.OfBody) : c.isCall = true := by
  cases c <;> first | rfl | exact h.elim

theorem Cause.OfGate.isCall {c : Cause} (h : c.OfGate) : c.isCall = true := by
  cases c <;> first | rfl | exact h.elim

/-- A member that is bound is never refused for its type: no identity is taken back. -/
theorem EntryPoint.isCall_of_error {s : State N} (hs : Reachable s) {e : EntryPoint N}
    (he : .entry e ∈ s.functions) {depth : Nat} {args : List Value} {err : BridgeError}
    (h : ((e.enter (callWith depth) args).run s).1 = .error err) : err.cause.isCall = true := by
  obtain ⟨answer, hRule⟩ := GateRule.exists_of_identity args (hs.wired e he)
  cases answer with
  | error gate =>
    rw [(enter_refused (callWith depth) hRule.verdict_eq).1] at h
    cases h
    rw [BridgeError.cause_inFunction]
    exact hRule.ofGate.isCall
  | ok admitted =>
    exact ((enter_admitted (callWith_quiet depth) hRule.verdict_eq).1 err h).isCall

/-- A refused operation leaves the host as it was: the globals, all tables, the method tables, the
identities and the handles. An object that was to get a handle is destroyed; and only for a
namespace that is no table, an entry point has been made. Attaching is refused for the owner of the
table alone, before any entry is bound. What is refused is told from what fails in calls: by causes
of wiring there, except for namespaces and values of globals, and never by such a cause here. -/
theorem refused_leaves_host {s : State N} (hs : Reachable s) :
    (∀ (op : Operation N) (err : BridgeError), op.refusal? s = some err →
      let s' := (op.perform.run s).2
      s.SameWiring s' ∧
      (∀ t o, op = .create t o → s'.destroyed = s.destroyed ++ [⟨t, s.serials, o⟩]) ∧
      (∀ codec owner entries, op = .attach codec owner entries →
        err = .unregisteredType (N.typeName owner) ∧ s.registry.identifier? owner = none ∧ s' = s) ∧
      (s'.counters = s.counters ∨
        ∃ codec namespaceName name c, op = .registerIn codec namespaceName name c ∧
          s.global namespaceName ≠ .nil ∧ (∀ id, s.global namespaceName ≠ .table id) ∧
          s' = s.withEntry ⟨name, c, codec⟩) ∧
      ((∀ codec namespaceName name c, op ≠ .registerIn codec namespaceName name c) →
        (∀ name t a, op ≠ .setGlobal name t a) → err.cause.isRegistration = true)) ∧
    ∀ e, .entry e ∈ s.functions → ∀ depth args err,
      ((e.enter (callWith depth) args).run s).1 = .error err → err.cause.isCall = true := by
  refine ⟨fun op err h => ?_, fun e he depth args err h => EntryPoint.isCall_of_error hs he h⟩
  have hRefused := Operation.refused h
  refine ⟨hRefused.sameWiring, ?create, ?attach, ?counters, hRefused.isRegistration⟩
  case create =>
    rintro t o rfl
    rw [hRefused.of_create]
    rfl
  case attach =>
    rintro codec owner entries rfl
    exact hRefused.of_attach
  case counters =>
    rcases hRefused.ends_eq with hSame | ⟨t, o, rfl, hDropped⟩ | hEntry
    · exact .inl (congrArg State.counters hSame)
    · exact .inl ((congrArg State.counters hDropped).trans rfl)
    · exact .inr hEntry

open Sample in
theorem refused_leaves_host_deposit :
    let s := Sample.accountHost "deposit" Sample.deposit
    let e : EntryPoint sampleNatives := ⟨"deposit", Sample.deposit, {}⟩
    let attach : Operation sampleNatives := .attach {} ObjectType.sensor [("read", Sample.read)]
    let library : Operation sampleNatives := .registerIn {} "print" "deposit" Sample.deposit
    Reachable s ∧
      attach.refusal? s = some (.unregisteredType (ObjectType.typeName .sensor)) ∧
      (attach.perform.run s).2 = s ∧
      library.refusal? s = some (.runtime "error converting Lua function to table") ∧
      s.SameWiring (library.perform.run s).2 ∧
      ((e.enter (callWith 0) []).run s).1 = .error ((BridgeError.arity 2 0).inFunction "deposit") ∧
      (Cause.arity 2 0).isCall = true := by
  intro s e attach library
  have hs : Reachable s := (Sample.accountHost_atRest _ _).reachable
  have he : .entry e ∈ s.functions := List.mem_cons_of_mem _ List.mem_cons_self
  obtain ⟨hRefused, hCalls⟩ := refused_leaves_host hs
  obtain ⟨-, -, hAttach, -⟩ := hRefused attach _ rfl
  obtain ⟨-, -, hSame⟩ := hAttach _ _ _ rfl
  obtain ⟨hLibrary, -⟩ := hRefused library _ rfl
  exact ⟨hs, rfl, hSame, rfl, hLibrary, rfl, hCalls e he 0 [] _ rfl⟩

end ScriptBridge
