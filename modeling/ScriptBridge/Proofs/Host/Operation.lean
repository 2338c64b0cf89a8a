import ScriptBridge.Proofs.Run.Composable
import ScriptBridge.Sample.Callables
import ScriptBridge.Script.Literal

/-!
# Operations on a host

What host code can do with a host, one operation at a time: wire callables, types and tables, create
objects and values, access objects, run scripts and collect garbage. An operation that runs code
says how deep its calls may nest. A state is `AtRest` if it is left by a sequence of operations; it
is `Reachable` if an operation comes by it, at its end or anywhere on the way.
-/
namespace ScriptBridge
set_option autoImplicit false

variable {N : Natives}

inductive Operation (N : Natives) where
  | bind (codec : CodecConfig) (name : String) (c : Callable N)
  | register (codec : CodecConfig) (name : String) (c : Callable N)
  | registerWithSignature (codec : CodecConfig) (name : String) (c : Callable N)
      (requested : Signature)
  | registerIn (codec : CodecConfig) (namespaceName name : String) (c : Callable N)
  | attach (codec : CodecConfig) (owner : N.ObjectType) (entries : List (String × Callable N))
  | registerType (t : N.ObjectType) (identifier : String)
  | setGlobal (name : String) (t : NativeType N.ObjectType) (a : t.Native)
  | create (t : N.ObjectType) (o : N.Payload t)
  /-- Makes a script value: a table, foreign userdata, a handle under any stamp. -/
  | make (l : Literal N)
  | restamp (block : Nat) (stamp : Value)
  /-- Runs native code of the host: object accesses inside one another, and calls of script
  functions. -/
  | native (depth : Nat) (p : Program N Unit)
  | exec (depth : Nat) (body : List (Stmt Value))
  | eval (depth : Nat) (body : List (Stmt Value)) (results : List (Expr Value))
  | call (depth : Nat) (f : Value) (args : List Value)
  | collect (held : List Value)

def Run.forget {α : Type} (m : Run N α) : Run N Unit := do
  let _ ← m
  return ()

def Operation.perform : Operation N → Run N Unit
  | bind codec name c => (ScriptBridge.bind codec name c).forget
  | register codec name c => (ScriptBridge.register codec name c).forget
  | registerWithSignature codec name c requested =>
    (ScriptBridge.registerWithSignature codec name c requested).forget
  | registerIn codec namespaceName name c =>
    (ScriptBridge.registerIn codec namespaceName name c).forget
  | attach codec owner entries =>
    match MethodTable.build owner entries with
    | .error _ => pure ()
    | .ok t => (t.attach codec).forget
  | registerType t identifier => (ScriptBridge.registerType t identifier).forget
  | setGlobal name t a => (ScriptBridge.setGlobal name t a).forget
  | create t o => (createHandle t o).forget
  | make l => l.create.run.forget
  | restamp block stamp => Literal.restamp block stamp
  | native depth p => p.run (callWith depth)
  | exec depth body => (Host.exec depth body).forget
  | eval depth body results => (Host.eval depth body results).forget
  | call depth f args => (Host.call depth f args).forget
  | collect held => Host.collectGarbage held

inductive Registry.Grown : Registry N.ObjectType → Prop where
  | empty : Grown {}
  | register {r r' : Registry N.ObjectType} {t : N.ObjectType} {identifier : String}
      {i : Identity N.ObjectType} (h : Grown r)
      (hr : r.register N.typeName t identifier = .ok (i, r')) : Grown r'

inductive AtRest : State N → Prop where
  | created {config : Config} {r : Registry N.ObjectType} {captured : N.Captured} {s : State N}
      (hr : r.Grown) (hs : Host.create config r captured = .ok s) : AtRest s
  | performed {s : State N} (h : AtRest s) (op : Operation N) : AtRest (op.perform.run s).2

inductive Reachable : State N → Prop where
  | passed {s s' : State N} {op : Operation N} {marks : List (Mark N)} (h : AtRest s)
      (hp : op.perform.Passes s marks s') : Reachable s'

theorem AtRest.reachable {s : State N} (h : AtRest s) : Reachable s :=
  .passed h (.here (Operation.perform (.exec 0 [])) s)

/-- A host to try statements on: a member bound for accounts, and one account. -/
def Sample.accountHost (name : String) (c : NativeCallable) : State sampleNatives :=
  let s : State sampleNatives :=
    (Host.fresh StandardLibrary.all {} ({} : Captured)).emit (.hostCreated [] none)
  let s := ((Operation.registerType ObjectType.account "Account").perform.run s).2
  let s := ((Operation.bind {} name c).perform.run s).2
  ((Operation.create ObjectType.account (⟨"first", .wrap _ 5, "savings"⟩ : Account)).perform.run s).2

theorem Sample.accountHost_atRest (name : String) (c : NativeCallable) :
    AtRest (accountHost name c) := by
  have hFresh : Host.create {} {} ({} : Captured) = .ok (_ : State sampleNatives) := rfl
  exact .performed (.performed (.performed (.created .empty hFresh) _) _) _

/-- A composable property that all calls have. -/
structure Calling (P : ⦃α : Type⦄ → Run N α → Prop) : Prop extends Composable P where
  callWith (depth : Nat) (f : Value) (args : List Value) : P (ScriptBridge.callWith depth f args)

theorem Compositional.calling {P : ⦃α : Type⦄ → Run N α → Prop} (h : Compositional P) :
    Calling P where
  toComposable := h.toComposable
  callWith := h.callWith

/-- The operation binds callables. -/
def Operation.Binds : Operation N → Prop
  | bind .. | register .. | registerWithSignature .. | registerIn .. | attach .. => True
  | _ => False

/-- A property that everything hosts do has, but for binding callables, publishing method tables,
setting stamps and collecting garbage. -/
structure Hosting (P : ⦃α : Type⦄ → Run N α → Prop) : Prop extends Calling P where
  space (name : String) : P (namespaceTable (N := N) name)
  entered (table : Nat) (name : String) (v : Value) :
    P (Run.modify (N := N) fun s => s.setTable table ((s.table table).put name v))
  typed (t : N.ObjectType) (identifier : String) : P (registerType t identifier)
  created (t : N.ObjectType) (o : N.Payload t) : P (createHandle t o)
  table : P (Run.addTable (N := N) [])
  inert : P (Run.addFunction (N := N) .inert)
  unstamped : P (Run.addBlock (N := N) ⟨.nil, none⟩)

/-- As `Hosting`, with binding callables. -/
structure Binding (P : ⦃α : Type⦄ → Run N α → Prop) : Prop extends Hosting P where
  bound (codec : CodecConfig) (name : String) (c : Callable N) :
    P (ScriptBridge.bind codec name c)

/-- As `Binding`, with publishing method tables. -/
structure Wiring (P : ⦃α : Type⦄ → Run N α → Prop) : Prop extends Binding P where
  attached (identifier : String) (methods : Names Value) :
    P (Run.modify (N := N) fun s => { s with methods := s.methods.put identifier methods })
  told (identifier : String) (size : Nat) : P (Run.emit (N := N) (.methodsAttached identifier size))

/-- As `Wiring`, with setting stamps: only collecting garbage is left out. -/
structure HostWide (P : ⦃α : Type⦄ → Run N α → Prop) : Prop extends Wiring P where
  foreign (stamp : Value) : P (Run.addBlock (N := N) ⟨stamp, none⟩)
  restamped (block : Nat) (stamp : Value) : P (Literal.restamp (N := N) block stamp)

/-- Creating the literal sets no stamp but those of new handles. -/
def Literal.Unstamped : Literal N → Prop
  | userdata (some _) => False
  | handle _ _ (some _) => False
  | _ => True

namespace Hosting

variable {P : ⦃α : Type⦄ → Run N α → Prop} {α : Type}

theorem forget (h : Hosting P) {m : Run N α} (hm : P m) : P m.forget :=
  h.bind hm fun _ => h.pure ()

theorem setGlobal (h : Hosting P) (name : String) (t : NativeType N.ObjectType) (a : t.Native) :
    P (setGlobal name t a) := by
  unfold ScriptBridge.setGlobal
  split
  · exact h.pure _
  · exact h.bind (h.assign _ _) fun _ => h.pure _

theorem except (h : Hosting P) {β : Type} {m : ExceptT BridgeError (Run N) α}
    {f : α → ExceptT BridgeError (Run N) β} (hm : P m.run) (hf : ∀ a, P (f a).run) :
    P (m >>= f).run := by
  refine h.bind hm fun r => ?_
  cases r with
  | ok a => exact hf a
  | error e => exact h.pure _

theorem lift (h : Hosting P) {m : Run N α} (hm : P m) :
    P (ExceptT.lift m : ExceptT BridgeError (Run N) α).run :=
  h.bind hm fun _ => h.pure _

theorem literal (h : Hosting P) {l : Literal N} (hl : l.Unstamped) : P l.create.run := by
  cases l with
  | plain v => exact h.pure _
  | table => exact h.except (h.lift h.table) fun _ => h.pure _
  | function => exact h.lift h.inert
  | userdata stamp =>
    cases stamp with
    | none => exact h.except (h.lift h.unstamped) fun _ => h.pure _
    | some stamp => exact hl.elim
  | handle t o stamp =>
    cases stamp with
    | none => exact h.except (h.created t o) fun _ => h.pure _
    | some stamp => exact hl.elim

theorem anyLiteral (h : Hosting P) (hForeign : ∀ stamp, P (Run.addBlock (N := N) ⟨stamp, none⟩))
    (hRestamped : ∀ block stamp, P (Literal.restamp (N := N) block stamp)) (l : Literal N) :
    P l.create.run := by
  induction l using Literal.create.induct with
  | case5 stamp ih =>
    exact h.except ih fun v => h.except (h.lift (hForeign v)) fun _ => h.pure _
  | case7 t o stamp ih =>
    refine h.except (h.created t o) fun r => h.except ih fun v => ?_
    exact h.except (h.lift (hRestamped _ v)) fun _ => h.pure _
  | _ => exact h.literal True.intro

theorem enterHost (h : Hosting P) {code : Raising N α} (hc : P code.run) :
    P (Host.enter code) :=
  h.bind hc fun _ => h.read _

/-- Every operation, if binding callables, setting stamps and collecting garbage have the property
where they are meant. -/
theorem hostOperation (h : Hosting P) (op : Operation N) (hBinds : op.Binds → P op.perform)
    (hMake : ∀ l, op = .make l → P l.create.run)
    (hRestamp : ∀ block stamp, op = .restamp block stamp → P (Literal.restamp (N := N) block stamp))
    (hCollect : ∀ held, op = .collect held → P (Host.collectGarbage (N := N) held)) :
    P op.perform := by
  cases op with
  | registerType t identifier => exact h.forget (h.typed _ _)
  | setGlobal name t a => exact h.forget (h.setGlobal _ _ _)
  | create t o => exact h.forget (h.created _ _)
  | make l => exact h.forget (hMake l rfl)
  | restamp block stamp => exact hRestamp block stamp rfl
  | native depth p => exact h.program (h.callWith depth) p
  | exec depth body => exact h.forget (h.enterHost (h.execBody (h.callWith depth) body))
  | eval depth body results =>
    refine h.forget (h.enterHost ?_)
    have hResults := h.evalArgs (h.callWith depth) results
    exact h.andThen (h.execBody (h.callWith depth) body) fun _ => hResults
  | call depth f args => exact h.forget (h.enterHost (h.callWith depth f args))
  | collect held => exact hCollect held rfl
  | _ => exact hBinds True.intro

end Hosting

namespace Binding

variable {P : ⦃α : Type⦄ → Run N α → Prop}

theorem bindWithSignature (h : Binding P) (codec : CodecConfig) (name : String) (c : Callable N)
    (requested : Signature) : P (bindWithSignature codec name c requested) := by
  unfold ScriptBridge.bindWithSignature
  split
  · exact h.bound _ _ _
  · exact h.pure _

theorem register (h : Binding P) (codec : CodecConfig) (name : String) (c : Callable N) :
    P (register codec name c) := by
  refine h.bind (h.bound _ _ _) fun r => ?_
  cases r with
  | error e => exact h.pure _
  | ok f => exact h.bind (h.assign _ _) fun _ => h.pure _

theorem registerWithSignature (h : Binding P) (codec : CodecConfig) (name : String)
    (c : Callable N) (requested : Signature) :
    P (registerWithSignature codec name c requested) := by
  refine h.bind (h.bindWithSignature _ _ _ _) fun r => ?_
  cases r with
  | error e => exact h.pure _
  | ok f => exact h.bind (h.assign _ _) fun _ => h.pure _

theorem registerIn (h : Binding P) (codec : CodecConfig) (namespaceName name : String)
    (c : Callable N) : P (registerIn codec namespaceName name c) := by
  refine h.bind (h.bound _ _ _) fun r => ?_
  cases r with
  | error e => exact h.pure _
  | ok f =>
    refine h.bind (h.space _) fun r => ?_
    cases r with
    | error e => exact h.pure _
    | ok table => exact h.bind (h.entered _ _ _) fun _ => h.pure _

theorem bindEntries (h : Binding P) (codec : CodecConfig) (entries : List (String × Callable N))
    (methods : Names Value) : P (MethodTable.bindEntries codec methods entries) := by
  induction entries generalizing methods with
  | nil => exact h.pure _
  | cons entry rest ih =>
    refine h.bind (h.bound _ _ _) fun r => ?_
    cases r with
    | error e => exact h.pure _
    | ok f => exact ih _

/-- Every operation, if attaching tables, setting stamps and collecting garbage have the property
where they are meant. -/
theorem operation (h : Binding P) (op : Operation N)
    (hAttach : ∀ codec owner entries, op = .attach codec owner entries → P op.perform)
    (hMake : ∀ l, op = .make l → P l.create.run)
    (hRestamp : ∀ block stamp, op = .restamp block stamp → P (Literal.restamp (N := N) block stamp))
    (hCollect : ∀ held, op = .collect held → P (Host.collectGarbage (N := N) held)) :
    P op.perform := by
  refine h.hostOperation op (fun hBinds => ?_) hMake hRestamp hCollect
  cases op with
  | bind codec name c => exact h.forget (h.bound _ _ _)
  | register codec name c => exact h.forget (h.register _ _ _)
  | registerWithSignature codec name c requested =>
    exact h.forget (h.registerWithSignature _ _ _ _)
  | registerIn codec namespaceName name c => exact h.forget (h.registerIn _ _ _ _)
  | attach codec owner entries => exact hAttach codec owner entries rfl
  | _ => exact hBinds.elim

end Binding

namespace Wiring

variable {P : ⦃α : Type⦄ → Run N α → Prop}

theorem attach (h : Wiring P) (codec : CodecConfig) (t : MethodTable N) :
    P (t.attach codec) := by
  refine h.bind (h.read _) fun r => ?_
  cases r with
  | none => exact h.pure _
  | some identifier =>
    refine h.bind (h.bindEntries _ _ _) fun r => ?_
    cases r with
    | error e => exact h.pure _
    | ok methods => exact h.bind (h.attached _ _) fun _ => h.bind (h.told _ _) fun _ => h.pure _

/-- Every operation, if setting stamps and collecting garbage have the property where they are
meant. -/
theorem operation (h : Wiring P) (op : Operation N)
    (hMake : ∀ l, op = .make l → P l.create.run)
    (hRestamp : ∀ block stamp, op = .restamp block stamp → P (Literal.restamp (N := N) block stamp))
    (hCollect : ∀ held, op = .collect held → P (Host.collectGarbage (N := N) held)) :
    P op.perform := by
  refine h.toBinding.operation op (fun codec owner entries he => ?_) hMake hRestamp hCollect
  rw [he, Operation.perform]
  split
  · exact h.pure _
  · exact h.forget (h.attach _ _)

end Wiring

namespace HostWide

variable {P : ⦃α : Type⦄ → Run N α → Prop}

theorem literal (h : HostWide P) (l : Literal N) : P l.create.run :=
  h.anyLiteral h.foreign h.restamped l

/-- Every operation, if collecting garbage has the property where it is meant. -/
theorem operation (h : HostWide P) (op : Operation N)
    (hCollect : ∀ held, op = .collect held → P (Host.collectGarbage (N := N) held)) :
    P op.perform :=
  h.toWiring.operation op (fun l _ => h.literal l) (fun _ _ _ => h.restamped _ _) hCollect

end HostWide

end ScriptBridge
