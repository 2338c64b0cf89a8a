import ScriptBridge.Proofs.Counters.Calls
import ScriptBridge.Proofs.Host.Tables

/-!
# Counted entry points

Every function that stands for a callable was made by binding it, and was counted and logged then.
Scripts bind nothing, and neither do hosts but by the operations that are for it; how much one of
these binds is told by whether it succeeds. A namespace that is no table is refused after its member
was bound. Nothing else is called as an entry point: a call begins at a function that was there.
-/
namespace ScriptBridge
set_option autoImplicit false

variable {N : Natives} {α β : Type}

/-- The entry points a host has, how many it has counted, and the bindings that it has logged. -/
structure EntryRecord (N : Natives) where
  count : Nat
  bindings : List (String × Shape × Signature)
  entries : List (EntryPoint N)

def ScriptFunction.entry? : ScriptFunction N → Option (EntryPoint N)
  | entry e => some e
  | _ => none

/-- The name, the shape and the signature of the entry point that an event tells of. -/
def Event.binding? : Event → Option (String × Shape × Signature)
  | bound name shape signature => some (name, shape, signature)
  | _ => none

def EntryPoint.description (e : EntryPoint N) : String × Shape × Signature :=
  (e.name, e.callable.shape, e.callable.signature)

def State.entryRecord (s : State N) : EntryRecord N where
  count := s.counters.entryPoints
  bindings := s.log.filterMap Event.binding?
  entries := s.functions.filterMap ScriptFunction.entry?

namespace EntryRecord

/-- The record after some more entry points were bound. -/
def adding (r : EntryRecord N) (es : List (EntryPoint N)) : EntryRecord N where
  count := r.count + es.length
  bindings := r.bindings ++ es.map EntryPoint.description
  entries := r.entries ++ es

theorem adding_nil (r : EntryRecord N) : r.adding [] = r := by
  simp [adding]

theorem adding_append (r : EntryRecord N) (es es' : List (EntryPoint N)) :
    r.adding (es ++ es') = (r.adding es).adding es' := by
  simp [adding, Nat.add_assoc]

/-- A step binds one callable at most. -/
def Next (r r' : EntryRecord N) : Prop := r' = r ∨ ∃ e, r' = r.adding [e]

/-- Nothing of the record is taken back. -/
def Extends (r r' : EntryRecord N) : Prop := ∃ es, r' = r.adding es

theorem Extends.refl (r : EntryRecord N) : r.Extends r := ⟨[], r.adding_nil.symm⟩

theorem Extends.trans {r₁ r₂ r₃ : EntryRecord N} (h : r₁.Extends r₂) (h' : r₂.Extends r₃) :
    r₁.Extends r₃ := by
  obtain ⟨es, rfl⟩ := h
  obtain ⟨es', rfl⟩ := h'
  exact ⟨es ++ es', (r₁.adding_append es es').symm⟩

theorem Extends.entries_subset {r r' : EntryRecord N} (h : r.Extends r') :
    r.entries ⊆ r'.entries := by
  obtain ⟨es, rfl⟩ := h
  exact List.subset_append_left _ _

theorem Next.extends {r r' : EntryRecord N} (h : r.Next r') : r.Extends r' := by
  rcases h with rfl | ⟨e, rfl⟩
  · exact .refl r'
  · exact ⟨[e], rfl⟩

theorem eq_append_of_adding {r : EntryRecord N} {es first rest : List (EntryPoint N)}
    (h : r.adding es = (r.adding first).adding rest) : es = first ++ rest := by
  rw [← adding_append] at h
  exact List.append_cancel_left (congrArg EntryRecord.entries h)

end EntryRecord

namespace State

variable {s : State N}

theorem entryRecord_emit {e : Event} (h : e.binding? = none) :
    (s.emit e).entryRecord = s.entryRecord := by
  simp [entryRecord, emit, h]

theorem entryRecord_addFunction {f : ScriptFunction N} (h : f.entry? = none) :
    State.entryRecord { s with functions := s.functions ++ [f] } = s.entryRecord := by
  simp [entryRecord, h]

theorem entryRecord_withEntry (e : EntryPoint N) :
    (s.withEntry e).entryRecord = s.entryRecord.adding [e] := by
  simp [entryRecord, withEntry, emit, Event.binding?, ScriptFunction.entry?, EntryRecord.adding,
    EntryPoint.description]

end State

/-- A computation comes by no state that has less than the one it began at or more than its last. -/
theorem Run.extends_of_steps {m : Run N α} {s s' : State N} {marks : List (Mark N)}
    (hSteps : m.Steps (fun s s' => s.entryRecord.Next s'.entryRecord) s)
    (hp : m.Passes s marks s') :
    s.entryRecord.Extends s'.entryRecord ∧ s'.entryRecord.Extends (m.run s).2.entryRecord := by
  induction m generalizing s s' marks with
  | done a =>
    obtain ⟨-, rfl⟩ := Run.passes_pure_iff.mp hp
    exact ⟨.refl _, .refl _⟩
  | step mark change next ih =>
    obtain ⟨hNext, hRest⟩ := Run.steps_step_iff.mp hSteps
    rcases Run.passes_step_iff.mp hp with ⟨-, rfl⟩ | ⟨rest, -, hp⟩
    · have hLast := (ih _ hRest (.here _ _)).2
      exact ⟨.refl _, hNext.extends.trans hLast⟩
    · obtain ⟨hBefore, hAfter⟩ := ih _ hRest hp
      exact ⟨hNext.extends.trans hBefore, hAfter⟩

/-- Begun at `s` the computation binds the entry points `es`, one at a time. Whatever it has called
was bound by then. -/
structure Enrols (m : Run N α) (s : State N) (es : List (EntryPoint N)) : Prop where
  last : (m.run s).2.entryRecord = s.entryRecord.adding es
  steps : m.Steps (fun s s' => s.entryRecord.Next s'.entryRecord) s
  called {marks : List (Mark N)} {s' : State N} : m.Passes s marks s' →
    begunCalls marks ⊆ s'.entryRecord.entries

namespace Enrols

variable {s : State N} {es es' : List (EntryPoint N)}

theorem done (a : α) (s : State N) : Enrols (pure a : Run N α) s [] where
  last := (EntryRecord.adding_nil _).symm
  steps := Run.steps_pure a
  called hp := by
    obtain ⟨rfl, -⟩ := Run.passes_pure_iff.mp hp
    exact List.nil_subset _

theorem bind {m : Run N α} {f : α → Run N β} (hm : Enrols m s es)
    (hf : Enrols (f (m.run s).1) (m.run s).2 es') : Enrols (m >>= f) s (es ++ es') where
  last := by rw [Run.run_bind, hf.last, hm.last, EntryRecord.adding_append]
  steps := Run.steps_bind_iff.mpr ⟨hm.steps, hf.steps⟩
  called hp := by
    rcases Run.passes_bind_iff.mp hp with hFirst | ⟨rest, rfl, hSecond⟩
    · exact hm.called hFirst
    · have hKept := (Run.extends_of_steps hf.steps hSecond).1.entries_subset
      have hBefore := List.Subset.trans (hm.called (Run.passes_last m s)) hKept
      rw [begunCalls_append]
      exact List.append_subset.mpr ⟨hBefore, hf.called hSecond⟩

/-- What follows binds nothing. -/
theorem thenNothing {m : Run N α} {f : α → Run N β} (hm : Enrols m s es)
    (hf : ∀ a s, Enrols (f a) s []) : Enrols (m >>= f) s es := by
  have hBoth := hm.bind (hf (m.run s).1 (m.run s).2)
  rwa [List.append_nil] at hBoth

theorem look {f : State N → Run N α} (hf : Enrols (f s) s es) : Enrols (Run.look f) s es where
  last := hf.last
  steps := Run.steps_look_iff.mpr ⟨.inl rfl, hf.steps⟩
  called hp := hf.called (Run.passes_look_iff.mp hp)

theorem atomic {f : State N → α × State N} (hf : (f s).2.entryRecord = s.entryRecord.adding es)
    (hNext : s.entryRecord.Next (f s).2.entryRecord) : Enrols (Run.atomic f) s es where
  last := hf
  steps := Run.steps_atomic_iff.mpr hNext
  called hp := by
    obtain ⟨rfl, -⟩ := Run.passes_atomic_iff.mp hp
    exact List.nil_subset _

theorem aside {f : State N → α × State N} (hf : (f s).2.entryRecord = s.entryRecord) :
    Enrols (Run.atomic f) s [] :=
  .atomic (hf.trans (EntryRecord.adding_nil _).symm) (.inl hf)

theorem entered {f : State N → α × State N} {e : EntryPoint N}
    (hf : (f s).2.entryRecord = s.entryRecord.adding [e]) : Enrols (Run.atomic f) s [e] :=
  .atomic hf (.inr ⟨e, hf⟩)

theorem announce {mark : Mark N} {f : State N → State N} (hf : (f s).entryRecord = s.entryRecord)
    (hMark : begunCalls [mark] ⊆ s.entryRecord.entries) : Enrols (Run.announce mark f) s [] where
  last := hf.trans (EntryRecord.adding_nil _).symm
  steps := Run.steps_announce_iff.mpr (.inl hf)
  called hp := by
    rcases Run.passes_announce_iff.mp hp with ⟨rfl, rfl⟩ | ⟨rfl, rfl⟩
    · exact List.nil_subset _
    · rwa [hf]

theorem lending {t : N.ObjectType} {block : Nat} {mode : Bool}
    {f : Handle N t → Run N (Except BridgeError α)} (hf : ∀ h s, Enrols (f h) s []) :
    Enrols (Access.lending t block mode f) s [] := by
  refine .look ?_
  split
  · exact .done _ s
  · refine .thenNothing (.announce rfl (List.nil_subset _)) fun _ s => ?_
    refine .thenNothing (hf _ s) fun _ s => ?_
    exact .thenNothing (.announce rfl (List.nil_subset _)) fun _ s => .done _ s

/-- On the way some of the entry points are there already, the first ones first. -/
theorem passed {m : Run N α} (h : Enrols m s es) {marks : List (Mark N)} {s' : State N}
    (hp : m.Passes s marks s') : ∃ first, first <+: es ∧
      s'.entryRecord = s.entryRecord.adding first := by
  obtain ⟨⟨first, hFirst⟩, rest, hRest⟩ := Run.extends_of_steps h.steps hp
  have hBoth := h.last.symm.trans hRest
  rw [hFirst] at hBoth
  exact ⟨first, ⟨rest, (EntryRecord.eq_append_of_adding hBoth).symm⟩, hFirst⟩

end Enrols

theorem State.entryRecord_destroy {t : N.ObjectType} {s : State N} {block : Nat} {h : Handle N t}
    {o : N.Payload t} {early : Bool} :
    ((s.setHandle t block { h with object := none }).bury t h o early).entryRecord =
      s.entryRecord :=
  State.entryRecord_emit rfl

theorem State.entryRecord_finalize (s : State N) (block : Nat) :
    (s.finalize block).entryRecord = s.entryRecord := by
  unfold finalize
  split
  · split
    · exact entryRecord_destroy
    · rfl
  · rfl

theorem State.entryRecord_close (s : State N) : s.close.entryRecord = s.entryRecord :=
  State.close_induction (I := fun s' => s'.entryRecord = s.entryRecord) rfl fun s' block hs =>
    (s'.entryRecord_finalize block).trans hs

theorem stepwise_enrolsNothing : Stepwise (N := N) fun _ m => ∀ s, Enrols m s [] where
  pure a s := .done a s
  bind hm hf s := .thenNothing (hm s) hf
  look hf s := .look (hf s s)
  assign _ _ _ := .aside rfl
  lambda _ _ := .aside (State.entryRecord_addFunction rfl)
  capture _ _ := .aside rfl
  lending hf _ := .lending hf
  write _ _ _ _ := .aside rfl
  destroy _ _ _ _ _ := .aside State.entryRecord_destroy

section Calls

variable {call : Caller N} (hCall : ∀ f vs s, Enrols (call f vs) s [])

include hCall

theorem Callable.enrols_evaluate (c : Callable N) (f : Frame) (s : State N) :
    Enrols (c.evaluate call f) s [] :=
  stepwise_enrolsNothing.composable.evaluate hCall
    (fun _ _ => .announce rfl (List.nil_subset _)) c f s

theorem EntryPoint.enrols_enter {e : EntryPoint N} {s : State N} (he : e ∈ s.entryRecord.entries)
    (args : List Value) : Enrols (e.enter call args) s [] := by
  have hBegun : begunCalls [.called e args] ⊆ s.entryRecord.entries :=
    List.cons_subset.mpr ⟨he, List.nil_subset _⟩
  refine .thenNothing (.announce rfl hBegun) fun _ s => ?_
  refine .thenNothing (.thenNothing (e.callable.enrols_evaluate hCall _ s) fun _ s => .done _ s)
    fun ended s => ?_
  rcases ended with ⟨outcome, f⟩
  cases outcome with
  | ok count => exact .thenNothing (.announce rfl (List.nil_subset _)) fun _ s => .done _ s
  | error error =>
    refine .thenNothing (.announce ?_ (List.nil_subset _)) fun _ s => .done _ s
    exact State.entryRecord_emit rfl

end Calls

theorem State.mem_entryRecord {s : State N} {id : Nat} {e : EntryPoint N}
    (he : s.functions[id]? = some (.entry e)) : e ∈ s.entryRecord.entries :=
  List.mem_filterMap.mpr ⟨.entry e, List.mem_of_getElem? he, rfl⟩

/-- Calls bind nothing. That what they call is bound is known at the state of the call only, which a
compositional property does not see. -/
theorem enrols_callWith (depth : Nat) (f : Value) (args : List Value) (s : State N) :
    Enrols (callWith depth f args) s [] := by
  induction depth generalizing f args s with
  | zero => exact .done _ s
  | succ depth ih =>
    unfold callWith
    split
    · refine .look ?_
      split
      · next e he =>
        have hEnter := EntryPoint.enrols_enter ih (State.mem_entryRecord he) args
        exact hEnter.thenNothing fun r s => .done _ s
      · next body _ =>
        have hBody := stepwise_enrolsNothing.composable.execBody ih body s
        exact hBody.thenNothing fun r s => .done _ s
      · exact .done _ s
      · exact .done _ s
    · exact stepwise_enrolsNothing.composable.callValue (fun _ _ s => .done _ s) "" f args s

theorem hosting_enrolsNothing : Hosting (N := N) fun _ m => ∀ s, Enrols m s [] where
  toComposable := stepwise_enrolsNothing.composable
  callWith := enrols_callWith
  space name s := .aside (by split <;> rfl)
  entered _ _ _ _ := .aside rfl
  typed t identifier s := by
    refine .aside ?_
    split
    · rfl
    · dsimp only
      split
      · exact State.entryRecord_emit rfl
      · rfl
  created t o s := by
    refine .aside ?_
    dsimp only
    split
    · rfl
    · exact State.entryRecord_emit rfl
  table _ := .aside rfl
  inert _ := .aside (State.entryRecord_addFunction rfl)
  unstamped _ := .aside rfl

/-- What binding a callable binds at `s`: its entry point, or nothing if it fails. -/
def boundAt (s : State N) (codec : CodecConfig) (name : String) (c : Callable N) :
    List (EntryPoint N) :=
  match ((bind codec name c).run s).1 with
  | .ok _ => [⟨name, c, codec⟩]
  | .error _ => []

/-- The entry points for the entries of a table. -/
def MethodTable.entryPoints (codec : CodecConfig) (entries : List (String × Callable N)) :
    List (EntryPoint N) :=
  entries.map fun entry => ⟨entry.1, entry.2, codec⟩

/-- The entry points that an operation binds at `s`. -/
def Operation.bound (s : State N) : Operation N → List (EntryPoint N)
  | bind codec name c | register codec name c | registerIn codec _ name c => boundAt s codec name c
  | registerWithSignature codec name c requested =>
    if c.signature = requested then boundAt s codec name c else []
  | attach codec owner entries =>
    match MethodTable.build owner entries with
    | .error _ => []
    | .ok t =>
      match ((t.attach codec).run s).1 with
      | .error _ => []
      | .ok _ => MethodTable.entryPoints codec t.entries
  | _ => []

namespace Enrols

variable {s : State N} {codec : CodecConfig} {name : String} {c : Callable N}

theorem bound (s : State N) (codec : CodecConfig) (name : String) (c : Callable N) :
    Enrols (ScriptBridge.bind codec name c) s (boundAt s codec name c) := by
  rcases c.bindable_or s with hBindable | ⟨t, hOwner, hNone⟩
  · have hRun := run_bind_bindable hBindable codec name
    rw [boundAt, hRun]
    have hRecord := congrArg (fun r => r.2.entryRecord) hRun
    exact .entered (hRecord.trans (State.entryRecord_withEntry _))
  · have hRun := run_bind_unregistered hOwner hNone codec name
    rw [boundAt, hRun]
    exact .aside (congrArg (fun r => r.2.entryRecord) hRun)

theorem register (s : State N) (codec : CodecConfig) (name : String) (c : Callable N) :
    Enrols (ScriptBridge.register codec name c) s (boundAt s codec name c) := by
  refine (bound s codec name c).thenNothing fun r s => ?_
  cases r with
  | error e => exact .done _ s
  | ok f => exact .thenNothing (.aside rfl) fun _ s => .done _ s

theorem bindWithSignature (s : State N) (codec : CodecConfig) (name : String) (c : Callable N)
    (requested : Signature) :
    Enrols (ScriptBridge.bindWithSignature codec name c requested) s
      (if c.signature = requested then boundAt s codec name c else []) := by
  unfold ScriptBridge.bindWithSignature
  split
  · exact bound s codec name c
  · exact .done _ s

theorem registerWithSignature (s : State N) (codec : CodecConfig) (name : String) (c : Callable N)
    (requested : Signature) :
    Enrols (ScriptBridge.registerWithSignature codec name c requested) s
      (if c.signature = requested then boundAt s codec name c else []) := by
  refine (bindWithSignature s codec name c requested).thenNothing fun r s => ?_
  cases r with
  | error e => exact .done _ s
  | ok f => exact .thenNothing (.aside rfl) fun _ s => .done _ s

/-- The entry point stays, whatever the namespace is. -/
theorem registerIn (s : State N) (codec : CodecConfig) (namespaceName name : String)
    (c : Callable N) :
    Enrols (ScriptBridge.registerIn codec namespaceName name c) s (boundAt s codec name c) := by
  refine (bound s codec name c).thenNothing fun r s => ?_
  cases r with
  | error e => exact .done _ s
  | ok f =>
    refine (hosting_enrolsNothing.space namespaceName s).thenNothing fun r s => ?_
    cases r with
    | error e => exact .done _ s
    | ok table => exact .thenNothing (.aside rfl) fun _ s => .done _ s

theorem bindEntries {entries : List (String × Callable N)}
    (h : ∀ entry ∈ entries, entry.2.Bindable s) (codec : CodecConfig) (methods : Names Value) :
    Enrols (MethodTable.bindEntries codec methods entries) s
      (MethodTable.entryPoints codec entries) := by
  induction entries generalizing s methods with
  | nil => exact .done _ s
  | cons entry rest ih =>
    obtain ⟨name, c⟩ := entry
    have hRest (entry) (he : entry ∈ rest) : entry.2.Bindable (s.withEntry ⟨name, c, codec⟩) :=
      h entry (List.mem_cons_of_mem _ he)
    have hRun := run_bind_bindable (h _ List.mem_cons_self) codec name
    have hFirst : Enrols (ScriptBridge.bind codec name c) s [⟨name, c, codec⟩] := by
      have hBound := bound s codec name c
      rwa [boundAt, hRun] at hBound
    change Enrols _ s ([⟨name, c, codec⟩] ++ MethodTable.entryPoints codec rest)
    refine hFirst.bind ?_
    rw [hRun]
    exact ih hRest _

theorem readThen {f : State N → α} {k : α → Run N β} {es : List (EntryPoint N)}
    (h : Enrols (k (f s)) s es) : Enrols (Run.read f >>= k) s es :=
  .look h

section Attach

variable {t : MethodTable N}

theorem attach_unregistered (h : s.registry.identifier? t.owner = none) (codec : CodecConfig) :
    Enrols (t.attach codec) s [] := by
  unfold MethodTable.attach
  refine .readThen ?_
  rw [h]
  exact .done _ s

theorem attach_registered {identifier : String} (hTable : t.WellFormed)
    (h : s.registry.identifier? t.owner = some identifier) (codec : CodecConfig) :
    Enrols (t.attach codec) s (MethodTable.entryPoints codec t.entries) := by
  have hBindable := hTable.bindable (Registry.isSome_identityOf? h)
  unfold MethodTable.attach
  refine .readThen ?_
  rw [h]
  refine (bindEntries hBindable codec []).thenNothing fun r s => ?_
  cases r with
  | error e => exact .done _ s
  | ok methods =>
    refine .thenNothing (.aside rfl) fun _ s => ?_
    exact .thenNothing (.aside (State.entryRecord_emit rfl)) fun _ s => .done _ s

end Attach

theorem forget {m : Run N α} {es : List (EntryPoint N)} (h : Enrols m s es) :
    Enrols m.forget s es :=
  h.thenNothing fun _ s => .done _ s

end Enrols

theorem Operation.enrols (op : Operation N) (s : State N) : Enrols op.perform s (op.bound s) := by
  have hNothing (hBinds : ¬ op.Binds) : Enrols op.perform s [] := by
    refine hosting_enrolsNothing.hostOperation op (fun h => absurd h hBinds) (fun l _ => ?_)
      (fun block stamp _ s => .aside rfl) (fun held _ s => .aside ?_) s
    · exact hosting_enrolsNothing.anyLiteral (fun stamp s => .aside rfl)
        (fun block stamp s => .aside rfl) l
    · have hKept (s' : State N) (block : Nat) (hs : s'.entryRecord = s.entryRecord) :
          (s'.finalize block).entryRecord = s.entryRecord :=
        (s'.entryRecord_finalize block).trans hs
      exact State.collect_induction (I := fun s' => s'.entryRecord = s.entryRecord) held rfl hKept
  cases op with
  | bind codec name c => exact (Enrols.bound s codec name c).forget
  | register codec name c => exact (Enrols.register s codec name c).forget
  | registerWithSignature codec name c requested =>
    exact (Enrols.registerWithSignature s codec name c requested).forget
  | registerIn codec namespaceName name c =>
    exact (Enrols.registerIn s codec namespaceName name c).forget
  | attach codec owner entries =>
    rw [perform, bound]
    cases hBuild : MethodTable.build owner entries with
    | error e => exact .done _ s
    | ok t =>
      have hTable := (MethodTable.of_build hBuild).2
      dsimp only
      cases hIdentifier : s.registry.identifier? t.owner with
      | none =>
        rw [MethodTable.run_attach_unregistered hIdentifier]
        exact (Enrols.attach_unregistered hIdentifier codec).forget
      | some identifier =>
        rw [MethodTable.run_attach_registered hTable hIdentifier]
        exact (Enrols.attach_registered hTable hIdentifier codec).forget
  | _ => exact hNothing id

def boundBy : List (Operation N) → State N → List (EntryPoint N)
  | [], _ => []
  | op :: rest, s => op.bound s ++ boundBy rest (op.perform.run s).2

theorem enrols_performAll (ops : List (Operation N)) (s : State N) :
    Enrols (performAll ops) s (boundBy ops s) := by
  induction ops generalizing s with
  | nil => exact .done () s
  | cons op rest ih => exact (op.enrols s).bind (ih _)

/-- The entry points that were bound, in their order. -/
def History.bound (h : History N) : List (EntryPoint N) := boundBy h.operations h.opened

end ScriptBridge
