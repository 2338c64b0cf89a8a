import ScriptBridge.Proofs.Host.History
import ScriptBridge.Proofs.Identity.Registry
import ScriptBridge.Proofs.Loans.Discipline

/-!
# What a step can do to objects

The steps of a host as far as objects are concerned: where they come from, what is written to them,
and how they end. Stamps are set by the host only if it is `forging`. A write finds the object that
its access was shown, since nothing else can change an object that is lent exclusively.
-/
namespace ScriptBridge
set_option autoImplicit false

variable {N : Natives} {α : Type}

/-- Tells of the beginning or the end of a handle's object. -/
def Event.isLifecycle : Event → Bool
  | .handleCreated _ | .handleReleased .. => true
  | _ => false

namespace State

def lifecycle (s : State N) : List Event := s.log.filter Event.isLifecycle

theorem lifecycle_emit {e : Event} (s : State N) (h : e.isLifecycle = false) :
    (s.emit e).lifecycle = s.lifecycle := by
  simp [lifecycle, emit, h]

/-- Two states with the same objects in the same handles. -/
structure SameObjects (s s' : State N) : Prop where
  blocks : s'.blocks = s.blocks
  serials : s'.serials = s.serials
  destroyed : s'.destroyed = s.destroyed
  lifecycle : s'.lifecycle = s.lifecycle

theorem SameObjects.refl (s : State N) : s.SameObjects s := ⟨rfl, rfl, rfl, rfl⟩

def addHandle (s : State N) (t : N.ObjectType) (identifier : String) (o : N.Payload t) : State N :=
  ({ s with
    serials := s.serials + 1
    blocks := s.blocks ++
      [⟨.ofText identifier, some ⟨t, ⟨identifier, s.serials, some o⟩⟩⟩] } : State N).emit
    (.handleCreated identifier)

def dropObject (s : State N) (t : N.ObjectType) (o : N.Payload t) : State N :=
  { s with serials := s.serials + 1, destroyed := s.destroyed ++ [⟨t, s.serials, o⟩] }

def addForeign (s : State N) (stamp : Value) : State N :=
  { s with blocks := s.blocks ++ [⟨stamp, none⟩] }

def setStamp (s : State N) (block : Nat) (stamp : Value) : State N :=
  { s with blocks := s.blocks.modify block fun b => { b with stamp := stamp } }

def endObject (s : State N) (t : N.ObjectType) (block : Nat) (h : Handle N t) (o : N.Payload t)
    (early : Bool) : State N :=
  (s.setHandle t block { h with object := none }).bury t h o early

variable {s s' : State N} {t : N.ObjectType} {block other : Nat} {h : Handle N t} {o : N.Payload t}

theorem getElem?_addBlock (bs : List (Block N)) (b : Block N) (other : Nat) :
    (bs ++ [b])[other]? = if other = bs.length then some b else bs[other]? := by
  by_cases hLast : other = bs.length
  · rw [if_pos hLast, hLast, List.getElem?_concat_length]
  · rw [if_neg hLast]
    by_cases hlt : other < bs.length
    · exact List.getElem?_append_left hlt
    · have hNone : bs.length + 1 ≤ other := by omega
      rw [List.getElem?_eq_none (by simpa using hNone), List.getElem?_eq_none (by omega)]

theorem contentOf_addHandle (s : State N) (t : N.ObjectType) (identifier : String) (o : N.Payload t)
    (other : Nat) :
    (s.addHandle t identifier o).contentOf other =
      if other = s.blocks.length then some ⟨t, ⟨identifier, s.serials, some o⟩⟩
      else s.contentOf other := by
  rw [contentOf, addHandle, emit, getElem?_addBlock]
  split <;> rfl

theorem contentOf_addForeign (s : State N) (stamp : Value) (other : Nat) :
    (s.addForeign stamp).contentOf other = s.contentOf other := by
  rw [contentOf, addForeign, getElem?_addBlock]
  split
  · rename_i he
    rw [contentOf, he, List.getElem?_eq_none (Nat.le_refl _)]
    rfl
  · rfl

theorem stampOf_congr (h : s'.blocks = s.blocks) (other : Nat) :
    s'.stampOf other = s.stampOf other := by
  rw [stampOf, stampOf, h]

theorem stampOf_addHandle (s : State N) (t : N.ObjectType) (identifier : String) (o : N.Payload t)
    (other : Nat) :
    (s.addHandle t identifier o).stampOf other =
      if other = s.blocks.length then .ofText identifier else s.stampOf other := by
  rw [stampOf, addHandle, emit, getElem?_addBlock]
  by_cases hLast : other = s.blocks.length
  · rw [if_pos hLast, if_pos hLast]
  · rw [if_neg hLast, if_neg hLast]
    rfl

theorem stampOf_addForeign (s : State N) (stamp : Value) (other : Nat) :
    (s.addForeign stamp).stampOf other =
      if other = s.blocks.length then stamp else s.stampOf other := by
  rw [stampOf, addForeign, getElem?_addBlock]
  by_cases hLast : other = s.blocks.length
  · rw [if_pos hLast, if_pos hLast]
  · rw [if_neg hLast, if_neg hLast]
    rfl

theorem stampOf_setHandle (s : State N) (block : Nat) (h : Handle N t) (other : Nat) :
    (s.setHandle t block h).stampOf other = s.stampOf other := by
  rw [stampOf, stampOf, setHandle, List.getElem?_modify]
  cases s.blocks[other]? with
  | none => rfl
  | some b => by_cases he : block = other <;> simp [he]

end State

section Create

variable {s : State N} {t : N.ObjectType} {o : N.Payload t}

theorem run_createHandle_registered {identifier : String}
    (h : s.registry.identifier? t = some identifier) :
    (createHandle t o).run s = (.ok ⟨s.blocks.length⟩, s.addHandle t identifier o) := by
  rw [createHandle, Run.run_atomic]
  dsimp only
  rw [h]
  rfl

theorem run_createHandle_unregistered (h : s.registry.identifier? t = none) :
    (createHandle t o).run s =
      (.error (.unregisteredType (N.typeName t)), s.dropObject t o) := by
  rw [createHandle, Run.run_atomic]
  dsimp only
  rw [h]
  rfl

end Create

inductive ObjectStep (forging : Bool) : State N → State N → Prop where
  | aside {s s' : State N} (h : s.SameObjects s') (hRegistry : s'.registry = s.registry) :
      ObjectStep forging s s'
  | typed {s s' : State N} {i : Identity N.ObjectType} (h : s.SameObjects s')
      (hAdmits : s.registry.Admits i s'.registry) : ObjectStep forging s s'
  | created {s : State N} {t : N.ObjectType} {identifier : String}
      (h : s.registry.identifier? t = some identifier) (o : N.Payload t) :
      ObjectStep forging s (s.addHandle t identifier o)
  | dropped {s : State N} {t : N.ObjectType} (h : s.registry.identifier? t = none)
      (o : N.Payload t) : ObjectStep forging s (s.dropObject t o)
  | foreign (s : State N) {stamp : Value} (h : forging = false → stamp = .nil) :
      ObjectStep forging s (s.addForeign stamp)
  | restamped (s : State N) (block : Nat) (stamp : Value) (h : forging = true) :
      ObjectStep forging s (s.setStamp block stamp)
  | written {s : State N} {t : N.ObjectType} {block : Nat} {h : Handle N t} {o : N.Payload t}
      (hContent : s.contentOf block = some ⟨t, h⟩) (hObject : h.object = some o)
      (o' : N.Payload t) : ObjectStep forging s (s.setHandle t block { h with object := some o' })
  | released {s : State N} {t : N.ObjectType} {block : Nat} {h : Handle N t} {o : N.Payload t}
      (hLend : s.lendable t block true = .ok h) (hObject : h.object = some o) :
      ObjectStep forging (s.lend block true) ((s.lend block true).endObject t block h o true)
  | collected (s : State N) (held : List Value) : ObjectStep forging s (s.collect held)

/-- A sheltered computation all of whose steps are such steps. -/
structure Tended (forging : Bool) (m : Run N α) : Prop where
  sheltered : Sheltered none m
  steps : ∀ s, m.Steps (ObjectStep forging) s

namespace Tended

variable {forging : Bool} {t : N.ObjectType} {block : Nat}

theorem done (a : α) : Tended forging (pure a : Run N α) := ⟨.done none a, fun _ => Run.steps_pure a⟩

theorem bind {β : Type} {m : Run N α} {f : α → Run N β} (hm : Tended forging m)
    (hf : ∀ a, Tended forging (f a)) : Tended forging (m >>= f) where
  sheltered := hm.sheltered.bind fun a => (hf a).sheltered
  steps s := Run.steps_bind_iff.mpr ⟨hm.steps s, (hf _).steps _⟩

theorem look {f : State N → Run N α} (hf : ∀ s, Tended forging (f s)) :
    Tended forging (Run.look f) where
  sheltered := .look fun s => (hf s).sheltered
  steps s := Run.steps_look_iff.mpr ⟨.aside (.refl s) rfl, (hf s).steps s⟩

theorem atomic {f : State N → α × State N} (hSheltered : Sheltered none (Run.atomic f))
    (hStep : ∀ s, ObjectStep forging s (f s).2) : Tended forging (Run.atomic f) :=
  ⟨hSheltered, fun s => Run.steps_atomic_iff.mpr (hStep s)⟩

theorem aside {f : State N → α × State N} (hLoans : ∀ s, (f s).2.loans = s.loans)
    (hRegistry : ∀ s, (f s).2.registry = s.registry)
    (hSame : ∀ s : State N, s.SameObjects (f s).2) : Tended forging (Run.atomic f) :=
  .atomic (.aside hLoans fun s => (hSame s).blocks) fun s => .aside (hSame s) (hRegistry s)

theorem announce {mark : Mark N} {f : State N → State N}
    (hMark : ∀ loans, openLoans loans [mark] = loans) (hLoans : ∀ s, (f s).loans = s.loans)
    (hRegistry : ∀ s, (f s).registry = s.registry) (hSame : ∀ s : State N, s.SameObjects (f s)) :
    Tended forging (Run.announce mark f) where
  sheltered := .announce hMark hLoans fun s => (hSame s).blocks
  steps s := Run.steps_announce_iff.mpr (.aside (hSame s) (hRegistry s))

/-- The steps of an access, if those under its loan are such steps. -/
theorem steps_lending {mode : Bool} {f : Handle N t → Run N (Except BridgeError α)} {s : State N}
    (hf : ∀ h, s.lendable t block mode = .ok h →
      (f h).Steps (ObjectStep forging) (s.lend block mode)) :
    (Access.lending t block mode f).Steps (ObjectStep forging) s := by
  refine Run.steps_look_iff.mpr ⟨.aside (.refl s) rfl, ?_⟩
  split
  · exact Run.steps_pure _
  · rename_i h hLend
    have hOpening : ObjectStep forging s (s.lend block mode) := .aside ⟨rfl, rfl, rfl, rfl⟩ rfl
    refine Run.steps_bind_iff.mpr ⟨Run.steps_announce_iff.mpr hOpening, ?_⟩
    refine Run.steps_bind_iff.mpr ⟨hf h hLend, ?_⟩
    refine Run.steps_bind_iff.mpr ⟨Run.steps_announce_iff.mpr ?_, Run.steps_pure _⟩
    exact .aside ⟨rfl, rfl, rfl, rfl⟩ rfl

theorem shared {f : N.Payload t → Run N α} (hf : ∀ o, Tended forging (f o)) :
    Tended forging (Access.shared t block f) where
  sheltered := .shared fun o => (hf o).sheltered
  steps s := steps_lending fun h _ => by
    split
    · exact Run.steps_pure _
    · exact Run.steps_bind_iff.mpr ⟨(hf _).steps _, Run.steps_pure _⟩

theorem exclusive {f : N.Payload t → Run N (α × N.Payload t)} (hf : ∀ o, Tended forging (f o)) :
    Tended forging (Access.exclusive t block f) where
  sheltered := .exclusive fun o => (hf o).sheltered
  steps s := steps_lending fun h hLend => by
    split
    · exact Run.steps_pure _
    · rename_i o hObject
      refine Run.steps_bind_iff.mpr ⟨(hf o).steps _, ?_⟩
      refine Run.steps_bind_iff.mpr ⟨Run.steps_atomic_iff.mpr ?_, Run.steps_pure _⟩
      -- the body is over, and the handle is the one that the loan was opened for
      have hContent := (State.lendable_eq_ok_iff.mp hLend).1
      have hLent : (s.lend block true).isLent block = true :=
        State.isLent_iff.mpr ⟨_, List.mem_cons_self, rfl⟩
      have hFrozen := ((hf o).sheltered.shelters (Run.passes_last _ (s.lend block true))).frozen
        block (State.lt_length_of_contentOf hContent) (Option.some_ne_none _) hLent
      exact .written (hFrozen.trans hContent) hObject _

theorem release : Tended forging (Access.release t block : Run N _) where
  sheltered := .release
  steps s := steps_lending fun h hLend => by
    split
    · exact Run.steps_pure _
    · rename_i o hObject
      refine Run.steps_bind_iff.mpr ⟨Run.steps_atomic_iff.mpr ?_, Run.steps_pure _⟩
      exact .released hLend hObject

variable (forging)

theorem composable : Composable (N := N) fun _ m => Tended forging m where
  pure := .done
  bind := .bind
  look := .look
  assign _ _ := .aside (fun _ => rfl) (fun _ => rfl) fun _ => ⟨rfl, rfl, rfl, rfl⟩
  lambda _ := .aside (fun _ => rfl) (fun _ => rfl) fun _ => ⟨rfl, rfl, rfl, rfl⟩
  capture _ := .aside (fun _ => rfl) (fun _ => rfl) fun _ => ⟨rfl, rfl, rfl, rfl⟩
  shared := .shared
  exclusive := .exclusive
  release _ _ := .release

theorem compositional : Compositional (N := N) fun _ m => Tended forging m where
  toComposable := composable forging
  enter e args hCall := by
    refine (composable forging).enter hCall (fun b => ?_) (fun e args => ?_) (fun vs => ?_)
      (fun name error => ?_) e args
    · exact .announce (fun _ => rfl) (fun _ => rfl) (fun _ => rfl) fun _ => .refl _
    · exact .announce (fun _ => rfl) (fun _ => rfl) (fun _ => rfl) fun _ => ⟨rfl, rfl, rfl, rfl⟩
    · exact .announce (fun _ => rfl) (fun _ => rfl) (fun _ => rfl) fun _ => .refl _
    · exact .announce (fun _ => rfl) (fun _ => rfl) (fun _ => rfl) fun s =>
        ⟨rfl, rfl, rfl, State.lifecycle_emit _ rfl⟩

theorem wiring : Wiring (N := N) fun _ m => Tended forging m where
  toCalling := (compositional forging).calling
  bound codec name c := by
    refine .atomic (hostWide_sheltered.bound codec name c) fun s => ?_
    split
    · exact .aside (.refl s) rfl
    · exact .aside ⟨rfl, rfl, rfl, State.lifecycle_emit _ rfl⟩ rfl
  space name := by
    refine .atomic (hostWide_sheltered.space name) fun s => ?_
    split
    · exact .aside (.refl s) rfl
    · exact .aside ⟨rfl, rfl, rfl, rfl⟩ rfl
    · exact .aside (.refl s) rfl
  entered _ _ _ := .aside (fun _ => rfl) (fun _ => rfl) fun _ => ⟨rfl, rfl, rfl, rfl⟩
  typed t identifier := by
    refine .atomic (hostWide_sheltered.typed t identifier) fun s => ?_
    split
    · exact .aside (.refl s) rfl
    · rename_i i r hr
      have hAdmits := (Registry.admits_of_register hr).2
      dsimp only
      split
      · exact .typed ⟨rfl, rfl, rfl, State.lifecycle_emit _ rfl⟩ hAdmits
      · exact .typed ⟨rfl, rfl, rfl, rfl⟩ hAdmits
  attached _ _ := .aside (fun _ => rfl) (fun _ => rfl) fun _ => ⟨rfl, rfl, rfl, rfl⟩
  told _ _ :=
    .aside (fun _ => rfl) (fun _ => rfl) fun _ => ⟨rfl, rfl, rfl, State.lifecycle_emit _ rfl⟩
  created t o := by
    refine ⟨hostWide_sheltered.created t o, fun s => Run.steps_atomic_iff.mpr ?_⟩
    change ObjectStep forging s ((createHandle t o).run s).2
    cases hIdentifier : s.registry.identifier? t with
    | none =>
      rw [run_createHandle_unregistered hIdentifier]
      exact .dropped hIdentifier o
    | some identifier =>
      rw [run_createHandle_registered hIdentifier]
      exact .created hIdentifier o
  table := .aside (fun _ => rfl) (fun _ => rfl) fun _ => ⟨rfl, rfl, rfl, rfl⟩
  inert := .aside (fun _ => rfl) (fun _ => rfl) fun _ => ⟨rfl, rfl, rfl, rfl⟩
  unstamped := .atomic hostWide_sheltered.unstamped fun s => .foreign s fun _ => rfl

end Tended

theorem hostWide_tended : HostWide (N := N) fun _ m => Tended true m where
  toWiring := Tended.wiring true
  foreign stamp := .atomic (hostWide_sheltered.foreign stamp) fun s => .foreign s nofun
  restamped block stamp :=
    .atomic (hostWide_sheltered.restamped block stamp) fun s => .restamped s block stamp rfl

namespace Operation

/-- Sets no stamp but those of new handles. -/
def Unforged : Operation N → Prop
  | make l => l.Unstamped
  | restamp _ _ => False
  | _ => True

theorem steps_objectStep {forging : Bool} {op : Operation N} (hop : forging = false → op.Unforged)
    (s : State N) : op.perform.Steps (ObjectStep forging) s := by
  by_cases hCollect : ∃ held, op = .collect held
  · obtain ⟨held, rfl⟩ := hCollect
    exact Run.steps_atomic_iff.mpr (.collected s held)
  · have hNot (held : List Value) (he : op = .collect held) : False := hCollect ⟨held, he⟩
    suffices h : Tended forging op.perform from h.steps s
    cases forging with
    | true => exact hostWide_tended.operation op fun held he => (hNot held he).elim
    | false =>
      refine (Tended.wiring false).operation op (fun l hl => ?_) (fun block stamp he => ?_)
        fun held he => (hNot held he).elim
      · subst hl
        exact (Tended.wiring false).literal (hop rfl)
      · subst he
        exact (hop rfl).elim

end Operation

theorem History.isChain_objectStep (forging : Bool) {h : History N}
    (hOps : forging = false → ∀ op ∈ h.operations, op.Unforged) :
    h.states.IsChain (ObjectStep forging) :=
  h.isChain fun op hop s => Operation.steps_objectStep (fun hf => hOps hf op hop) s

end ScriptBridge
