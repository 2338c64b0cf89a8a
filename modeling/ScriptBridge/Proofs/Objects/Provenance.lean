import ScriptBridge.Proofs.Identity.Stamps
import ScriptBridge.Proofs.Loans.Receiver

/-!
# Where objects come from

Whatever stamps a host sets, what is in a handle was moved into it when it was made, as an object of
the type that it is shown as. The type is checked at every access by what the handle itself says, so
no mixture of forged stamps and foreign userdata gets a body to run on anything else.
-/
namespace ScriptBridge
set_option autoImplicit false

variable {N : Natives}

/-- A handle of a later state was there before, or the step has made it. -/
theorem ObjectStep.origin {forging : Bool} {s s' : State N} {t : N.ObjectType} {block : Nat}
    {g : Handle N t} (h : ObjectStep forging s s') (hContent : s'.contentOf block = some ⟨t, g⟩) :
    (∃ o, s.contentOf block = some ⟨t, { g with object := o }⟩) ∨
      ∃ o, (createHandle t o).run s = (.ok ⟨block⟩, s') ∧ s.serials = g.serial := by
  cases h with
  | aside h _ => exact .inl ⟨g.object, State.contentOf_congr h.blocks block ▸ hContent⟩
  | typed h _ => exact .inl ⟨g.object, State.contentOf_congr h.blocks block ▸ hContent⟩
  | @created _ u identifier hIdentifier o =>
    rw [State.contentOf_addHandle] at hContent
    by_cases hNew : block = s.blocks.length
    · rw [if_pos hNew] at hContent
      cases hContent
      exact .inr ⟨o, hNew ▸ run_createHandle_registered hIdentifier, rfl⟩
    · rw [if_neg hNew] at hContent
      exact .inl ⟨g.object, hContent⟩
  | dropped _ _ => exact .inl ⟨g.object, hContent⟩
  | @foreign _ stamp _ => exact .inl ⟨g.object, s.contentOf_addForeign stamp block ▸ hContent⟩
  | restamped _ other stamp _ =>
    exact .inl ⟨g.object, s.contentOf_restamp other stamp block ▸ hContent⟩
  | written hBefore _ o' => exact .inl (State.handle_of_setHandle hBefore (some o') hContent)
  | @released before u other g' o hLend _ =>
    have hBefore : (before.lend other true).contentOf other = some ⟨u, g'⟩ :=
      (State.lendable_eq_ok_iff.mp hLend).1
    exact .inl (State.handle_of_setHandle hBefore none hContent)
  | collected _ held =>
    rw [State.collect_eq] at hContent
    exact .inl (State.handle_of_finalizeAll hContent)

/-- On the way an object of type `t` was moved into the handle in `block`, under the given number. -/
def MovedIn (way : List (State N)) (t : N.ObjectType) (block serial : Nat) : Prop :=
  ∃ before after o, [before, after] <:+: way ∧
    (createHandle t o).run before = (.ok ⟨block⟩, after) ∧ before.serials = serial

theorem MovedIn.mono {way longer : List (State N)} {t : N.ObjectType} {block serial : Nat}
    (h : MovedIn way t block serial) (hWay : way <:+: longer) : MovedIn longer t block serial := by
  obtain ⟨before, after, o, hPair, hCreate, hSerial⟩ := h
  exact ⟨before, after, o, hPair.trans hWay, hCreate, hSerial⟩

theorem History.movedIn {h : History N} {past : List (State N)} {s : State N}
    (hs : past ++ [s] <+: h.states) {t : N.ObjectType} {block : Nat} {g : Handle N t}
    (hContent : s.contentOf block = some ⟨t, g⟩) : MovedIn (past ++ [s]) t block g.serial := by
  have hChain := h.isChain_objectStep true nofun
  -- from the state back to the one before it, until the step that made the handle
  induction past using List.reverseRecOn generalizing s g with
  | nil =>
    obtain ⟨rest, hRest⟩ := hs
    obtain ⟨opened, names, limit, hOpened⟩ := Host.opened_of_create h.created
    have hFirst : s = h.opened := (List.cons.inj hRest).1
    rw [hFirst, hOpened] at hContent
    cases hContent
  | append_singleton past before ih =>
    have hPrefix : past ++ [before] <+: h.states := (List.prefix_append _ _).trans hs
    have hPair : [before, s].IsChain (ObjectStep true) := by
      have hAll := hChain.prefix hs
      rw [List.append_assoc] at hAll
      exact hAll.right_of_append
    rcases (List.isChain_pair.mp hPair).origin hContent with ⟨o, hBefore⟩ | ⟨o, hCreate, hSerial⟩
    · exact (ih hPrefix hBefore).mono (List.prefix_append _ _).isInfix
    · refine ⟨before, s, o, ?_, hCreate, hSerial⟩
      rw [List.append_assoc]
      exact (List.suffix_append past [before, s]).isInfix

/-- The handle in `block` has the object `o`, which was moved into it as an object of type `t` and
has not been destroyed. -/
def Genuine (past : List (State N)) (s : State N) (t : N.ObjectType) (block : Nat)
    (o : N.Payload t) : Prop :=
  ∃ g : Handle N t, s.contentOf block = some ⟨t, g⟩ ∧ g.object = some o ∧
    g.serial ∉ s.destroyed.map Destroyed.serial ∧ MovedIn (past ++ [s]) t block g.serial

section Access

variable {h : History N} {past : List (State N)} {s : State N} {t : N.ObjectType} {block : Nat}
  {mode : Bool} {o : N.Payload t} {α : Type}

theorem History.genuine (hs : past ++ [s] <+: h.states)
    (hObject : s.objectFor t block mode = .ok o) : Genuine past s t block o := by
  obtain ⟨g, hLend, hShown⟩ := State.objectFor_eq_ok_iff.mp hObject
  have hContent := (State.lendable_eq_ok_iff.mp hLend).1
  have hMem : s ∈ h.states := hs.subset (List.mem_append_right _ List.mem_cons_self)
  refine ⟨g, hContent, hShown, ?_, History.movedIn hs hContent⟩
  exact ((h.accounted s hMem).live_iff hContent).mp (Option.isSome_iff_exists.mpr ⟨o, hShown⟩)

/-- An access that has not shown its object. -/
def Cause.OfAccess : Cause → Prop
  | runtime _ | reclaimedHandle _ => True
  | _ => False

theorem State.ofAccess_of_objectFor {err : BridgeError} (h : s.objectFor t block mode = .error err) :
    err.cause.OfAccess := by
  rcases objectFor_eq_error_iff.mp h with ⟨failure, hLend, rfl⟩ | ⟨g, -, -, rfl⟩
  · rw [ofRuntime_of_refused hLend]
    exact True.intro
  · exact True.intro

end Access

/-- What accesses to a block as an object of type `t` come to: they are shown a genuine object, or
they fail and leave everything as it is. Releasing once more is no failure. -/
structure Guarded (past : List (State N)) (s : State N) (t : N.ObjectType) (block : Nat) : Prop where
  genuine : ∀ mode o, s.objectFor t block mode = .ok o → Genuine past s t block o
  refused : ∀ mode err, s.objectFor t block mode = .error err → err.cause.OfAccess
  shared : ∀ {α : Type} (f : N.Payload t → Run N α),
    match s.objectFor t block false with
    | .ok o =>
      (Access.shared t block f).run s =
        (.ok ((f o).run (s.lend block false)).1, ((f o).run (s.lend block false)).2.endLoan)
    | .error err =>
      (Access.shared t block f).run s = (.error err, s) ∧
        ((Access.shared t block f).trace s = [] ∨
          (Access.shared t block f).trace s = [.lent ⟨block, false⟩, .returned])
  exclusive : ∀ {α : Type} (f : N.Payload t → Run N (α × N.Payload t)),
    match s.objectFor t block true with
    | .ok o =>
      ∃ g : Handle N t, s.contentOf block = some ⟨t, g⟩ ∧
        (Access.exclusive t block f).run s =
          (let last := (f o).run (s.lend block true)
          (.ok last.1.1, (last.2.setHandle t block { g with object := some last.1.2 }).endLoan))
    | .error err =>
      (Access.exclusive t block f).run s = (.error err, s) ∧
        ((Access.exclusive t block f).trace s = [] ∨
          (Access.exclusive t block f).trace s = [.lent ⟨block, true⟩, .returned])
  release :
    match s.objectFor t block true with
    | .ok o =>
      ∃ (g : Handle N t) (after : State N), s.contentOf block = some ⟨t, g⟩ ∧
        (Access.release t block).run s = (.ok true, after) ∧ after.Dead block ∧
          after.destroyed = s.destroyed ++ [⟨t, g.serial, o⟩]
    | .error err =>
      (Access.release t block).run s = (.error err, s) ∨
        (Access.release t block).run s = (.ok false, s) ∧
          ∃ g : Handle N t, s.contentOf block = some ⟨t, g⟩ ∧ g.object = none

theorem History.guarded {h : History N} {past : List (State N)} {s : State N}
    (hs : past ++ [s] <+: h.states) (t : N.ObjectType) (block : Nat) : Guarded past s t block where
  genuine _ _ := genuine hs
  refused _ _ := State.ofAccess_of_objectFor
  shared f := by
    split
    · rename_i o hObject
      exact (Access.shared_shown hObject).1
    · rename_i err hObject
      exact Access.shared_stopped hObject
  exclusive f := by
    split
    · rename_i o hObject
      obtain ⟨g, hLend, hShown⟩ := State.objectFor_eq_ok_iff.mp hObject
      exact ⟨g, (State.lendable_eq_ok_iff.mp hLend).1, (Access.exclusive_shown hLend hShown).1⟩
    · rename_i err hObject
      exact Access.exclusive_stopped hObject
  release := by
    split
    · rename_i o hObject
      obtain ⟨g, hLend, hShown⟩ := State.objectFor_eq_ok_iff.mp hObject
      obtain ⟨after, hRun, hDead, hDestroyed⟩ := (s.releasesOnce t block).first g o hLend hShown
      exact ⟨g, after, (State.lendable_eq_ok_iff.mp hLend).1, hRun, hDead, hDestroyed⟩
    · rename_i err hObject
      rcases State.objectFor_eq_error_iff.mp hObject with ⟨failure, hLend, rfl⟩ | ⟨g, hLend, hNone, -⟩
      · exact .inl (Access.release_failed hLend)
      · exact .inr ⟨Access.release_again hLend hNone, g, (State.lendable_eq_ok_iff.mp hLend).1, hNone⟩

/-- The body of a member runs on the object `o` under the loan of its block, as part of the call. -/
inductive RunsOn (call : Caller N) (e : EntryPoint N) (s : State N) (args : List Value) (block : Nat)
    (as : Args e.callable.params) {t : N.ObjectType} (o : N.Payload t) : Prop where
  | shared {body : N.Payload t → Args e.callable.params → Program N e.callable.returns.Native}
      (hBody : e.callable.body = .shared t body)
      (h : ∀ marks s', (BodyRun.run call ⟨e.callable, some block, as⟩ (body o as)).Passes
        (s.countCall.lend block false) marks s' →
          (e.enter call args).Passes s (.called e args :: .lent ⟨block, false⟩ :: marks) s')
  | exclusive {body : N.Payload t → Args e.callable.params →
        Program N (e.callable.returns.Native × N.Payload t)}
      (hBody : e.callable.body = .exclusive t body)
      (h : ∀ marks s', (BodyRun.run call ⟨e.callable, some block, as⟩ (body o as)).Passes
        (s.countCall.lend block true) marks s' →
          (e.enter call args).Passes s (.called e args :: .lent ⟨block, true⟩ :: marks) s')

theorem EntryPoint.runsOn_of_verdict (call : Caller N) {e : EntryPoint N} {s : State N}
    {args : List Value} {t : N.ObjectType} {block : Nat} {as : Args e.callable.params}
    (hOwner : e.callable.owner? = some t)
    (hVerdict : e.callable.verdict s (e.frame args) = .ok (some block, as)) :
    ∃ mode o, s.objectFor t block mode = .ok o ∧ RunsOn call e s args block as o := by
  -- the body is begun in the state in which the call is counted
  have hCounted : e.callable.verdict s.countCall (e.frame args) = .ok (some block, as) := hVerdict
  rcases Callable.body_of_member hOwner with ⟨body, hBody⟩ | ⟨body, hBody⟩
  · obtain ⟨g, o, hLend, hObject, hInside⟩ := Callable.evaluate_shared call hBody hCounted
    have hLend : s.lendable t block false = .ok g := hLend
    exact ⟨false, o, State.objectFor_eq_ok_iff.mpr ⟨g, hLend, hObject⟩,
      .shared hBody fun marks s' hp => passes_enter (hInside marks s' hp)⟩
  · obtain ⟨g, o, hLend, hObject, hInside, -⟩ := Callable.evaluate_exclusive call hBody hCounted
    have hLend : s.lendable t block true = .ok g := hLend
    exact ⟨true, o, State.objectFor_eq_ok_iff.mpr ⟨g, hLend, hObject⟩,
      .exclusive hBody fun marks s' hp => passes_enter (hInside marks s' hp)⟩

theorem Frame.decode_object {f : Frame} {position : Nat} {v : Value} (s : State N) (t : N.ObjectType)
    (hv : f.value? position = some v) :
    (∃ block, v = .userdata block ∧
      f.decode s.identities (.object t) position = .ok (ObjectRef.mk block)) ∨
    ∃ err found, f.decode s.identities (.object t) position = .error err ∧
      err.cause = .typeMismatch position .object found := by
  rw [Frame.decode, hv, Option.getD_some]
  cases hDecode : Codec.decode f.codec s.identities (.object t) v with
  | error found => exact .inr ⟨_, found, rfl, rfl⟩
  | ok r =>
    obtain ⟨identifier, -, hStamped⟩ := (State.decode_eq_ok_iff f.codec).mp hDecode
    exact .inl ⟨r.block, (Identities.stamped_eq_ok_iff.mp hStamped).1, rfl⟩

theorem GateRule.ne_arity {e : EntryPoint N} {s : State N} {args : List Value} {err : BridgeError}
    {t : N.ObjectType} (h : GateRule e s args (.error err)) (hOwner : e.callable.owner? = some t)
    (hCount : args.length = e.callable.params.length + 1) (expected found : Nat) :
    err.cause ≠ .arity expected found := by
  cases h with
  | freeCount hFree _ =>
    rw [hOwner] at hFree
    cases hFree
  | count _ hOther => exact absurd hCount hOther
  | _ => nofun

/-- A member runs only on a genuine object, its receiver. -/
theorem History.runsOn {h : History N} {past : List (State N)} {s : State N}
    (hs : past ++ [s] <+: h.states) (call : Caller N) {e : EntryPoint N} {t : N.ObjectType}
    (hOwner : e.callable.owner? = some t) {args : List Value} {r : Option Nat}
    {as : Args e.callable.params} (hRule : GateRule e s args (.ok (r, as))) :
    ∃ block o, args.head? = some (.userdata block) ∧ r = some block ∧ Genuine past s t block o ∧
      RunsOn call e s args block as o := by
  cases r with
  | none =>
    have hFree : e.callable.owner? = none := hRule.accepts.1
    rw [hOwner] at hFree
    cases hFree
  | some block =>
    obtain ⟨-, vs, hArgs, -⟩ := hRule.accepts
    obtain ⟨mode, o, hObject, hRuns⟩ := EntryPoint.runsOn_of_verdict call hOwner hRule.verdict_eq
    exact ⟨block, o, by rw [hArgs, List.head?_cons], rfl, genuine hs hObject, hRuns⟩

/-- No object is taken for one of another type, whatever stamps the host has set. The body of a
member and what runs inside an access run only on objects that were moved into the very handle as
objects of the type, and only such objects are released. Anything else is an error, where only
releasing an object that has been destroyed before just says so, and is left as it is. -/
theorem no_type_confusion (h : History N) {past : List (State N)} {s : State N}
    (hs : past ++ [s] <+: h.states) (t : N.ObjectType)
    (hRegistered : (s.registry.identityOf? t).isSome = true) :
    (∀ block, Guarded past s t block) ∧
    (∀ (f : Frame) (position : Nat) (v : Value), f.value? position = some v →
      (∃ block, v = .userdata block ∧
        f.decode s.identities (.object t) position = .ok (ObjectRef.mk block)) ∨
      ∃ err found, f.decode s.identities (.object t) position = .error err ∧
        err.cause = .typeMismatch position .object found) ∧
    ∀ e : EntryPoint N, e.callable.owner? = some t → ∀ (depth : Nat) (v : Value) (vs : List Value),
      let call := e.enter (callWith depth) (v :: vs)
      (∀ r as, ⟨e.callable, r, as⟩ ∈ ownBodies (call.trace s) →
        ∃ block o, v = .userdata block ∧ r = some block ∧ Genuine past s t block o ∧
          RunsOn (callWith depth) e s (v :: vs) block as o) ∧
      ((∀ block o, v = .userdata block → ¬ Genuine past s t block o) →
        ∃ err, call.run s = (.error err, s.afterRefusal e.name err) ∧
          ownBodies (call.trace s) = [] ∧ err.cause.OfGate ∧
          (vs.length = e.callable.params.length → ∀ expected found,
            err.cause ≠ .arity expected found)) := by
  refine ⟨fun block => History.guarded hs t block, fun f position v => Frame.decode_object s t,
    fun e hOwner depth v vs => ?_⟩
  have hIdentity (u : N.ObjectType) (hu : e.callable.owner? = some u) :
      (s.registry.identityOf? u).isSome = true := by
    rw [hOwner] at hu
    cases hu
    exact hRegistered
  obtain ⟨answer, hRule⟩ := GateRule.exists_of_identity (v :: vs) hIdentity
  have hVerdict := hRule.verdict_eq
  refine ⟨fun r as hRan => ?_, fun hNot => ?_⟩
  · have hAdmitted := EntryPoint.verdict_of_ran (callWith_quiet depth) hRan
    rw [hAdmitted] at hVerdict
    subst hVerdict
    obtain ⟨block, o, hv, hr, hGenuine, hRuns⟩ :=
      History.runsOn hs (callWith depth) hOwner hRule
    exact ⟨block, o, Option.some.inj hv, hr, hGenuine, hRuns⟩
  · cases answer with
    | error err =>
      obtain ⟨hRun, hBodies⟩ := EntryPoint.enter_refused (callWith depth) hVerdict
      refine ⟨err.inFunction e.name, hRun, hBodies, ?_, fun hCount expected found => ?_⟩
      · rw [BridgeError.cause_inFunction]
        exact hRule.ofGate
      · rw [BridgeError.cause_inFunction]
        exact hRule.ne_arity hOwner (congrArg Nat.succ hCount) expected found
    | ok admitted =>
      obtain ⟨r, as⟩ := admitted
      obtain ⟨block, o, hv, -, hGenuine, -⟩ := History.runsOn hs (callWith depth) hOwner hRule
      exact absurd hGenuine (hNot block o (Option.some.inj hv))

open Sample in
theorem no_type_confusion_stamped :
    let account : Account := ⟨"first", .wrap _ 5, "savings"⟩
    let h := Sample.history [.registerType ObjectType.account "Account",
      .create ObjectType.account account,
      .make (.userdata (some (.plain (.ofText "Account"))))]
    let e : EntryPoint sampleNatives := ⟨"deposit", Sample.deposit, {}⟩
    h.states.dropLast ++ [h.last] <+: h.states ∧
      (h.last.registry.identityOf? .account).isSome = true ∧
      Genuine h.states.dropLast h.last ObjectType.account 0 account ∧
      ∃ err, (e.enter (callWith 0) [.userdata 1, .integer 3]).run h.last =
        (.error err, h.last.afterRefusal e.name err) := by
  intro account h e
  have hRegistered : (h.last.registry.identityOf? .account).isSome = true := rfl
  obtain ⟨hGuarded, -, hMember⟩ :=
    no_type_confusion h h.prefix_last ObjectType.account hRegistered
  have hNot (block : Nat) (o : Account) (hv : Value.userdata 1 = .userdata block) :
      ¬ Genuine h.states.dropLast h.last ObjectType.account block o := by
    cases hv
    rintro ⟨g, hContent, -⟩
    cases hContent
  obtain ⟨err, hRun, -⟩ := (hMember e rfl 0 (.userdata 1) [.integer 3]).2 hNot
  exact ⟨h.prefix_last, hRegistered, (hGuarded 0).genuine false account rfl, err, hRun⟩

open Sample in
theorem released_again_without_error :
    let account : Account := ⟨"first", .wrap _ 5, "savings"⟩
    let h := Sample.history [.registerType ObjectType.account "Account",
      .create ObjectType.account account,
      .native 0 do let _ ← Program.destroy (t := ObjectType.account) ⟨0⟩]
    let e : EntryPoint sampleNatives := ⟨"deposit", Sample.deposit, {}⟩
    (∀ past o, ¬ Genuine past h.last ObjectType.account 0 o) ∧
      ((Access.release ObjectType.account 0).run h.last).1 = .ok false ∧
      ∃ err, ((e.enter (callWith 0) [.userdata 0]).run h.last).1 = .error err ∧
        err.cause = .arity 2 1 := by
  intro account h e
  refine ⟨?_, rfl, _, rfl, rfl⟩
  rintro past o ⟨g, hContent, hObject, -⟩
  cases hContent
  cases hObject

end ScriptBridge
