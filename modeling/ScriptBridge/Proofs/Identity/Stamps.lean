import ScriptBridge.Proofs.Gates.Entry
import ScriptBridge.Proofs.Objects.Destroyed

/-!
# Stamps that can be trusted

If the host sets no stamps itself, the stamp of a handle is the identifier of the type of its
object, at all times. So whatever is stamped as an object of a type holds an object of that type, or
what is left of one, and handles pass the check of their type as long as there is the host.
-/
namespace ScriptBridge
set_option autoImplicit false

theorem Value.coerceText?_ofText (s : String) : (ofText s).coerceText? = .ok (some s) := by
  simp only [ofText, coerceText?, coerceText, coerceString?, fromUTF8?_toUTF8]
  rfl

variable {N : Natives}

theorem Registry.Grown.inverse {r : Registry N.ObjectType} (h : r.Grown) : r.Inverse := by
  induction h with
  | empty => exact .empty
  | register _ hr ih => exact (admits_of_register hr).2.inverse ih

namespace State

variable {s s' : State N} {t : N.ObjectType} {block other : Nat} {h : Handle N t} {o : N.Payload t}
  {identifier : String} {v : Value}

@[simp] theorem identifier?_identities (s : State N) (t : N.ObjectType) :
    s.identities.identifier? t = s.registry.identifier? t := rfl

theorem stamp?_of_text (hStamp : s.stampOf block = .ofText identifier) :
    s.identities.stamp? block = some identifier := by
  simp only [identities, hStamp, Value.coerceText?_ofText]

theorem stamp?_of_nil (hStamp : s.stampOf block = .nil) : s.identities.stamp? block = none := by
  simp only [identities, hStamp]
  rfl

/-- `v` is userdata that is stamped as an object of type `t`. -/
def Checked (s : State N) (t : N.ObjectType) (v : Value) (block : Nat) : Prop :=
  ∃ identifier, s.registry.identifier? t = some identifier ∧
    s.identities.stamped identifier v = .ok block

/-- The check of a parameter that refers to an object. -/
theorem decode_eq_ok_iff (codec : CodecConfig) {r : ObjectRef t} :
    Codec.decode codec s.identities (.object t) v = .ok r ↔ s.Checked t v r.block := by
  cases hIdentifier : s.registry.identifier? t with
  | none => simp [Codec.decode, Checked, hIdentifier]
  | some expected =>
    cases hStamped : s.identities.stamped expected v with
    | error found => simp [Codec.decode, Checked, hIdentifier, hStamped, Except.map]
    | ok b =>
      cases r
      simp [Codec.decode, Checked, hIdentifier, hStamped, Except.map]

/-- The check of a receiver. -/
theorem receiver_eq_ok_iff {f : Frame} (hArgs : f.args[0]? = some v) :
    f.receiver s.identities t 1 = .ok block ↔ s.Checked t v block := by
  have hValue : f.value? 1 = some v := hArgs
  cases hIdentifier : s.registry.identifier? t with
  | none => simp [Frame.receiver, Checked, hIdentifier]
  | some expected =>
    cases hStamped : s.identities.stamped expected v with
    | error found => simp [Frame.receiver, Checked, hIdentifier, hValue, hStamped]
    | ok b => simp [Frame.receiver, Checked, hIdentifier, hValue, hStamped]

/-- Every stamp is the identifier of what is in the block, and there are no others. -/
structure Trusted (s : State N) : Prop where
  inverse : s.registry.Inverse
  handles : ∀ (block : Nat) (t : N.ObjectType) (h : Handle N t), s.contentOf block = some ⟨t, h⟩ →
    s.stampOf block = .ofText h.identifier ∧ s.registry.Knows ⟨t, h.identifier⟩
  foreign : ∀ block : Nat, s.contentOf block = none → s.stampOf block = .nil

namespace Trusted

theorem congr (hs : s.Trusted) (hInverse : s'.registry.Inverse)
    (hExtends : s.registry.Extends s'.registry)
    (hStamps : ∀ block, s'.stampOf block = s.stampOf block)
    (hContents : ∀ block t (h : Handle N t), s'.contentOf block = some ⟨t, h⟩ →
      ∃ o, s.contentOf block = some ⟨t, { h with object := o }⟩)
    (hForeign : ∀ block, s'.contentOf block = none → s.contentOf block = none) : s'.Trusted where
  inverse := hInverse
  handles block t h hContent := by
    obtain ⟨o, ho⟩ := hContents block t h hContent
    obtain ⟨hStamp, hKnown⟩ := hs.handles block t _ ho
    exact ⟨(hStamps block).trans hStamp, hExtends.knows hKnown⟩
  foreign block hNone := (hStamps block).trans (hs.foreign block (hForeign block hNone))

theorem same (hs : s.Trusted) (h : s.SameObjects s') (hInverse : s'.registry.Inverse)
    (hExtends : s.registry.Extends s'.registry) : s'.Trusted := by
  refine hs.congr hInverse hExtends (stampOf_congr h.blocks) (fun block t g hContent => ?_)
    fun block hNone => ?_
  · rw [contentOf_congr h.blocks] at hContent
    exact ⟨g.object, hContent⟩
  · rwa [contentOf_congr h.blocks] at hNone

theorem addHandle (hs : s.Trusted) (hIdentifier : s.registry.identifier? t = some identifier)
    (o : N.Payload t) : (s.addHandle t identifier o).Trusted where
  inverse := hs.inverse
  handles block u g hContent := by
    rw [contentOf_addHandle] at hContent
    rw [stampOf_addHandle]
    by_cases hNew : block = s.blocks.length
    · rw [if_pos hNew] at hContent
      cases hContent
      rw [if_pos hNew]
      exact ⟨rfl, Registry.identifier?_eq_some_iff.mp hIdentifier⟩
    · rw [if_neg hNew] at hContent
      rw [if_neg hNew]
      exact hs.handles block u g hContent
  foreign block hNone := by
    rw [contentOf_addHandle] at hNone
    rw [stampOf_addHandle]
    by_cases hNew : block = s.blocks.length
    · rw [if_pos hNew] at hNone
      cases hNone
    · rw [if_neg hNew] at hNone
      rw [if_neg hNew]
      exact hs.foreign block hNone

theorem setHandle (hs : s.Trusted) (hContent : s.contentOf block = some ⟨t, h⟩)
    (o : Option (N.Payload t)) : (s.setHandle t block { h with object := o }).Trusted := by
  refine hs.congr hs.inverse (.refl _) (s.stampOf_setHandle block _)
    (fun _ _ _ hg => handle_of_setHandle hContent o hg) fun other hNone => ?_
  by_cases he : other = block
  · rw [he, contentOf_setHandle_self (lt_length_of_contentOf hContent)] at hNone
    cases hNone
  · rwa [contentOf_setHandle_of_ne he] at hNone

theorem law : ObjectLaw (N := N) false fun s s' => s.Trusted → s'.Trusted where
  trans h h' hs := h' (h hs)
  aside h hRegistry hs := hs.same h (hRegistry ▸ hs.inverse) (hRegistry ▸ .refl _)
  typed h hAdmits hs := hs.same h (hAdmits.inverse hs.inverse) hAdmits.grows
  created hIdentifier o hs := hs.addHandle hIdentifier o
  dropped _ _ hs := hs.congr hs.inverse (.refl _) (fun _ => rfl) (fun _ _ h hContent => ⟨h.object, hContent⟩)
    fun _ => id
  foreign s stamp h hs := by
    obtain rfl := h rfl
    refine hs.congr hs.inverse (.refl _) (fun block => ?_) (fun block t g hg => ?_) fun block hNone => ?_
    · rw [stampOf_addForeign]
      split
      · rename_i he
        refine (hs.foreign block ?_).symm
        rw [contentOf, he, List.getElem?_eq_none (Nat.le_refl _)]
        rfl
      · rfl
    · exact ⟨g.object, s.contentOf_addForeign .nil block ▸ hg⟩
    · rwa [contentOf_addForeign] at hNone
  restamped _ _ _ h := nomatch h
  written hContent _ o' hs := hs.setHandle hContent (some o')
  ended hContent _ _ hs :=
    (hs.setHandle hContent none).congr hs.inverse (.refl _) (fun _ => rfl)
      (fun _ _ h hContent => ⟨h.object, hContent⟩) fun _ => id

/-- What passes the check of a type holds an object of the type. -/
theorem payload (hs : s.Trusted) (h : s.Checked t v block) :
    ∃ g : Handle N t, s.contentOf block = some ⟨t, g⟩ := by
  obtain ⟨identifier, hIdentifier, hStamped⟩ := h
  obtain ⟨rfl, hStamp⟩ := Identities.stamped_eq_ok_iff.mp hStamped
  cases hContent : s.contentOf block with
  | none =>
    rw [stamp?_of_nil (hs.foreign block hContent)] at hStamp
    cases hStamp
  | some c =>
    obtain ⟨u, g⟩ := c
    obtain ⟨hText, hKnown⟩ := hs.handles block u g hContent
    rw [stamp?_of_text hText] at hStamp
    have hSame := hs.inverse.eq_of_identifier hKnown (Registry.identifier?_eq_some_iff.mp hIdentifier)
      (Option.some.inj hStamp)
    cases hSame
    exact ⟨g, rfl⟩

theorem checked (hs : s.Trusted) (hContent : s.contentOf block = some ⟨t, h⟩) :
    s.Checked t (.userdata block) block := by
  obtain ⟨hText, hKnown⟩ := hs.handles block t h hContent
  exact ⟨h.identifier, Registry.identifier?_eq_some_iff.mpr hKnown,
    Identities.stamped_eq_ok_iff.mpr ⟨rfl, stamp?_of_text hText⟩⟩

end Trusted

end State

theorem History.trusted {h : History N} (hOps : ∀ op ∈ h.operations, op.Unforged) :
    ∀ s ∈ h.states, s.Trusted := by
  refine State.Trusted.law.invariant (fun _ => hOps) ?_
  obtain ⟨opened, names, limit, hOpened⟩ := Host.opened_of_create h.created
  rw [hOpened]
  exact ⟨h.grown.inverse, fun _ _ _ hContent => (nomatch hContent), fun _ _ => rfl⟩

/-- An access to what holds an object of the type may be refused, but not for its type. -/
theorem State.text_ne_otherPayload {s : State N} {t : N.ObjectType} {block : Nat} {g : Handle N t}
    {exclusive : Bool} {failure : RuntimeError} (hContent : s.contentOf block = some ⟨t, g⟩)
    (hLend : s.lendable t block exclusive = .error failure) :
    failure.text ≠ RuntimeError.otherPayload.text := by
  rw [lendable, handle?_eq_some_iff.mpr hContent] at hLend
  dsimp only at hLend
  split at hLend
  · cases hLend
  · cases hLend
    cases exclusive <;> decide

theorem GateRule.ne_otherPayload {e : EntryPoint N} {s : State N} {args : List Value}
    {err : BridgeError} (hs : s.Trusted) (h : GateRule e s args (.error err)) :
    err.cause ≠ .runtime RuntimeError.otherPayload.text := by
  have hRefused {owner : N.ObjectType} {block : Nat} {vs : List Value} {onlyReads exclusive : Bool}
      {failure : RuntimeError} (hOn : OnReceiver e s args onlyReads owner block vs)
      (hLend : s.lendable owner block exclusive = .error failure) :
      failure.text ≠ RuntimeError.otherPayload.text := by
    obtain ⟨identifier, hIdentifier, hStamp⟩ := hOn.stamped
    obtain ⟨g, hContent⟩ := hs.payload (v := .userdata block)
      ⟨identifier, hIdentifier, Identities.stamped_eq_ok_iff.mpr ⟨rfl, hStamp⟩⟩
    exact State.text_ne_otherPayload hContent hLend
  cases h with
  | sharedBorrow hOn hLend =>
    intro hCause
    exact hRefused hOn hLend (Cause.runtime.inj hCause)
  | exclusiveBorrow hOn _ hLend =>
    intro hCause
    exact hRefused hOn hLend (Cause.runtime.inj hCause)
  | _ => nofun

theorem EntryPoint.enter_ne_otherPayload {e : EntryPoint N} {s : State N} {depth : Nat}
    {args : List Value} {err : BridgeError} (hs : s.Trusted)
    (hOwner : ∀ t, e.callable.owner? = some t → (s.registry.identityOf? t).isSome = true)
    (hError : ((e.enter (callWith depth) args).run s).1 = .error err) :
    err.cause ≠ .runtime RuntimeError.otherPayload.text := by
  obtain ⟨answer, hRule⟩ := GateRule.exists_of_identity args hOwner
  have hVerdict := hRule.verdict_eq
  cases answer with
  | error gate =>
    rw [(enter_refused (callWith depth) hVerdict).1] at hError
    cases hError
    rw [BridgeError.cause_inFunction]
    exact hRule.ne_otherPayload hs
  | ok admitted =>
    intro hCause
    have hBody := (enter_admitted (callWith_quiet depth) hVerdict).1 err hError
    rw [hCause] at hBody
    exact hBody

theorem State.contentOf_of_create {s s' : State N} {t : N.ObjectType} {o : N.Payload t}
    {r : ObjectRef t} (hCreate : (createHandle t o).run s = (.ok r, s')) :
    ∃ g : Handle N t, s'.contentOf r.block = some ⟨t, g⟩ := by
  cases hIdentifier : s.registry.identifier? t with
  | none =>
    rw [run_createHandle_unregistered hIdentifier] at hCreate
    cases hCreate
  | some identifier =>
    rw [run_createHandle_registered hIdentifier] at hCreate
    cases hCreate
    exact ⟨_, (s.contentOf_addHandle t identifier o _).trans (if_pos rfl)⟩

/-- Stamps can be trusted if the host sets none itself. The stamp of a handle is the identifier of
what it was made for, which is still registered. What passes the check of a type, as a receiver or
as an argument, holds an object of the type from then on, and no access to it and no call finds
another; and a handle passes the check of its type from its creation on. -/
theorem stamps_trustworthy (h : History N) (hOps : ∀ op ∈ h.operations, op.Unforged) :
    (∀ s ∈ h.states, ∀ (block : Nat) (t : N.ObjectType) (g : Handle N t),
      s.contentOf block = some ⟨t, g⟩ →
        s.stampOf block = .ofText g.identifier ∧ s.registry.identifier? t = some g.identifier) ∧
    (∀ s s', h.Precedes s s' → ∀ (t : N.ObjectType) (v : Value) (block : Nat),
      ((∃ codec, Codec.decode codec s.identities (.object t) v = .ok (ObjectRef.mk block)) ∨
        ∃ f : Frame, f.args[0]? = some v ∧ f.receiver s.identities t 1 = .ok block) →
        (∃ g : Handle N t, s'.contentOf block = some ⟨t, g⟩) ∧
          ∀ exclusive, s'.lendable t block exclusive ≠ .error .otherPayload) ∧
    (∀ s ∈ h.states, ∀ e, .entry e ∈ s.functions → ∀ depth args err,
      ((e.enter (callWith depth) args).run s).1 = .error err →
        err.cause ≠ .runtime RuntimeError.otherPayload.text) ∧
    ∀ s s' (t : N.ObjectType) (o : N.Payload t) r, (createHandle t o).run s = (.ok r, s') →
      ∀ s'', h.Precedes s' s'' →
        (∀ codec, Codec.decode codec s''.identities (.object t) (.userdata r.block) = .ok r) ∧
          ∀ f : Frame, f.args[0]? = some (.userdata r.block) →
            f.receiver s''.identities t 1 = .ok r.block := by
  have hTrusted := History.trusted hOps
  refine ⟨fun s hs block t g hContent => ?_, fun s s' hp t v block hPasses => ?_,
    fun s hs e he depth args err hError => ?_, fun s s' t o r hCreate s'' hp => ?_⟩
  · obtain ⟨hStamp, hKnown⟩ := (hTrusted s hs).handles block t g hContent
    exact ⟨hStamp, Registry.identifier?_eq_some_iff.mpr hKnown⟩
  · have hChecked : s.Checked t v block := by
      rcases hPasses with ⟨codec, hDecode⟩ | ⟨f, hArgs, hReceiver⟩
      · exact (State.decode_eq_ok_iff codec).mp hDecode
      · exact (State.receiver_eq_ok_iff hArgs).mp hReceiver
    obtain ⟨g, hContent⟩ := (hTrusted s hp.mem_left).payload hChecked
    obtain ⟨o, hContent', -⟩ := (hp.rel (.refl s) h.persists).handles block t g hContent
    exact ⟨⟨_, hContent'⟩, fun exclusive hLend => State.text_ne_otherPayload hContent' hLend rfl⟩
  · exact EntryPoint.enter_ne_otherPayload (hTrusted s hs) ((History.reachable hs).wired e he) hError
  · obtain ⟨g, hContent⟩ := State.contentOf_of_create hCreate
    obtain ⟨o', hContent', -⟩ := (hp.rel (.refl s') h.persists).handles r.block t g hContent
    have hChecked := (hTrusted s'' hp.mem_right).checked hContent'
    exact ⟨fun codec => (State.decode_eq_ok_iff codec).mpr hChecked,
      fun f hArgs => (State.receiver_eq_ok_iff hArgs).mpr hChecked⟩

open Sample in
theorem stamps_trustworthy_account :
    let account : Account := ⟨"first", .wrap _ 5, "savings"⟩
    let h := Sample.history [.registerType ObjectType.account "Account",
      .create ObjectType.account account, .registerType ObjectType.sensor "Sensor"]
    (∀ op ∈ h.operations, op.Unforged) ∧ h.last.stampOf 0 = .ofText "Account" ∧
      h.last.registry.identifier? .account = some "Account" := by
  intro account h
  have hOps : ∀ op ∈ h.operations, op.Unforged := by
    simp [h, Sample.history, Operation.Unforged]
  obtain ⟨hStamps, -⟩ := stamps_trustworthy h hOps
  exact ⟨hOps, hStamps h.last h.last_mem 0 .account ⟨"Account", 0, some account⟩ rfl⟩

end ScriptBridge
