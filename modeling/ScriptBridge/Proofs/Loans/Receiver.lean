import ScriptBridge.Proofs.Gates.Entry
import ScriptBridge.Proofs.Loans.Sheltered

/-!
# Receivers while their members run

A member that only reads its receiver runs under a shared loan of it, so nothing that happens
meanwhile changes the object. A member that changes its receiver runs under an exclusive loan: until
it returns nothing else reaches the object, and what it leaves is what it gives back.
-/
namespace ScriptBridge
set_option autoImplicit false

variable {N : Natives} {α : Type} {call : Caller N} {s s' : State N} {marks : List (Mark N)}
  {owner : N.ObjectType} {block : Nat}

namespace Sheltered

theorem body (hCall : ∀ g vs, Sheltered none (call g vs)) (b : BodyRun N) (p : Program N α) :
    Sheltered none (b.run call p) :=
  composable_sheltered.body hCall
    (fun _ => .announce (fun _ => rfl) (fun _ => rfl) fun _ => rfl) b p

/-- Under the loan of an access that does not write the object itself, the object stays as it is. -/
theorem lending_frozen {mode : Bool} {f : Handle N owner → Run N (Except BridgeError α)}
    (hf : ∀ g, Sheltered none (f g)) (hp : (Access.lending owner block mode f).Passes s marks s') :
    s'.contentOf block = s.contentOf block := by
  cases hLend : s.lendable owner block mode with
  | error e =>
    rw [Access.lending, Run.passes_look_iff, hLend] at hp
    obtain ⟨-, rfl⟩ := Run.passes_pure_iff.mp hp
    rfl
  | ok g =>
    have hlt := State.lt_length_of_contentOf (State.lendable_eq_ok_iff.mp hLend).1
    have hLent : (s.lend block mode).isLent block = true :=
      State.isLent_iff.mpr ⟨_, List.mem_cons_self, rfl⟩
    rcases (Access.passes_lending_iff hLend).mp hp with ⟨-, rfl⟩ | ⟨rest, -, hInner⟩ | ⟨-, rfl⟩
    · rfl
    · exact ((hf g).shelters hInner).frozen block hlt (Option.some_ne_none _) hLent
    · rw [Access.run_lending hLend]
      exact ((hf g).shelters (Run.passes_last _ _)).frozen block hlt (Option.some_ne_none _) hLent

theorem shared_frozen {f : N.Payload owner → Run N α} (hf : ∀ o, Sheltered none (f o))
    (hp : (Access.shared owner block f).Passes s marks s') :
    s'.contentOf block = s.contentOf block := by
  refine lending_frozen (fun g => ?_) hp
  split
  · exact .done _ _
  · exact .bind (hf _) fun _ => .done _ _

end Sheltered

namespace EntryPoint

variable {e : EntryPoint N} {args : List Value}

theorem frozen_of_answer {ended : Except BridgeError Nat × Frame}
    (hp : (e.answer ended).Passes s marks s') : s'.contentOf block = s.contentOf block := by
  rcases ended with ⟨outcome, f⟩
  cases outcome with
  | ok count =>
    rcases Run.passes_announce_iff.mp (Run.passes_map_iff.mp hp) with ⟨-, rfl⟩ | ⟨-, rfl⟩
    · rfl
    · rfl
  | error error =>
    rcases Run.passes_announce_iff.mp (Run.passes_map_iff.mp hp) with ⟨-, rfl⟩ | ⟨-, rfl⟩
    · rfl
    · rfl

theorem frozen_of_evaluate
    (h : ∀ marks s', (e.callable.evaluate call (e.frame args)).Passes s.countCall marks s' →
      s'.contentOf block = s.contentOf block)
    (hp : (e.enter call args).Passes s marks s') : s'.contentOf block = s.contentOf block := by
  rcases Run.passes_bind_iff.mp hp with hCalled | ⟨rest, -, hInvoke⟩
  · rcases Run.passes_announce_iff.mp hCalled with ⟨-, rfl⟩ | ⟨-, rfl⟩ <;> rfl
  · rcases Run.passes_bind_iff.mp hInvoke with hInvoke | ⟨rest, -, hAnswer⟩
    · exact h _ _ (Run.passes_map_iff.mp hInvoke)
    · rw [frozen_of_answer hAnswer, Callable.run_invoke]
      exact h _ _ (Run.passes_last _ _)

theorem passes_enter (hp : (e.callable.evaluate call (e.frame args)).Passes s.countCall marks s') :
    (e.enter call args).Passes s (.called e args :: marks) s' := by
  refine Run.passes_bind_iff.mpr (.inr ⟨marks, rfl, ?_⟩)
  exact Run.passes_bind_iff.mpr (.inl (Run.passes_map_iff.mpr hp))

theorem verdict_of_ran {r : Option Nat} {as : Args e.callable.params}
    (hCall : ∀ g vs, Quiet 1 (call g vs))
    (hRan : ⟨e.callable, r, as⟩ ∈ ownBodies ((e.enter call args).trace s)) :
    e.callable.verdict s (e.frame args) = .ok (r, as) := by
  cases hVerdict : e.callable.verdict s (e.frame args) with
  | error err =>
    rw [(enter_refused call hVerdict).2] at hRan
    cases hRan
  | ok admitted =>
    rw [(enter_admitted hCall hVerdict).2, List.mem_singleton] at hRan
    cases hRan
    rfl

end EntryPoint

namespace Callable

variable {c : Callable N} {f : Frame} {as : Args c.params}

theorem evaluate_frozen {body : N.Payload owner → Args c.params → Program N c.returns.Native}
    (hCall : ∀ g vs, Sheltered none (call g vs)) (hBody : c.body = .shared owner body)
    (h : c.verdict s f = .ok (some block, as)) (hp : (c.evaluate call f).Passes s marks s') :
    s'.contentOf block = s.contentOf block := by
  obtain ⟨b, o, hBlock, hGates, -, -⟩ := admitted_shared hBody h
  obtain rfl := Option.some.inj hBlock
  simp only [evaluate, hBody] at hp
  rw [Run.passes_look_iff, hGates] at hp
  refine Sheltered.shared_frozen (fun o => .look fun s => ?_) (Run.passes_map_iff.mp hp)
  split
  · exact .done _ _
  · exact .bind (.body hCall _ _) fun _ => .done _ _

/-- A member that only reads its receiver runs on the object under a shared loan of it. -/
theorem evaluate_shared (call : Caller N)
    {body : N.Payload owner → Args c.params → Program N c.returns.Native}
    (hBody : c.body = .shared owner body) (h : c.verdict s f = .ok (some block, as)) :
    ∃ g o, s.lendable owner block false = .ok g ∧ g.object = some o ∧
      ∀ marks s', (BodyRun.run call ⟨c, some block, as⟩ (body o as)).Passes (s.lend block false)
        marks s' → (c.evaluate call f).Passes s (.lent ⟨block, false⟩ :: marks) s' := by
  obtain ⟨b, o, hBlock, hGates, hObject, hArgs⟩ := admitted_shared hBody h
  obtain rfl := Option.some.inj hBlock
  obtain ⟨g, hLend, hShown⟩ := State.objectFor_eq_ok_iff.mp hObject
  refine ⟨g, o, hLend, hShown, fun marks s' hp => ?_⟩
  simp only [evaluate, hBody]
  rw [Run.passes_look_iff, hGates]
  refine Run.passes_map_iff.mpr ?_
  refine (Access.passes_lending_iff hLend).mpr (.inr (.inl ⟨marks, rfl, ?_⟩))
  rw [hShown]
  refine Run.passes_map_iff.mpr (Run.passes_look_iff.mpr ?_)
  have hArgs : f.decodeArgs (s.lend block false).identities 2 c.params = .ok as := hArgs
  rw [hArgs]
  exact Run.passes_map_iff.mpr hp

/-- A member that changes its receiver runs under the exclusive loan of it, and leaves the object
that it gives back. -/
theorem evaluate_exclusive (call : Caller N)
    {body : N.Payload owner → Args c.params → Program N (c.returns.Native × N.Payload owner)}
    (hBody : c.body = .exclusive owner body) (h : c.verdict s f = .ok (some block, as)) :
    ∃ g o, s.lendable owner block true = .ok g ∧ g.object = some o ∧
      let m := BodyRun.run call ⟨c, some block, as⟩ (body o as)
      (∀ marks s', m.Passes (s.lend block true) marks s' →
        (c.evaluate call f).Passes s (.lent ⟨block, true⟩ :: marks) s') ∧
      ((c.evaluate call f).run s).2 =
        (let last := m.run (s.lend block true)
        (last.2.setHandle owner block { g with object := some last.1.2 }).endLoan) := by
  obtain ⟨b, o, hBlock, hGates, hObject⟩ := admitted_exclusive hBody h
  obtain rfl := Option.some.inj hBlock
  obtain ⟨g, hLend, hShown⟩ := State.objectFor_eq_ok_iff.mp hObject
  refine ⟨g, o, hLend, hShown, fun marks s' hp => ?_, ?_⟩
  · simp only [evaluate, hBody]
    rw [Run.passes_look_iff, hGates]
    refine (Access.passes_lending_iff hLend).mpr (.inr (.inl ⟨marks, rfl, ?_⟩))
    rw [hShown]
    exact Run.passes_bind_iff.mpr (.inl hp)
  · simp only [evaluate, hBody, Run.run_look]
    rw [hGates]
    simp only [(Access.exclusive_shown hLend hShown).1]

theorem receiver_eq_ok {τ : Type} {ids : Identities τ} {t : τ}
    (h : f.receiver ids t 1 = .ok block) : f.args[0]? = some (.userdata block) := by
  unfold Frame.receiver at h
  split at h
  · cases h
  · split at h
    · rename_i hStamped
      cases h
      cases hv : f.args[0]? with
      | none =>
        rw [Frame.value?, hv] at hStamped
        cases (Identities.stamped_eq_ok_iff.mp hStamped).1
      | some v =>
        rw [Frame.value?, hv] at hStamped
        rw [← (Identities.stamped_eq_ok_iff.mp hStamped).1]
        rfl
    · cases h

theorem admitted_member {r : Option Nat} {bs : Args c.params} (hOwner : c.owner? = some owner)
    (h : c.verdict s f = .ok (r, bs)) :
    ∃ block mode o, f.args[0]? = some (.userdata block) ∧ s.objectFor owner block mode = .ok o := by
  rcases body_of_member hOwner with ⟨body, hBody⟩ | ⟨body, hBody⟩
  · obtain ⟨block, o, -, hGates, hObject, -⟩ := admitted_shared hBody h
    obtain ⟨_, -, hReceiver⟩ := bind_eq_ok_iff.mp hGates
    exact ⟨block, false, o, receiver_eq_ok hReceiver, hObject⟩
  · obtain ⟨block, o, -, hGates, hObject⟩ := admitted_exclusive hBody h
    obtain ⟨_, -, hGates⟩ := bind_eq_ok_iff.mp hGates
    obtain ⟨b, hReceiver, hGates⟩ := bind_eq_ok_iff.mp hGates
    obtain ⟨_, -, hGates⟩ := bind_eq_ok_iff.mp hGates
    cases hGates
    exact ⟨block, true, o, receiver_eq_ok hReceiver, hObject⟩

end Callable

namespace State

/-- Whatever reaches for the object in a block fails and has no effect; a call of a member is
counted and logged as any call that is stopped. -/
structure Barred (s : State N) (block : Nat) : Prop where
  shared {α : Type} (t : N.ObjectType) (f : N.Payload t → Run N α) :
    ∃ err, (Access.shared t block f).run s = (.error err, s) ∧ (Access.shared t block f).trace s = []
  exclusive {α : Type} (t : N.ObjectType) (f : N.Payload t → Run N (α × N.Payload t)) :
    ∃ err, (Access.exclusive t block f).run s = (.error err, s) ∧
      (Access.exclusive t block f).trace s = []
  release (t : N.ObjectType) :
    ∃ err, (Access.release t block).run s = (.error err, s) ∧ (Access.release t block).trace s = []
  isLive (t : N.ObjectType) : (Access.isLive t block).run s = (false, s)
  member (call : Caller N) (e : EntryPoint N) (vs : List Value) (hMember : e.callable.isMember) :
    ∃ err, (e.enter call (.userdata block :: vs)).run s = (.error err, s.afterRefusal e.name err) ∧
      ownBodies ((e.enter call (.userdata block :: vs)).trace s) = []

theorem refused_of_lent (h : ⟨block, true⟩ ∈ s.loans) (t : N.ObjectType) (mode : Bool) :
    ∃ failure, s.lendable t block mode = .error failure := by
  cases hLend : s.lendable t block mode with
  | error failure => exact ⟨failure, rfl⟩
  | ok g =>
    have hMay := (lendable_eq_ok_iff.mp hLend).2
    have hLent : s.isLentExclusively block = true := isLentExclusively_iff.mpr ⟨_, h, rfl, rfl⟩
    cases mode with
    | false =>
      rw [mayLend_shared_iff.mp hMay] at hLent
      cases hLent
    | true =>
      have hLent := isLent_of_isLentExclusively hLent
      rw [mayLend_exclusive_iff.mp hMay] at hLent
      cases hLent

theorem barred_of_lent (h : ⟨block, true⟩ ∈ s.loans) : s.Barred block where
  shared t f := by
    obtain ⟨failure, hLend⟩ := refused_of_lent h t false
    exact ⟨_, Access.lending_refused hLend⟩
  exclusive t f := by
    obtain ⟨failure, hLend⟩ := refused_of_lent h t true
    exact ⟨_, Access.lending_refused hLend⟩
  release t := by
    obtain ⟨failure, hLend⟩ := refused_of_lent h t true
    exact ⟨_, Access.lending_refused hLend⟩
  isLive t := by
    obtain ⟨failure, hLend⟩ := refused_of_lent h t false
    rw [Access.isLive, Run.run_bind, (Access.lending_refused hLend).1]
    rfl
  member call e vs hMember := by
    obtain ⟨owner, hOwner⟩ := Option.isSome_iff_exists.mp hMember
    cases hVerdict : e.callable.verdict s (e.frame (.userdata block :: vs)) with
    | error err => exact ⟨_, EntryPoint.enter_refused call hVerdict⟩
    | ok admitted =>
      obtain ⟨b, mode, o, hArgs, hObject⟩ := Callable.admitted_member hOwner hVerdict
      cases hArgs
      obtain ⟨failure, hLend⟩ := refused_of_lent h owner mode
      obtain ⟨g, hLend', -⟩ := objectFor_eq_ok_iff.mp hObject
      rw [hLend] at hLend'
      cases hLend'

end State

/-- A receiver is frozen while a member runs on it. While a member that only reads it runs, and
afterwards, its object is what it was. While a member that changes it runs, its object is what it
was and nothing else reaches it; afterwards it is what the body has made of it. -/
theorem receiver_frozen (s : State N) (e : EntryPoint N) (depth : Nat) (args : List Value) {h : Nat}
    {as : Args e.callable.params}
    (hRan : ⟨e.callable, some h, as⟩ ∈ ownBodies ((e.enter (callWith depth) args).trace s)) :
    let call := e.enter (callWith depth) args
    (∀ owner body, e.callable.body = .shared owner body →
      ∃ g o, s.contentOf h = some ⟨owner, g⟩ ∧ g.object = some o ∧
        ∀ marks s', call.Passes s marks s' → s'.contentOf h = s.contentOf h) ∧
    ∀ owner body, e.callable.body = .exclusive owner body →
      ∃ g o, s.contentOf h = some ⟨owner, g⟩ ∧ g.object = some o ∧
        let start := s.countCall.lend h true
        let ran := BodyRun.run (callWith depth) ⟨e.callable, some h, as⟩ (body o as)
        (∀ marks s', ran.Passes start marks s' →
          call.Passes s (.called e args :: .lent ⟨h, true⟩ :: marks) s' ∧
            s'.contentOf h = s.contentOf h ∧ s'.Barred h) ∧
        (call.run s).2.contentOf h =
          some ⟨owner, { g with object := some (ran.run start).1.2 }⟩ := by
  have hCall (f : Value) (vs : List Value) : Sheltered none (callWith (N := N) depth f vs) :=
    compositional_sheltered.callWith depth f vs
  have hVerdict := EntryPoint.verdict_of_ran (callWith_quiet depth) hRan
  -- the body is begun in the state in which the call is counted
  have hCounted : e.callable.verdict s.countCall (e.frame args) = .ok (some h, as) := hVerdict
  refine ⟨fun owner body hBody => ?_, fun owner body hBody => ?_⟩
  · obtain ⟨b, o, hBlock, -, hObject, -⟩ := Callable.admitted_shared hBody hVerdict
    obtain rfl := Option.some.inj hBlock
    obtain ⟨g, hLend, hShown⟩ := State.objectFor_eq_ok_iff.mp hObject
    refine ⟨g, o, (State.lendable_eq_ok_iff.mp hLend).1, hShown, fun marks s' hp => ?_⟩
    refine EntryPoint.frozen_of_evaluate (fun marks s' hp => ?_) hp
    have hFrozen : s'.contentOf h = s.countCall.contentOf h :=
      Callable.evaluate_frozen hCall hBody hCounted hp
    exact hFrozen
  · obtain ⟨g, o, hLend, hShown, hInside, hLast⟩ :=
      Callable.evaluate_exclusive (callWith depth) hBody hCounted
    have hContent : s.contentOf h = some ⟨owner, g⟩ := (State.lendable_eq_ok_iff.mp hLend).1
    have hlt : h < s.blocks.length := State.lt_length_of_contentOf hContent
    have hBodySheltered := Sheltered.body hCall ⟨e.callable, some h, as⟩ (body o as)
    refine ⟨g, o, hContent, hShown, fun marks s' hp => ⟨?_, ?_, ?_⟩, ?_⟩
    · exact EntryPoint.passes_enter (hInside _ _ hp)
    · exact (hBodySheltered.shelters hp).frozen h hlt (Option.some_ne_none _)
        (State.isLent_iff.mpr ⟨_, List.mem_cons_self, rfl⟩)
    · exact State.barred_of_lent ((hBodySheltered.shelters hp).suffix.subset List.mem_cons_self)
    · rw [EntryPoint.run_enter, EntryPoint.frozen_of_answer (Run.passes_last _ _),
        Callable.run_invoke, hLast]
      have hGrows := (hBodySheltered.shelters (Run.passes_last _ (s.countCall.lend h true))).grows
      exact State.contentOf_setHandle_self (Nat.lt_of_lt_of_le hlt hGrows)

theorem receiver_frozen_deposit :
    let s := Sample.accountHost "deposit" Sample.deposit
    let e : EntryPoint sampleNatives := ⟨"deposit", Sample.deposit, {}⟩
    let call := e.enter (callWith 0) [.userdata 0, .integer 3]
    let amount : Bounded Sample.i64 := .wrap _ 3
    ⟨Sample.deposit, some 0, (amount, ())⟩ ∈ ownBodies (call.trace s) ∧
      ∃ g o, s.contentOf 0 = some ⟨.account, g⟩ ∧ g.object = some o ∧
        (call.run s).2.contentOf 0 = some
          ⟨.account, { g with object := some { o with balance := o.balance + amount } }⟩ := by
  intro s e call amount
  have hRan : ⟨Sample.deposit, some 0, (amount, ())⟩ ∈ ownBodies (call.trace s) :=
    List.mem_singleton.mpr rfl
  obtain ⟨g, o, hContent, hObject, -, hLast⟩ :=
    (receiver_frozen s e 0 [.userdata 0, .integer 3] hRan).2 .account _ rfl
  exact ⟨hRan, g, o, hContent, hObject, hLast⟩

end ScriptBridge
