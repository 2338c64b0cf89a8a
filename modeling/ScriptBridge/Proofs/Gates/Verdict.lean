import ScriptBridge.Proofs.Gates.Arguments
import ScriptBridge.Proofs.Loans.Access
import ScriptBridge.Proofs.Run.Composable

/-!
# The verdict of the gates

The gates of a callable as a function of the state and the frame, without the body: what stops a
call, or the receiver and the arguments it is let through with. A call that is stopped leaves the
state as it was; a call that is let through runs the body once, on these.
-/
namespace ScriptBridge
set_option autoImplicit false

variable {N : Natives} {α : Type}

def Callable.verdict (c : Callable N) (s : State N) (f : Frame) :
    Except BridgeError (Option Nat × Args c.params) :=
  match c.body with
  | .free .. =>
    (do f.checkArity c.params.length; f.decodeArgs s.identities 1 c.params).map fun args =>
      (none, args)
  | .shared owner _ => do
    let block ← (do f.checkArity (c.params.length + 1); f.receiver s.identities owner 1)
    let _ ← s.objectFor owner block false
    let args ← f.decodeArgs s.identities 2 c.params
    return (some block, args)
  | .exclusive owner _ => do
    let (block, args) ← (do
      f.checkArity (c.params.length + 1)
      let block ← f.receiver s.identities owner 1
      let args ← f.decodeArgs s.identities 2 c.params
      return (block, args))
    let _ ← s.objectFor owner block true
    return (some block, args)

namespace Callable

variable {c : Callable N} {s : State N} {f : Frame} {owner : N.ObjectType} {r : Option Nat}
  {as : Args c.params}

theorem admitted_free {shape : FreeShape} {body : Args c.params → Program N c.returns.Native}
    (hBody : c.body = .free shape body) (h : c.verdict s f = .ok (r, as)) :
    r = none ∧
      (do f.checkArity c.params.length; f.decodeArgs s.identities 1 c.params) = .ok as := by
  simp only [verdict, hBody] at h
  cases hGates : (do f.checkArity c.params.length; f.decodeArgs s.identities 1 c.params) with
  | error e =>
    rw [hGates] at h
    cases h
  | ok bs =>
    rw [hGates] at h
    cases h
    exact ⟨rfl, rfl⟩

theorem admitted_shared {body : N.Payload owner → Args c.params → Program N c.returns.Native}
    (hBody : c.body = .shared owner body) (h : c.verdict s f = .ok (r, as)) :
    ∃ block o, r = some block ∧
      (do f.checkArity (c.params.length + 1); f.receiver s.identities owner 1) = .ok block ∧
      s.objectFor owner block false = .ok o ∧ f.decodeArgs s.identities 2 c.params = .ok as := by
  simp only [verdict, hBody] at h
  obtain ⟨block, hGates, h⟩ := bind_eq_ok_iff.mp h
  obtain ⟨o, hObject, h⟩ := bind_eq_ok_iff.mp h
  obtain ⟨bs, hArgs, h⟩ := bind_eq_ok_iff.mp h
  cases h
  exact ⟨block, o, rfl, hGates, hObject, hArgs⟩

theorem admitted_exclusive
    {body : N.Payload owner → Args c.params → Program N (c.returns.Native × N.Payload owner)}
    (hBody : c.body = .exclusive owner body) (h : c.verdict s f = .ok (r, as)) :
    ∃ block o, r = some block ∧
      (do
        f.checkArity (c.params.length + 1)
        let block ← f.receiver s.identities owner 1
        let args ← f.decodeArgs s.identities 2 c.params
        return (block, args)) = .ok (block, as) ∧
      s.objectFor owner block true = .ok o := by
  simp only [verdict, hBody] at h
  obtain ⟨⟨block, bs⟩, hGates, h⟩ := bind_eq_ok_iff.mp h
  obtain ⟨o, hObject, h⟩ := bind_eq_ok_iff.mp h
  cases h
  exact ⟨block, o, rfl, hGates, hObject⟩

end Callable

section Calls

variable {call : Caller N} {s : State N}

theorem Callable.run_invoke (c : Callable N) (f : Frame) :
    (c.invoke call f).run s =
      (f.finish c.returns ((c.evaluate call f).run s).1, ((c.evaluate call f).run s).2) := by
  rw [invoke, Run.run_bind, Run.run_pure]

theorem Callable.trace_invoke (c : Callable N) (f : Frame) :
    (c.invoke call f).trace s = (c.evaluate call f).trace s := by
  rw [invoke, Run.trace_bind, Run.trace_pure, List.append_nil]

theorem EntryPoint.trace_answer (e : EntryPoint N) (ended : Except BridgeError Nat × Frame) :
    (e.answer ended).trace s = [.answered ((e.answer ended).run s).1] := by
  rcases ended with ⟨outcome, f⟩
  cases outcome <;> rfl

theorem EntryPoint.run_enter (e : EntryPoint N) (args : List Value) :
    (e.enter call args).run s =
      (e.answer ((e.callable.invoke call (e.frame args)).run s.countCall).1).run
        ((e.callable.invoke call (e.frame args)).run s.countCall).2 := by
  rw [enter, Run.run_bind, Run.run_announce, Run.run_bind]

theorem EntryPoint.trace_enter (e : EntryPoint N) (args : List Value) :
    (e.enter call args).trace s =
      .called e args :: ((e.callable.evaluate call (e.frame args)).trace s.countCall ++
        [.answered ((e.enter call args).run s).1]) := by
  rw [run_enter, ← trace_answer, enter, Run.trace_bind, Run.trace_announce, Run.trace_bind,
    Run.run_announce, Callable.trace_invoke, List.singleton_append]

end Calls

/-- The bodies that run while exactly one call is in progress, where `depth` calls were in progress
before the marks. -/
def bodiesWithin (depth : Nat) : List (Mark N) → List (BodyRun N)
  | [] => []
  | .called .. :: marks => bodiesWithin (depth + 1) marks
  | .answered _ :: marks => bodiesWithin (depth - 1) marks
  | .ran b :: marks => if depth = 1 then b :: bodiesWithin depth marks else bodiesWithin depth marks
  | .lent _ :: marks => bodiesWithin depth marks
  | .returned :: marks => bodiesWithin depth marks

/-- The bodies that a call runs itself, read off the marks of the call; bodies of calls inside it
are left out. -/
def ownBodies (marks : List (Mark N)) : List (BodyRun N) := bodiesWithin 0 marks

/-- A computation that runs no body itself while at least `least` calls are in progress, and ends
all calls it begins. -/
def Quiet (least : Nat) (m : Run N α) : Prop :=
  ∀ s depth rest, least ≤ depth →
    bodiesWithin depth (m.trace s ++ rest) = bodiesWithin depth rest

namespace Quiet

variable {least : Nat} {t : N.ObjectType} {block : Nat}

theorem done (a : α) : Quiet least (pure a : Run N α) := fun _ _ _ _ => rfl

theorem bind {β : Type} {m : Run N α} {f : α → Run N β} (hm : Quiet least m)
    (hf : ∀ a, Quiet least (f a)) : Quiet least (m >>= f) := by
  intro s depth rest hDepth
  rw [Run.trace_bind, List.append_assoc, hm s depth _ hDepth, hf _ _ depth rest hDepth]

theorem mono {least' : Nat} {m : Run N α} (h : Quiet least m) (hle : least ≤ least') :
    Quiet least' m :=
  fun s depth rest hDepth => h s depth rest (Nat.le_trans hle hDepth)

theorem lending {exclusive : Bool} {f : Handle N t → Run N (Except BridgeError α)}
    (hf : ∀ h, Quiet least (f h)) : Quiet least (Access.lending t block exclusive f) := by
  intro s depth rest hDepth
  cases hLend : s.lendable t block exclusive with
  | error e => rw [(Access.lending_refused hLend).2, List.nil_append]
  | ok h =>
    rw [Access.trace_lending hLend, List.cons_append, List.append_assoc, bodiesWithin,
      hf h _ depth _ hDepth]
    rfl

theorem stepwise (least : Nat) : Stepwise (N := N) fun _ m => Quiet least m where
  pure := .done
  bind := .bind
  look hf s := hf s s
  assign _ _ _ _ _ _ := rfl
  lambda _ _ _ _ _ := rfl
  capture _ _ _ _ _ := rfl
  lending := .lending
  write _ _ _ _ _ _ _ := rfl
  destroy _ _ _ _ _ _ _ _ := rfl

theorem composable (least : Nat) : Composable (N := N) fun _ m => Quiet least m :=
  (stepwise least).composable

theorem ran (b : BodyRun N) : Quiet 2 (Run.announce (.ran b) id : Run N Unit) := by
  intro s depth rest hDepth
  rw [Run.trace_announce, List.singleton_append, bodiesWithin, if_neg (by omega)]

theorem compositional : Compositional (N := N) fun _ m => Quiet 1 m where
  toComposable := composable 1
  enter {call} e args hCall s depth rest hDepth := by
    have hEvaluate : Quiet 2 (e.callable.evaluate call (e.frame args)) :=
      (composable 2).evaluate (fun f vs => (hCall f vs).mono (by decide)) ran _ _
    rw [EntryPoint.trace_enter, List.cons_append, bodiesWithin, List.append_assoc,
      hEvaluate _ (depth + 1) _ (Nat.succ_le_succ hDepth)]
    rfl

end Quiet

/-- Marks that neither begin nor end a call, and begin no body. -/
def Silent (marks : List (Mark N)) : Prop :=
  ∀ depth rest, bodiesWithin depth (marks ++ rest) = bodiesWithin depth rest

theorem silent_nil : Silent (N := N) [] := fun _ _ => rfl

theorem silent_of_stopped {marks : List (Mark N)} {loan : Loan}
    (h : marks = [] ∨ marks = [.lent loan, .returned]) : Silent marks := by
  rcases h with rfl | rfl
  · exact silent_nil
  · exact fun _ _ => rfl

namespace Callable

variable {call : Caller N} {s : State N} {f : Frame}

/-- A stopped call has run no body, and the state is as it was. -/
theorem evaluate_refused (call : Caller N) {c : Callable N} {e : BridgeError}
    (h : c.verdict s f = .error e) :
    (c.evaluate call f).run s = (.error e, s) ∧ Silent ((c.evaluate call f).trace s) := by
  obtain ⟨params, returns, body⟩ := c
  cases body with
  | free shape body =>
    simp only [verdict, evaluate, Run.run_look, Run.trace_look] at h ⊢
    split
    · rename_i hGates
      rw [hGates] at h
      cases h
      exact ⟨rfl, silent_nil⟩
    · rename_i hGates
      rw [hGates] at h
      cases h
  | shared owner body =>
    simp only [verdict, evaluate, Run.run_look, Run.trace_look] at h ⊢
    split
    · rename_i hGates
      rw [hGates] at h
      cases h
      exact ⟨rfl, silent_nil⟩
    · rename_i block hGates
      rw [hGates, ok_bind] at h
      rw [Run.run_bind, Run.trace_bind, Run.trace_pure, List.append_nil]
      cases hObject : s.objectFor owner block false with
      | error e' =>
        rw [hObject] at h
        cases h
        rw [(Access.shared_stopped hObject).1]
        exact ⟨rfl, silent_of_stopped (Access.shared_stopped hObject).2⟩
      | ok o =>
        rw [hObject, ok_bind] at h
        rw [(Access.shared_shown hObject).1, (Access.shared_shown hObject).2]
        simp only [Run.run_look, Run.trace_look]
        change Except.bind (f.decodeArgs (s.lend block false).identities 2 params) _ = _ at h
        split
        · rename_i hArgs
          rw [hArgs] at h
          cases h
          exact ⟨rfl, fun _ _ => rfl⟩
        · rename_i hArgs
          rw [hArgs] at h
          cases h
  | exclusive owner body =>
    simp only [verdict, evaluate, Run.run_look, Run.trace_look] at h ⊢
    split
    · rename_i hGates
      rw [hGates] at h
      cases h
      exact ⟨rfl, silent_nil⟩
    · rename_i block args hGates
      rw [hGates, ok_bind] at h
      cases hObject : s.objectFor owner block true with
      | error e' =>
        rw [hObject] at h
        cases h
        exact ⟨(Access.exclusive_stopped hObject).1,
          silent_of_stopped (Access.exclusive_stopped hObject).2⟩
      | ok o =>
        rw [hObject] at h
        cases h

theorem bodiesWithin_run {α : Type} (hCall : ∀ g vs, Quiet 1 (call g vs)) (b : BodyRun N)
    (body : Program N α) (s : State N) (rest : List (Mark N)) :
    bodiesWithin 1 ((b.run call body).trace s ++ rest) = b :: bodiesWithin 1 rest := by
  rw [BodyRun.run, Run.trace_bind, Run.trace_announce, List.append_assoc, List.singleton_append,
    bodiesWithin, if_pos rfl, (Quiet.composable 1).program hCall body _ 1 rest (Nat.le_refl 1)]

/-- A call that is let through runs the body once, on the receiver and the arguments of the verdict,
and has a result. -/
theorem evaluate_admitted {c : Callable N} {r : Option Nat} {as : Args c.params}
    (hCall : ∀ g vs, Quiet 1 (call g vs)) (h : c.verdict s f = .ok (r, as)) :
    (∃ a, ((c.evaluate call f).run s).1 = .ok a) ∧
      ∀ rest, bodiesWithin 1 ((c.evaluate call f).trace s ++ rest) =
        ⟨c, r, as⟩ :: bodiesWithin 1 rest := by
  cases hBody : c.body with
  | free shape body =>
    obtain ⟨rfl, hGates⟩ := admitted_free hBody h
    simp only [evaluate, hBody, Run.run_look, Run.trace_look]
    rw [hGates]
    rw [Run.run_bind, Run.trace_bind, Run.trace_pure, List.append_nil]
    exact ⟨⟨_, rfl⟩, bodiesWithin_run hCall _ _ _⟩
  | shared owner body =>
    obtain ⟨block, o, rfl, hGates, hObject, hArgs⟩ := admitted_shared hBody h
    -- a loan does not change what the codec sees
    have hInside : f.decodeArgs (s.lend block false).identities 2 c.params = .ok as := hArgs
    simp only [evaluate, hBody, Run.run_look, Run.trace_look]
    rw [hGates]
    simp only [Run.run_bind, Run.trace_bind, Run.trace_pure, List.append_nil,
      (Access.shared_shown hObject).1, (Access.shared_shown hObject).2, Run.run_look,
      Run.trace_look]
    rw [hInside]
    rw [Run.run_bind, Run.trace_bind, Run.trace_pure, List.append_nil]
    refine ⟨⟨_, rfl⟩, fun rest => ?_⟩
    rw [List.cons_append, List.append_assoc, bodiesWithin, bodiesWithin_run hCall]
    rfl
  | exclusive owner body =>
    obtain ⟨block, o, rfl, hGates, hObject⟩ := admitted_exclusive hBody h
    obtain ⟨g, hLend, hShown⟩ := State.objectFor_eq_ok_iff.mp hObject
    simp only [evaluate, hBody, Run.run_look, Run.trace_look]
    rw [hGates]
    simp only [(Access.exclusive_shown hLend hShown).1, (Access.exclusive_shown hLend hShown).2]
    refine ⟨⟨_, rfl⟩, fun rest => ?_⟩
    rw [List.cons_append, List.append_assoc, bodiesWithin, bodiesWithin_run hCall]
    rfl

end Callable

end ScriptBridge
