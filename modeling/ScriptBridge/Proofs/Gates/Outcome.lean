import ScriptBridge.Proofs.Gates.Entry

/-!
# What comes of a body

A call that is let through ends as its body does. The body begins where the gates have left the
state, under the loan of its receiver if it is a member's, and what it gives back is pushed.
-/
namespace ScriptBridge
set_option autoImplicit false

variable {N : Natives} {α : Type} {call : Caller N} {s : State N}

@[simp] theorem BodyRun.run_run (b : BodyRun N) (p : Program N α) :
    (b.run call p).run s = (p.run call).run s := by
  rw [BodyRun.run, Run.run_bind, Run.run_announce]
  rfl

theorem Program.run_bind {α β : Type} (call : Caller N) (p : Program N α) (k : α → Program N β)
    (s : State N) :
    ((p >>= k).run call).run s =
      ((k ((p.run call).run s).1).run call).run ((p.run call).run s).2 := by
  change ((p.bind k).run call).run s = _
  induction p generalizing s with
  | done a => rfl
  | captured next ih => exact ih _ _ _
  | capture c next ih => exact ih _ _
  | call f args next ih =>
    simp only [Program.bind, Program.run, Run.run_bind, Run.run_look]
    exact ih _ _ _
  | shared t r inner next ihInner ih =>
    simp only [Program.bind, Program.run, Run.run_bind]
    exact ih _ _ _
  | exclusive t r inner next ihInner ih =>
    simp only [Program.bind, Program.run, Run.run_bind]
    exact ih _ _ _
  | release t r next ih =>
    simp only [Program.bind, Program.run, Run.run_bind]
    exact ih _ _ _

namespace Callable

variable {c : Callable N} {f : Frame} {owner : N.ObjectType} {block : Nat} {r : Option Nat}
  {as : Args c.params}

theorem run_evaluate_free {shape : FreeShape} {body : Args c.params → Program N c.returns.Native}
    (hBody : c.body = .free shape body) (h : c.verdict s f = .ok (r, as)) :
    (c.evaluate call f).run s =
      (.ok (((body as).run call).run s).1, (((body as).run call).run s).2) := by
  obtain ⟨-, hGates⟩ := admitted_free hBody h
  simp only [evaluate, hBody, Run.run_look]
  rw [hGates]
  simp

theorem run_evaluate_shared {o : N.Payload owner}
    {body : N.Payload owner → Args c.params → Program N c.returns.Native}
    (hBody : c.body = .shared owner body) (h : c.verdict s f = .ok (some block, as))
    (hObject : s.objectFor owner block false = .ok o) :
    (c.evaluate call f).run s =
      let last := ((body o as).run call).run (s.lend block false)
      (.ok last.1, last.2.endLoan) := by
  obtain ⟨b, o', hBlock, hGates, hObject', hArgs⟩ := admitted_shared hBody h
  obtain rfl := Option.some.inj hBlock
  obtain rfl := Except.ok.inj (hObject.symm.trans hObject')
  have hArgs : f.decodeArgs (s.lend block false).identities 2 c.params = .ok as := hArgs
  simp only [evaluate, hBody, Run.run_look]
  rw [hGates]
  simp only [Run.run_bind, (Access.shared_shown hObject).1, Run.run_look]
  rw [hArgs]
  simp [Except.bind]

theorem run_evaluate_exclusive {g : Handle N owner} {o : N.Payload owner}
    {body : N.Payload owner → Args c.params → Program N (c.returns.Native × N.Payload owner)}
    (hBody : c.body = .exclusive owner body) (h : c.verdict s f = .ok (some block, as))
    (hLend : s.lendable owner block true = .ok g) (hObject : g.object = some o) :
    (c.evaluate call f).run s =
      let last := ((body o as).run call).run (s.lend block true)
      (.ok last.1.1, (last.2.setHandle owner block { g with object := some last.1.2 }).endLoan) := by
  obtain ⟨b, o', hBlock, hGates, -⟩ := admitted_exclusive hBody h
  obtain rfl := Option.some.inj hBlock
  simp only [evaluate, hBody, Run.run_look]
  rw [hGates]
  simp only [(Access.exclusive_shown hLend hObject).1, BodyRun.run_run]

end Callable

namespace EntryPoint

variable {e : EntryPoint N} {args : List Value}

theorem run_enter_of_evaluate {a : e.callable.returns.Native} {s' : State N}
    (h : (e.callable.evaluate call (e.frame args)).run s.countCall = (.ok a, s')) :
    (e.enter call args).run s =
      (e.answer ((e.frame args).pushResult e.callable.returns a)).run s' := by
  rw [run_enter, Callable.run_invoke, h]
  rfl

end EntryPoint

end ScriptBridge
