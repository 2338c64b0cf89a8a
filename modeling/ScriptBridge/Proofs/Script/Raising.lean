import ScriptBridge.Proofs.Run.Passes
import ScriptBridge.Script.Eval

/-!
# Script code as equations

How the parts of script code run: what is raised in the first part of a sequence is raised by the
sequence, and what the first part gives is what the second begins with.
-/
namespace ScriptBridge
set_option autoImplicit false

variable {N : Natives} {α β : Type} {s s' : State N}

namespace Raising

variable {m : Raising N α} {f : α → Raising N β} {a : α} {v : Value}

@[simp] theorem run_pure (a : α) (s : State N) :
    (pure a : Raising N α).run.run s = (.ok a, s) := rfl

@[simp] theorem run_ofRun (r : Run N α) (s : State N) :
    (ofRun r).run.run s = (.ok (r.run s).1, (r.run s).2) :=
  Run.run_bind r _ s

theorem run_bind_ok (h : m.run.run s = (.ok a, s')) :
    (m >>= f).run.run s = (f a).run.run s' := by
  change (m.run >>= ExceptT.bindCont f).run s = _
  rw [Run.run_bind, h]
  rfl

theorem run_bind_error (h : m.run.run s = (.error v, s')) :
    (m >>= f).run.run s = (.error v, s') := by
  change (m.run >>= ExceptT.bindCont f).run s = _
  rw [Run.run_bind, h]
  rfl

end Raising

section Functions

variable {id depth : Nat} {args : List Value}

theorem run_callWith_entry {e : EntryPoint N} (he : s.functions[id]? = some (.entry e)) :
    (callWith (depth + 1) (.function id) args).run s =
      (((e.enter (callWith depth) args).run s).1.mapError fun error =>
        .error (.callback "" (.bridge error)), ((e.enter (callWith depth) args).run s).2) := by
  simp only [callWith, Run.run_look, he]
  rw [Run.run_bind, Run.run_pure]

theorem trace_callWith_entry {e : EntryPoint N} (he : s.functions[id]? = some (.entry e)) :
    (callWith (depth + 1) (.function id) args).trace s =
      (e.enter (callWith depth) args).trace s := by
  simp only [callWith, Run.trace_look, he]
  rw [Run.trace_bind, Run.trace_pure, List.append_nil]

theorem run_callWith_lambda {body : List (Stmt Value)}
    (hBody : s.functions[id]? = some (.lambda body)) :
    (callWith (depth + 1) (.function id) args).run s =
      (((execBody (callWith depth) body).run.run s).1.map fun () => [],
        ((execBody (callWith depth) body).run.run s).2) := by
  simp only [callWith, Run.run_look, hBody]
  rw [Run.run_bind, Run.run_pure]

end Functions

end ScriptBridge
