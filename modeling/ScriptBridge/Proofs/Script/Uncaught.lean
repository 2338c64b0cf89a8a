import ScriptBridge.Host.Basic
import ScriptBridge.Proofs.Script.Raising

/-!
# Calls outside of protected calls

A call of an entry point that script code comes by, with nothing between the call and the code that
would hold an error back: script functions on the way let errors through, protected calls and native
bodies do not. If such a call fails, the code fails with its error, there and then.
-/
namespace ScriptBridge
set_option autoImplicit false

variable {N : Natives} {α β : Type}

structure CallSite (N : Natives) where
  entry : EntryPoint N
  args : List Value
  /-- How many calls may be inside one another from here on. -/
  depth : Nat
  state : State N

def CallSite.outcome (c : CallSite N) : Except BridgeError (List Value) × State N :=
  (c.entry.enter (callWith c.depth) c.args).run c.state

/-- Code begun at a state comes by the call. Script code is a sequence of parts at every level, down
to the values it calls, so a call in a part is a call in the code, once the parts before have given
their values. What a protected call runs is no such part. -/
inductive Uncaught : {α : Type} → Raising N α → State N → CallSite N → Prop where
  | call {s : State N} {id : Nat} {e : EntryPoint N} (he : s.functions[id]? = some (.entry e))
      (depth : Nat) (args : List Value) :
      Uncaught (ExceptT.mk (callWith (depth + 1) (.function id) args)) s ⟨e, args, depth, s⟩
  | frame {s : State N} {id depth : Nat} {args : List Value} {body : List (Stmt Value)}
      {site : CallSite N} (hBody : s.functions[id]? = some (.lambda body))
      (h : Uncaught (execBody (callWith depth) body) s site) :
      Uncaught (ExceptT.mk (callWith (depth + 1) (.function id) args)) s site
  | first {α β : Type} {m : Raising N α} {f : α → Raising N β} {s : State N} {site : CallSite N}
      (h : Uncaught m s site) : Uncaught (m >>= f) s site
  | later {α β : Type} {m : Raising N α} {f : α → Raising N β} {s s' : State N} {a : α}
      {site : CallSite N} (hm : m.run.run s = (.ok a, s')) (h : Uncaught (f a) s' site) :
      Uncaught (m >>= f) s site

namespace Uncaught

variable {s s' : State N} {site : CallSite N} {err : BridgeError}

theorem run_eq {m : Raising N α} (h : Uncaught m s site) (hOut : site.outcome = (.error err, s')) :
    m.run.run s = (.error (.error (.callback "" (.bridge err))), s') := by
  -- from the call outwards: every part hands on the error as the part inside it has raised it
  induction h with
  | @call s id e he depth args =>
    have hOut : (e.enter (callWith depth) args).run s = (.error err, s') := hOut
    exact (run_callWith_entry he).trans (by rw [hOut]; rfl)
  | frame hBody h ih => exact (run_callWith_lambda hBody).trans (by rw [ih hOut]; rfl)
  | first h ih => exact Raising.run_bind_error (ih hOut)
  | later hm h ih => exact (Raising.run_bind_ok hm).trans (ih hOut)

theorem run_enter {m : Raising N α} (h : Uncaught m s site)
    (hOut : site.outcome = (.error err, s')) : (Host.enter m).run s = (.error err, s') := by
  rw [Host.enter, Run.run_bind, h.run_eq hOut]
  rfl

section Positions

variable {call : Caller N} {e f : Expr Value} {es : List (Expr Value)} {st : Stmt Value}
  {ss : List (Stmt Value)} {vs : List Value}

theorem evaluated (h : Uncaught (e.eval call) s site) :
    Uncaught ((Stmt.evaluate e).exec call) s site := by
  rw [Stmt.exec]
  exact .first h

theorem head (h : Uncaught (st.exec call) s site) : Uncaught (execBody call (st :: ss)) s site := by
  rw [execBody]
  exact .first h

theorem tail (hst : (st.exec call).run.run s = (.ok (), s'))
    (h : Uncaught (execBody call ss) s' site) : Uncaught (execBody call (st :: ss)) s site := by
  rw [execBody]
  exact .later hst h

/-- A call of what the function position gives, on what the arguments give. -/
theorem called {s₁ s₂ : State N} {id : Nat} {gs : List Value}
    (hf : (f.eval call).run.run s = (.ok gs, s₁)) (hId : firstOf gs = .function id)
    (hArgs : (evalArgs call es).run.run s₁ = (.ok vs, s₂))
    (h : Uncaught (ExceptT.mk (call (.function id) vs)) s₂ site) :
    Uncaught ((Expr.call f es).eval call) s site := by
  rw [Expr.eval]
  refine .later hf (.later hArgs ?_)
  rw [hId]
  exact h

/-- One more frame: the body of a script function that is made and called on the spot. -/
theorem inLambda {depth : Nat} {body : List (Stmt Value)}
    (h : Uncaught (execBody (callWith depth) body)
      { s with functions := s.functions ++ [.lambda body] } site) :
    Uncaught ((Expr.call (.lambda body) []).eval (callWith (depth + 1))) s site := by
  have hMade : ((Expr.lambda body).eval (callWith (depth + 1))).run.run s =
      (.ok [.function s.functions.length], { s with functions := s.functions ++ [.lambda body] }) := by
    rw [Expr.eval]
    rfl
  exact called hMade rfl rfl (.frame (List.getElem?_concat_length ..) h)

end Positions

end Uncaught

end ScriptBridge
