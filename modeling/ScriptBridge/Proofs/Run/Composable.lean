import ScriptBridge.Host.Basic
import ScriptBridge.Proofs.Run.Passes

/-!
# Properties of whatever code does

A property of computations is composable if it goes from parts to the whole: over sequences, over
the steps of scripts and native bodies, and over object accesses. If calls of entry points have it
too, every script, every native body and every call have it, to any depth. This is the one induction
over code; what holds of all code is shown by giving its parts.
-/
namespace ScriptBridge
set_option autoImplicit false

variable {N : Natives} {α β : Type}

structure Composable (P : ⦃α : Type⦄ → Run N α → Prop) : Prop where
  pure {α : Type} (a : α) : P (pure a : Run N α)
  bind {α β : Type} {m : Run N α} {f : α → Run N β} : P m → (∀ a, P (f a)) → P (m >>= f)
  look {α : Type} {f : State N → Run N α} : (∀ s, P (f s)) → P (Run.look f)
  assign (name : String) (v : Value) : P (Run.modify (N := N) fun s => s.setGlobal name v)
  lambda (body : List (Stmt Value)) : P (Run.addFunction (N := N) (.lambda body))
  capture (c : N.Captured) : P (Run.modify (N := N) fun s => { s with captured := c })
  shared {α : Type} {t : N.ObjectType} {block : Nat} {f : N.Payload t → Run N α} :
    (∀ o, P (f o)) → P (Access.shared t block f)
  exclusive {α : Type} {t : N.ObjectType} {block : Nat} {f : N.Payload t → Run N (α × N.Payload t)} :
    (∀ o, P (f o)) → P (Access.exclusive t block f)
  release (t : N.ObjectType) (block : Nat) : P (Access.release t block)

/-- A property that goes from parts to the whole, over loans whatever runs under them, and that the
single steps of code have. -/
structure Stepwise (P : ⦃α : Type⦄ → Run N α → Prop) : Prop where
  pure {α : Type} (a : α) : P (pure a : Run N α)
  bind {α β : Type} {m : Run N α} {f : α → Run N β} : P m → (∀ a, P (f a)) → P (m >>= f)
  look {α : Type} {f : State N → Run N α} : (∀ s, P (f s)) → P (Run.look f)
  assign (name : String) (v : Value) : P (Run.modify (N := N) fun s => s.setGlobal name v)
  lambda (body : List (Stmt Value)) : P (Run.addFunction (N := N) (.lambda body))
  capture (c : N.Captured) : P (Run.modify (N := N) fun s => { s with captured := c })
  lending {α : Type} {t : N.ObjectType} {block : Nat} {mode : Bool}
    {f : Handle N t → Run N (Except BridgeError α)} :
    (∀ h, P (f h)) → P (Access.lending t block mode f)
  write (t : N.ObjectType) (block : Nat) (h : Handle N t) :
    P (Run.modify (N := N) fun s => s.setHandle t block h)
  destroy (t : N.ObjectType) (block : Nat) (h : Handle N t) (o : N.Payload t) :
    P (Run.modify (N := N) fun s => (s.setHandle t block { h with object := none }).bury t h o true)

theorem Stepwise.composable {P : ⦃α : Type⦄ → Run N α → Prop} (h : Stepwise P) : Composable P where
  pure := h.pure
  bind := h.bind
  look := h.look
  assign := h.assign
  lambda := h.lambda
  capture := h.capture
  shared hf := by
    refine h.lending fun g => ?_
    split
    · exact h.pure _
    · exact h.bind (hf _) fun _ => h.pure _
  exclusive hf := by
    refine h.lending fun g => ?_
    split
    · exact h.pure _
    · exact h.bind (hf _) fun _ => h.bind (h.write _ _ _) fun _ => h.pure _
  release t block := by
    refine h.lending fun g => ?_
    split
    · exact h.pure _
    · exact h.bind (h.destroy _ _ _ _) fun _ => h.pure _

namespace Composable

variable {P : ⦃α : Type⦄ → Run N α → Prop} {call : Caller N}

theorem read (h : Composable P) (f : State N → α) : P (Run.read f) :=
  h.look fun s => h.pure (f s)

theorem program (h : Composable P) (hCall : ∀ f args, P (call f args)) (p : Program N α) :
    P (p.run call) := by
  induction p with
  | done a => exact h.pure a
  | captured next ih => exact h.look fun s => ih s.captured
  | capture c next ih => exact h.bind (h.capture c) fun _ => ih
  | call f args next ih => exact h.bind (hCall _ _) fun r => h.look fun s => ih _
  | shared t r inner next ihInner ihNext => exact h.bind (h.shared ihInner) ihNext
  | exclusive t r inner next ihInner ihNext => exact h.bind (h.exclusive ihInner) ihNext
  | release t r next ih => exact h.bind (h.release t r.block) ih

theorem body (h : Composable P) (hCall : ∀ f args, P (call f args))
    (ran : ∀ b : BodyRun N, P (Run.announce (.ran b) id)) (b : BodyRun N) (p : Program N α) :
    P (b.run call p) :=
  h.bind (ran b) fun _ => h.program hCall p

/-- Bodies behind their gates, where `ran` says that beginning a body has the property. -/
theorem evaluate (h : Composable P) (hCall : ∀ f args, P (call f args))
    (ran : ∀ b : BodyRun N, P (Run.announce (.ran b) id)) (c : Callable N) (f : Frame) :
    P (c.evaluate call f) := by
  unfold Callable.evaluate
  split
  · refine h.look fun s => ?_
    split
    · exact h.pure _
    · exact h.bind (h.body hCall ran _ _) fun _ => h.pure _
  · refine h.look fun s => ?_
    split
    · exact h.pure _
    · refine h.bind (h.shared fun o => h.look fun s => ?_) fun _ => h.pure _
      split
      · exact h.pure _
      · exact h.bind (h.body hCall ran _ _) fun _ => h.pure _
  · refine h.look fun s => ?_
    split
    · exact h.pure _
    · exact h.exclusive fun o => h.body hCall ran _ _

theorem enter (h : Composable P) (hCall : ∀ f args, P (call f args))
    (ran : ∀ b : BodyRun N, P (Run.announce (.ran b) id))
    (called : ∀ (e : EntryPoint N) args, P (Run.announce (.called e args) State.countCall))
    (succeeded : ∀ vs, P (Run.announce (N := N) (.answered (.ok vs)) id))
    (failed : ∀ name error, P (Run.announce (N := N) (.answered (.error error)) fun s =>
      s.countError.emit (.callFailed name error)))
    (e : EntryPoint N) (args : List Value) : P (e.enter call args) := by
  refine h.bind (called e args) fun _ => ?_
  refine h.bind (h.bind (h.evaluate hCall ran _ _) fun _ => h.pure _) fun outcome => ?_
  match outcome with
  | (.ok count, f) => exact h.bind (succeeded _) fun _ => h.pure _
  | (.error error, f) => exact h.bind (failed _ _) fun _ => h.pure _

theorem raise (h : Composable P) (v : Value) : P (Raising.raise v : Raising N α).run := h.pure _

theorem ofRun (h : Composable P) {r : Run N α} (hr : P r) : P (Raising.ofRun r).run :=
  h.bind hr fun _ => h.pure _

theorem ofChecked (h : Composable P) (f : State N → Except RuntimeError α) :
    P (Raising.ofChecked f).run := h.read _

theorem outcome (h : Composable P) {r : Raising N α} (hr : P r.run) : P (Raising.outcome r).run :=
  h.bind hr fun _ => h.pure _

theorem andThen (h : Composable P) {m : Raising N α} {f : α → Raising N β} (hm : P m.run)
    (hf : ∀ a, P (f a).run) : P (m >>= f).run := by
  refine h.bind hm fun r => ?_
  cases r with
  | ok a => exact hf a
  | error v => exact h.pure _

theorem returned (h : Composable P) (a : α) : P (Pure.pure a : Raising N α).run := h.pure _

theorem indexValue (h : Composable P) (reference : String) (v key : Value) :
    P (indexValue (N := N) reference v key).run := by
  have hRefuse : ∀ v : Value, P (do
      let name ← Raising.ofRun (Run.read fun s => s.typeNameOf v)
      Raising.raiseText s!"attempt to index a {name} value{reference}" : Raising N Value).run :=
    fun v => h.andThen (h.ofRun (h.read _)) fun name => h.raise _
  unfold ScriptBridge.indexValue
  split
  · exact h.ofRun (h.read _)
  · refine h.andThen (h.ofRun (h.read _)) fun isHandle => ?_
    split
    · exact h.ofChecked _
    · exact hRefuse _
  · refine h.andThen (h.ofRun (h.read _)) fun table => ?_
    split
    · exact h.ofRun (h.read _)
    · exact hRefuse _
  · exact hRefuse _

theorem callValue (h : Composable P) (hCall : ∀ f args, P (call f args)) (reference : String)
    (f : Value) (args : List Value) : P (callValue call reference f args).run := by
  unfold ScriptBridge.callValue
  split
  · exact hCall _ _
  · exact h.andThen (h.ofRun (h.read _)) fun name => h.raise _

theorem repeated (h : Composable P) {body : Raising N Unit} (hBody : P body.run) (n : Nat) :
    P (repeated n body).run := by
  induction n with
  | zero => exact h.returned ()
  | succ n ih => exact h.andThen hBody fun _ => ih

mutual

theorem eval (h : Composable P) (hCall : ∀ f args, P (call f args)) :
    ∀ e : Expr Value, P (e.eval call).run
  | .constant v => by
    rw [Expr.eval]
    exact h.returned _
  | .global name => by
    rw [Expr.eval]
    exact h.ofRun (h.read _)
  | .index of key => by
    rw [Expr.eval]
    refine h.andThen (h.eval hCall of) fun vs => h.andThen (h.eval hCall key) fun ks => ?_
    exact h.andThen (h.indexValue _ _ _) fun v => h.returned _
  | .call f args => by
    rw [Expr.eval]
    refine h.andThen (h.eval hCall f) fun gs => h.andThen (h.evalArgs hCall args) fun vs => ?_
    exact h.callValue hCall _ _ _
  | .method of name args => by
    rw [Expr.eval]
    refine h.andThen (h.eval hCall of) fun vs => h.andThen (h.indexValue _ _ _) fun g => ?_
    exact h.andThen (h.evalArgs hCall args) fun ws => h.callValue hCall _ _ _
  | .protectedCall f args => by
    rw [Expr.eval]
    refine h.andThen (h.eval hCall f) fun gs => h.andThen (h.evalArgs hCall args) fun vs => ?_
    refine h.andThen (h.outcome (h.callValue hCall _ _ _)) fun r => ?_
    cases r with
    | ok results => exact h.returned _
    | error v => exact h.returned _
  | .display of => by
    rw [Expr.eval]
    refine h.andThen (h.eval hCall of) fun vs => ?_
    cases vs with
    | nil => exact h.raise _
    | cons v rest => exact h.andThen (h.ofChecked _) fun bytes => h.returned _
  | .lambda body => by
    rw [Expr.eval]
    exact h.andThen (h.ofRun (h.lambda body)) fun f => h.returned _

theorem evalArgs (h : Composable P) (hCall : ∀ f args, P (call f args)) :
    ∀ es : List (Expr Value), P (evalArgs call es).run
  | [] => by
    rw [ScriptBridge.evalArgs]
    exact h.returned _
  | e :: es => by
    rw [ScriptBridge.evalArgs]
    refine h.andThen (h.eval hCall e) fun vs => ?_
    cases es with
    | nil => exact h.returned _
    | cons e' es => exact h.andThen (h.evalArgs hCall (e' :: es)) fun ws => h.returned _

theorem exec (h : Composable P) (hCall : ∀ f args, P (call f args)) :
    ∀ s : Stmt Value, P (s.exec call).run
  | .assign name e => by
    rw [Stmt.exec]
    exact h.andThen (h.eval hCall e) fun vs => h.ofRun (h.assign name _)
  | .evaluate e => by
    rw [Stmt.exec]
    exact h.andThen (h.eval hCall e) fun vs => h.returned _
  | .raise e => by
    rw [Stmt.exec]
    exact h.andThen (h.eval hCall e) fun vs => h.raise _
  | .loop times body => by
    rw [Stmt.exec]
    exact h.repeated (h.execBody hCall body) times

theorem execBody (h : Composable P) (hCall : ∀ f args, P (call f args)) :
    ∀ body : List (Stmt Value), P (execBody call body).run
  | [] => by
    rw [ScriptBridge.execBody]
    exact h.returned _
  | s :: ss => by
    rw [ScriptBridge.execBody]
    exact h.andThen (h.exec hCall s) fun _ => h.execBody hCall ss

end

end Composable

/-- A composable property that calls of entry points have whenever the calls inside them have it. -/
structure Compositional (P : ⦃α : Type⦄ → Run N α → Prop) : Prop extends Composable P where
  enter {call : Caller N} (e : EntryPoint N) (args : List Value) :
    (∀ f vs, P (call f vs)) → P (e.enter call args)

theorem Compositional.callWith {P : ⦃α : Type⦄ → Run N α → Prop} (h : Compositional P)
    (depth : Nat) (f : Value) (args : List Value) : P (callWith depth f args) := by
  induction depth generalizing f args with
  | zero => exact h.pure _
  | succ depth ih =>
    unfold ScriptBridge.callWith
    split
    · refine h.look fun s => ?_
      split
      · exact h.bind (h.enter _ _ ih) fun r => h.pure _
      · exact h.bind (h.execBody ih _) fun r => h.pure _
      · exact h.pure _
      · exact h.pure _
    · exact h.callValue (fun _ _ => h.pure _) _ _ _

end ScriptBridge
