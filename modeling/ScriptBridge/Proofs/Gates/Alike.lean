import ScriptBridge.Proofs.Gates.Outcome

/-!
# Calls that end alike

When two calls are told apart by nothing but the names of the callables and by arguments in front,
which move the positions and counts in errors. Calls that are stopped for the same cause end alike,
and so do calls whose bodies give the same back.
-/
namespace ScriptBridge
set_option autoImplicit false

variable {N : Natives}

/-- The cause as it is with `shift` more arguments in front. -/
def Cause.shifted (shift : Nat) : Cause → Cause
  | arity expected found => arity (expected + shift) (found + shift)
  | typeMismatch index expected found => typeMismatch (index + shift) expected found
  | c => c

theorem Cause.shifted_zero (c : Cause) : c.shifted 0 = c := by
  cases c <;> rfl

theorem Cause.OfBody.shifted {c : Cause} (h : c.OfBody) (shift : Nat) : c.shifted shift = c := by
  cases c with
  | native message => rfl
  | outOfRange value => rfl
  | _ => exact h.elim

theorem BridgeError.hints_inFunction (e : BridgeError) (name : String) :
    (e.inFunction name).hints = e.hints := by
  unfold inFunction
  split <;> rfl

/-- The same results, or the same error, where the second call has `shift` more arguments in front.
The callables in the errors may have different names. -/
inductive SameOutcome (shift : Nat) :
    Except BridgeError (List Value) → Except BridgeError (List Value) → Prop where
  | ok (vs : List Value) : SameOutcome shift (.ok vs) (.ok vs)
  | error {err err' : BridgeError} (hCause : err'.cause = err.cause.shifted shift)
      (hHints : err'.hints = err.hints) : SameOutcome shift (.error err) (.error err')

/-- Two calls end with the same outcome, and in the same state. If they fail, the log tells their
names. -/
structure EndAlike (shift : Nat) (r r' : Except BridgeError (List Value) × State N) : Prop where
  outcome : SameOutcome shift r.1 r'.1
  state : r'.2 = { r.2 with log := r'.2.log }
  succeeded : ∀ vs, r.1 = .ok vs → r'.2 = r.2

section Ends

variable {e e' : EntryPoint N} {shift : Nat} {s : State N}

theorem endAlike_refused {err err' : BridgeError} (hCause : err'.cause = err.cause.shifted shift)
    (hHints : err'.hints = err.hints) (name name' : String) :
    EndAlike shift
      (.error (err.inFunction name), s.afterRefusal name (err.inFunction name))
      (.error (err'.inFunction name'), s.afterRefusal name' (err'.inFunction name')) where
  outcome := by
    refine .error ?_ ?_
    · rwa [BridgeError.cause_inFunction, BridgeError.cause_inFunction]
    · rwa [BridgeError.hints_inFunction, BridgeError.hints_inFunction]
  state := rfl
  succeeded := nofun

theorem endAlike_ok {n n' : Nat} {f f' : Frame} (h : f'.results = f.results) :
    EndAlike shift ((e.answer (.ok n, f)).run s) ((e'.answer (.ok n', f')).run s) := by
  simp only [EntryPoint.answer, Run.run_bind, Run.run_announce, Run.run_pure, h]
  exact ⟨.ok _, rfl, fun _ _ => rfl⟩

theorem endAlike_error {err : BridgeError} {f f' : Frame}
    (h : err.cause.shifted shift = err.cause) :
    EndAlike shift ((e.answer (.error err, f)).run s) ((e'.answer (.error err, f')).run s) where
  outcome := by
    refine .error ?_ ?_
    · rw [BridgeError.cause_inFunction, BridgeError.cause_inFunction, h]
    · rw [BridgeError.hints_inFunction, BridgeError.hints_inFunction]
  state := rfl
  succeeded := nofun

theorem endAlike_pushResult {f f' : Frame} (h : f'.results = f.results)
    (r : ReturnType N.ObjectType) (a : r.Native) :
    EndAlike shift ((e.answer (f.pushResult r a)).run s)
      ((e'.answer (f'.pushResult r a)).run s) := by
  rw [Frame.pushResult_eq, Frame.pushResult_eq]
  cases hEncode : r.encode a with
  | ok vs => exact endAlike_ok (congrArg (· ++ vs) h)
  | error err => exact endAlike_error ((ReturnType.ofBody_of_encode_error hEncode).shifted shift)

theorem endAlike_answer (ended : Except BridgeError Nat × Frame) :
    EndAlike 0 ((e.answer ended).run s) ((e'.answer ended).run s) := by
  rcases ended with ⟨outcome, f⟩
  cases outcome with
  | ok count => exact endAlike_ok rfl
  | error err => exact endAlike_error err.cause.shifted_zero

theorem EntryPoint.answer_congr (h : e.name = e'.name) (ended : Except BridgeError Nat × Frame) :
    e.answer ended = e'.answer ended := by
  rcases ended with ⟨outcome, f⟩
  cases outcome with
  | ok count => rfl
  | error err => simp only [answer, h]

end Ends

end ScriptBridge
