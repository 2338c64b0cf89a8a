import ScriptBridge.Proofs.Host.Operation
import ScriptBridge.Proofs.Script.Uncaught

/-!
# Bridge errors in runtime errors

A bridge error that is wrapped by native functions and contexts alone is recovered as it was, from
any depth; any other runtime error is told by its text. So an error of an entry point leaves a chunk
as it left the entry point, if nothing on the way holds it back.
-/
namespace ScriptBridge
set_option autoImplicit false

namespace RuntimeError

/-- What a bridge error can be recovered from under. -/
inductive Wrapper where
  | callback (traceback : String)
  | context (text : String)

def Wrapper.around : Wrapper → RuntimeError → RuntimeError
  | callback traceback, e => .callback traceback e
  | context text, e => .context text e

def wrapped (ws : List Wrapper) (e : RuntimeError) : RuntimeError := ws.foldr Wrapper.around e

variable {e : RuntimeError} {b : BridgeError}

theorem bridgeError?_around (w : Wrapper) (e : RuntimeError) :
    (w.around e).bridgeError? = e.bridgeError? := by
  cases w <;> rfl

theorem bridgeError?_wrapped (ws : List Wrapper) (e : RuntimeError) :
    (wrapped ws e).bridgeError? = e.bridgeError? := by
  induction ws with
  | nil => rfl
  | cons w ws ih => exact (bridgeError?_around w _).trans ih

theorem bridgeError?_eq_some_iff :
    e.bridgeError? = some b ↔ ∃ ws, e = wrapped ws (.bridge b) := by
  constructor
  · intro h
    induction e with
    | bridge error =>
      obtain rfl := Option.some.inj h
      exact ⟨[], rfl⟩
    | context text cause ih =>
      obtain ⟨ws, rfl⟩ := ih h
      exact ⟨.context text :: ws, rfl⟩
    | callback traceback cause ih =>
      obtain ⟨ws, rfl⟩ := ih h
      exact ⟨.callback traceback :: ws, rfl⟩
    | _ => cases h
  · rintro ⟨ws, rfl⟩
    exact bridgeError?_wrapped ws _

end RuntimeError

namespace BridgeError

open RuntimeError

theorem ofRuntime_wrapped (ws : List Wrapper) (b : BridgeError) :
    ofRuntime (wrapped ws (.bridge b)) = b := by
  rw [ofRuntime, bridgeError?_wrapped]
  rfl

theorem ofRuntime_of_not_wrapped {e : RuntimeError} (h : ∀ ws b, e ≠ wrapped ws (.bridge b)) :
    ofRuntime e = .runtime e.text := by
  cases hBridge : e.bridgeError? with
  | none => rw [ofRuntime, hBridge, Option.getD_none]
  | some b =>
    obtain ⟨ws, hWrapped⟩ := bridgeError?_eq_some_iff.mp hBridge
    exact absurd hWrapped (h ws b)

end BridgeError

open RuntimeError in
/-- Bridge errors come out of the wrappers of the runtime unchanged, whatever the wrappers are; every
other runtime error becomes its own text. An error of an entry point that nothing in a chunk holds
back is what running the chunk ends with. -/
theorem bridge_errors_recovered :
    (∀ ws b, BridgeError.ofRuntime (wrapped ws (.bridge b)) = b) ∧
    (∀ e, (∀ ws b, e ≠ wrapped ws (.bridge b)) →
      BridgeError.ofRuntime e = { cause := .runtime e.text, function := none, hints := [] }) ∧
    ∀ (N : Natives) (depth : Nat) (body : List (Stmt Value)) (s s' : State N) (site : CallSite N)
      (err : BridgeError), Uncaught (execBody (callWith depth) body) s site →
      site.outcome = (.error err, s') → (Host.exec depth body).run s = (.error err, s') := by
  refine ⟨BridgeError.ofRuntime_wrapped, fun e h => BridgeError.ofRuntime_of_not_wrapped h, ?_⟩
  intro N depth body s s' site err hSite hOut
  exact hSite.run_enter hOut

open RuntimeError in
theorem bridge_errors_recovered_deposit :
    let s := Sample.accountHost "deposit" Sample.deposit
    let e : EntryPoint sampleNatives := ⟨"deposit", Sample.deposit, {}⟩
    let err := (BridgeError.typeMismatch {} 2 .integer "nil").inFunction "deposit"
    let native : RuntimeError := .badArgument "#1" "deposit" (.bridge err)
    let deposit : Expr Value :=
      .call (.constant (.function 1)) [.constant (.userdata 0), .constant .nil]
    let inner : List (Stmt Value) := [.evaluate (.constant .nil), .evaluate deposit]
    let outer : List (Stmt Value) := [.evaluate (.call (.lambda inner) [])]
    let body : List (Stmt Value) := [.evaluate (.call (.lambda outer) [])]
    BridgeError.ofRuntime (wrapped [.callback "stack", .context "text"] (.bridge err)) = err ∧
      (∀ ws b, native ≠ wrapped ws (.bridge b)) ∧
      BridgeError.ofRuntime native =
        { cause := .runtime native.text, function := none, hints := [] } ∧
      ∃ site, site.entry = e ∧ Uncaught (execBody (callWith 3) body) s site ∧
        site.outcome.1 = .error err ∧ ((Host.exec 3 body).run s).1 = .error err := by
  intro s e err native deposit inner outer body
  obtain ⟨hWrapped, hOther, hExec⟩ := bridge_errors_recovered
  have hNative (ws : List Wrapper) (b : BridgeError) : native ≠ wrapped ws (.bridge b) := by
    intro h
    cases bridgeError?_eq_some_iff.mpr ⟨ws, h⟩
  let made (s : State sampleNatives) (f : List (Stmt Value)) : State sampleNatives :=
    { s with functions := s.functions ++ [.lambda f] }
  let inside := made (made s outer) inner
  let site : CallSite sampleNatives := ⟨e, [.userdata 0, .nil], 0, inside⟩
  have hCall : Uncaught (deposit.eval (callWith 1)) inside site :=
    .called rfl rfl rfl (.call rfl 0 _)
  have hInner : Uncaught (execBody (callWith 1) inner) inside site :=
    .tail rfl (.head (.evaluated hCall))
  have hSite : Uncaught (execBody (callWith 3) body) s site :=
    .head (.evaluated (.inLambda (.head (.evaluated (.inLambda hInner)))))
  have hOut : site.outcome = (.error err, site.outcome.2) := rfl
  exact ⟨hWrapped _ _, hNative, hOther _ hNative, site, rfl, hSite, rfl,
    congrArg Prod.fst (hExec _ _ _ _ _ _ _ hSite hOut)⟩

end ScriptBridge
