import ScriptBridge.Proofs.Gates.Rule
import ScriptBridge.Proofs.Host.Wired

/-!
# Calls behind their gates

What becomes of a call of an entry point: if the gates stop it, the error they stop it with, and a
state that differs in the counters and the log alone; else the body has run, once, and the outcome
is what became of its result.
-/
namespace ScriptBridge
set_option autoImplicit false

variable {N : Natives}

/-- The state after a call that was stopped with an error: counted twice, and logged. -/
def State.afterRefusal (s : State N) (name : String) (e : BridgeError) : State N :=
  { s with
    counters.callsMade := s.counters.callsMade + 1
    counters.callErrors := s.counters.callErrors + 1
    log := s.log ++ [.callFailed name e] }

namespace Cause

/-- A failure of the body itself, or a result that scripts cannot hold. -/
def OfBody : Cause → Prop
  | native _ | outOfRange _ => True
  | _ => False

/-- A failure before the body. -/
def OfGate : Cause → Prop
  | arity .. | typeMismatch .. | receiverType .. | reclaimedHandle _ | runtime _ => True
  | _ => False

theorem OfGate.not_ofBody {c : Cause} (h : c.OfGate) : ¬ c.OfBody := by
  cases c <;> simp [OfGate, OfBody] at h ⊢

end Cause

def FromBody (outcome : Except BridgeError (List Value)) : Prop :=
  ∀ error, outcome = .error error → error.cause.OfBody

theorem BridgeError.cause_inFunction (e : BridgeError) (name : String) :
    (e.inFunction name).cause = e.cause := by
  unfold inFunction
  split <;> rfl

theorem Codec.eq_of_encode_error {τ : Type} {t : NativeType τ} {a : t.Native} {e : BridgeError}
    (h : Codec.encode t a = .error e) : ∃ n, e = .outOfRange n := by
  induction t with
  | integer t =>
    unfold encode at h
    split at h
    · cases h
    · cases h
      exact ⟨_, rfl⟩
  | option t ih =>
    cases a with
    | none => cases h
    | some a => exact ih h
  | _ => cases h

section Results

variable {τ : Type} {r : ReturnType τ} {a : r.Native} {e : BridgeError}

/-- The values that a result comes to in scripts. -/
def ReturnType.encode : (r : ReturnType τ) → r.Native → Except BridgeError (List Value)
  | .nothing, () => .ok []
  | .value t, a => (Codec.encode t a).map fun v => [v]
  | .fallible r, .ok a => r.encode a
  | .fallible _, .error message => .error (.native message)

/-- Of a result all is pushed or nothing. -/
theorem Frame.pushResult_eq (f : Frame) (r : ReturnType τ) (a : r.Native) :
    f.pushResult r a =
      match r.encode a with
      | .ok vs => (.ok vs.length, { f with results := f.results ++ vs })
      | .error e => (.error e, f) := by
  induction r with
  | nothing => simp only [pushResult, ReturnType.encode, List.append_nil, List.length_nil]
  | value t =>
    rw [pushResult, push, ReturnType.encode]
    cases Codec.encode t a <;> rfl
  | fallible r ih =>
    cases a with
    | ok a => exact ih a
    | error message => rfl

theorem ReturnType.eq_of_encode_error (h : r.encode a = .error e) :
    (∃ n, e = .outOfRange n) ∨ ∃ message, e = .native message := by
  induction r with
  | nothing => cases h
  | value t =>
    rw [encode] at h
    cases hEncode : Codec.encode t a with
    | error e' =>
      rw [hEncode] at h
      cases h
      exact .inl (Codec.eq_of_encode_error hEncode)
    | ok v =>
      rw [hEncode] at h
      cases h
  | fallible r ih =>
    cases a with
    | ok a => exact ih h
    | error message =>
      cases h
      exact .inr ⟨message, rfl⟩

theorem ReturnType.ofBody_of_encode_error (h : r.encode a = .error e) : e.cause.OfBody := by
  rcases eq_of_encode_error h with ⟨n, rfl⟩ | ⟨message, rfl⟩
  · exact True.intro
  · exact True.intro

end Results

namespace EntryPoint

variable {call : Caller N} {e : EntryPoint N} {s : State N} {args : List Value}

/-- A stopped call ends with the error of its gate, has run no body, and has only been counted and
logged. -/
theorem enter_refused (call : Caller N) {err : BridgeError}
    (h : e.callable.verdict s (e.frame args) = .error err) :
    (e.enter call args).run s =
        (.error (err.inFunction e.name), s.afterRefusal e.name (err.inFunction e.name)) ∧
      ownBodies ((e.enter call args).trace s) = [] := by
  -- the gates do not look at the counters
  have hCounted : e.callable.verdict s.countCall (e.frame args) = .error err := h
  obtain ⟨hRun, hSilent⟩ := Callable.evaluate_refused call hCounted
  constructor
  · rw [run_enter, Callable.run_invoke, hRun]
    rfl
  · rw [trace_enter, ownBodies, bodiesWithin, hSilent]
    rfl

/-- A call that is let through runs its body once, and its outcome is that of the body. -/
theorem enter_admitted {r : Option Nat} {as : Args e.callable.params}
    (hCall : ∀ g vs, Quiet 1 (call g vs))
    (h : e.callable.verdict s (e.frame args) = .ok (r, as)) :
    FromBody ((e.enter call args).run s).1 ∧
      ownBodies ((e.enter call args).trace s) = [⟨e.callable, r, as⟩] := by
  have hCounted : e.callable.verdict s.countCall (e.frame args) = .ok (r, as) := h
  obtain ⟨⟨a, hResult⟩, hBodies⟩ := Callable.evaluate_admitted hCall hCounted
  constructor
  · rw [run_enter, Callable.run_invoke, hResult]
    change FromBody ((e.answer ((e.frame args).pushResult e.callable.returns a)).run _).1
    rw [Frame.pushResult_eq]
    cases hEncode : e.callable.returns.encode a with
    | ok vs => nofun
    | error err =>
      rintro error ⟨⟩
      rw [BridgeError.cause_inFunction]
      exact ReturnType.ofBody_of_encode_error hEncode
  · rw [trace_enter, ownBodies, bodiesWithin, Nat.zero_add, hBodies]
    rfl

end EntryPoint

/-- What a body may be run on: the values that the arguments decode to, where the first argument of
a member is its receiver. -/
def EntryPoint.Accepts (e : EntryPoint N) (s : State N) (args : List Value) (r : Option Nat)
    (as : Args e.callable.params) : Prop :=
  match r with
  | none => e.callable.owner? = none ∧ DecodesTo e.codec s.identities e.callable.params args as
  | some block =>
    (∃ owner, e.callable.owner? = some owner) ∧
      ∃ vs, args = .userdata block :: vs ∧ DecodesTo e.codec s.identities e.callable.params vs as

namespace GateRule

variable {e : EntryPoint N} {s : State N} {args : List Value}

theorem ofGate {err : BridgeError} (h : GateRule e s args (.error err)) : err.cause.OfGate := by
  cases h <;> exact True.intro

theorem accepts {r : Option Nat} {as : Args e.callable.params}
    (h : GateRule e s args (.ok (r, as))) : e.Accepts s args r as := by
  cases h with
  | freeBody hFree hAs => exact ⟨hFree, hAs⟩
  | sharedBody hOn hObject hAs => exact ⟨⟨_, hOn.member.1⟩, _, hOn.args, hAs⟩
  | exclusiveBody hOn hAs hObject => exact ⟨⟨_, hOn.member.1⟩, _, hOn.args, hAs⟩

end GateRule

theorem callWith_quiet (depth : Nat) (f : Value) (vs : List Value) :
    Quiet 1 (callWith (N := N) depth f vs) := Quiet.compositional.callWith depth f vs

/-- Exactly one rule applies to a call of a bound callable, and the call is answered by it. -/
theorem answered_by_one_rule {s : State N} (hs : Reachable s) {e : EntryPoint N}
    (he : .entry e ∈ s.functions) (depth : Nat) (args : List Value) :
    ∃ answer, GateRule e s args answer ∧ (∀ other, GateRule e s args other → other = answer) ∧
      match answer with
      | .error err =>
        ((e.enter (callWith depth) args).run s).1 = .error (err.inFunction e.name) ∧
          ownBodies ((e.enter (callWith depth) args).trace s) = []
      | .ok (r, as) =>
        FromBody ((e.enter (callWith depth) args).run s).1 ∧
          ownBodies ((e.enter (callWith depth) args).trace s) = [⟨e.callable, r, as⟩] := by
  obtain ⟨answer, hRule⟩ := GateRule.exists_of_identity args (hs.wired e he)
  refine ⟨answer, hRule, fun other hOther => hOther.unique hRule, ?_⟩
  have hVerdict := hRule.verdict_eq
  cases answer with
  | error err =>
    obtain ⟨hRun, hBodies⟩ := EntryPoint.enter_refused (callWith depth) hVerdict
    exact ⟨congrArg Prod.fst hRun, hBodies⟩
  | ok admitted => exact EntryPoint.enter_admitted (callWith_quiet depth) hVerdict

theorem answered_by_one_rule_deposit :
    let s := Sample.accountHost "deposit" Sample.deposit
    let e : EntryPoint sampleNatives := ⟨"deposit", Sample.deposit, {}⟩
    Reachable s ∧ .entry e ∈ s.functions ∧
      ∃ answer, GateRule e s [.userdata 0, .nil] answer ∧
        answer = .error (.typeMismatch {} 2 .integer "nil") := by
  intro s e
  have hs : Reachable s := (Sample.accountHost_atRest _ _).reachable
  have he : .entry e ∈ s.functions := List.mem_cons_of_mem _ List.mem_cons_self
  obtain ⟨answer, hRule, -, -⟩ := answered_by_one_rule hs he 0 [.userdata 0, .nil]
  exact ⟨hs, he, answer, hRule, hRule.verdict_eq.symm.trans rfl⟩

/-- Whether the body of a call has run can be told from the outcome. It has run at most once, and if
it has, then on what the arguments stand for; a call that was stopped has changed nothing but the
counters and the log. -/
theorem body_ran_iff_fromBody {s : State N} (hs : Reachable s) {e : EntryPoint N}
    (he : .entry e ∈ s.functions) (depth : Nat) (args : List Value) :
    let call := e.enter (callWith depth) args
    let outcome := (call.run s).1
    let bodies := ownBodies (call.trace s)
    bodies.length ≤ 1 ∧
    (FromBody outcome ↔ ∃ r as, e.Accepts s args r as ∧ bodies = [⟨e.callable, r, as⟩]) ∧
    (¬ FromBody outcome → bodies = [] ∧ ∃ error, outcome = .error error ∧ error.cause.OfGate ∧
      (call.run s).2 = s.afterRefusal e.name error) := by
  obtain ⟨answer, hRule⟩ := GateRule.exists_of_identity args (hs.wired e he)
  have hVerdict := hRule.verdict_eq
  cases answer with
  | error err =>
    obtain ⟨hRun, hBodies⟩ := EntryPoint.enter_refused (callWith depth) hVerdict
    have hGate : (err.inFunction e.name).cause.OfGate := by
      rw [BridgeError.cause_inFunction]
      exact hRule.ofGate
    dsimp only
    rw [hRun, hBodies]
    refine ⟨Nat.zero_le 1, ⟨fun h => absurd (h _ rfl) hGate.not_ofBody, ?_⟩,
      fun _ => ⟨rfl, _, rfl, hGate, rfl⟩⟩
    rintro ⟨r, as, -, hBody⟩
    cases hBody
  | ok admitted =>
    obtain ⟨hBody, hBodies⟩ := EntryPoint.enter_admitted (callWith_quiet depth) hVerdict
    dsimp only
    rw [hBodies]
    exact ⟨Nat.le_refl 1, ⟨fun _ => ⟨_, _, hRule.accepts, rfl⟩, fun _ => hBody⟩,
      fun h => absurd hBody h⟩

theorem body_ran_iff_fromBody_deposit :
    let s := Sample.accountHost "deposit" Sample.deposit
    let e : EntryPoint sampleNatives := ⟨"deposit", Sample.deposit, {}⟩
    Reachable s ∧ .entry e ∈ s.functions ∧
      (∃ r as, e.Accepts s [.userdata 0, .integer 3] r as ∧
        ownBodies ((e.enter (callWith 0) [.userdata 0, .integer 3]).trace s) =
          [⟨Sample.deposit, r, as⟩]) ∧
      ownBodies ((e.enter (callWith 0) [.userdata 0, .nil]).trace s) = [] := by
  intro s e
  have hs : Reachable s := (Sample.accountHost_atRest _ _).reachable
  have he : .entry e ∈ s.functions := List.mem_cons_of_mem _ List.mem_cons_self
  refine ⟨hs, he, ?_, ?_⟩
  · refine (body_ran_iff_fromBody hs he 0 [.userdata 0, .integer 3]).2.1.mp ?_
    intro error hError
    cases hError
  · refine ((body_ran_iff_fromBody hs he 0 [.userdata 0, .nil]).2.2 ?_).1
    intro hBody
    exact hBody _ rfl

end ScriptBridge
