import ScriptBridge.Proofs.Errors.Recovery
import ScriptBridge.Proofs.Gates.Advertised
import ScriptBridge.Proofs.Gates.Outcome
import ScriptBridge.Proofs.Objects.Destroyed

/-!
# Names in errors

Every error of an entry point is named after it. A native body that hands an error of a script
function on has made a text of it, so that it has no name any more when the entry point names it. Of
entry points inside one another, the outermost gives the name; the others are left in the text.
-/
namespace ScriptBridge
set_option autoImplicit false

variable {N : Natives} {α β : Type}

namespace BridgeError

theorem function_inFunction {e : BridgeError} (h : e.function = none) (name : String) :
    (e.inFunction name).function = some name := by
  rw [inFunction, h]

/-- The error of an entry point whose body was failed by `e`. -/
def relayed (name : String) (e : BridgeError) : BridgeError :=
  { cause := .native e.message, function := some name }

theorem message_relayed (name : String) (e : BridgeError) :
    (e.relayed name).message = name ++ ": " ++ e.message := by
  unfold message relayed Cause.textIn
  rfl

end BridgeError

theorem ReturnType.function_of_encode_error {τ : Type} {r : ReturnType τ} {a : r.Native}
    {e : BridgeError} (h : r.encode a = .error e) : e.function = none := by
  rcases eq_of_encode_error h with ⟨n, rfl⟩ | ⟨message, rfl⟩
  · rfl
  · rfl

theorem GateRule.function_eq {e : EntryPoint N} {s : State N} {args : List Value}
    {err : BridgeError} (h : GateRule e s args (.error err)) : err.function = none := by
  cases h <;> rfl

theorem EntryPoint.function_of_verdict {e : EntryPoint N} {s : State N} {args : List Value}
    {err : BridgeError} (h : e.callable.verdict s (e.frame args) = .error err) :
    err.function = none := by
  rcases gateRule_or_unregistered h with hRule | ⟨owner, -, rfl | rfl⟩
  · exact hRule.function_eq
  · rfl
  · rfl

/-- Nothing that fails in a call is named before the entry point names it. -/
theorem EntryPoint.function_of_error {call : Caller N} {e : EntryPoint N} {s : State N}
    {args : List Value} {err : BridgeError} (hCall : ∀ g vs, Quiet 1 (call g vs))
    (h : ((e.enter call args).run s).1 = .error err) : err.function = some e.name := by
  cases hVerdict : e.callable.verdict s.countCall (e.frame args) with
  | error gate =>
    rw [(enter_refused call (s := s) hVerdict).1] at h
    cases h
    exact BridgeError.function_inFunction (function_of_verdict hVerdict) e.name
  | ok admitted =>
    obtain ⟨⟨a, hResult⟩, -⟩ := Callable.evaluate_admitted hCall hVerdict
    rw [run_enter_of_evaluate (Prod.ext hResult rfl), Frame.pushResult_eq] at h
    cases hEncode : e.callable.returns.encode a with
    | ok vs =>
      rw [hEncode] at h
      cases h
    | error failure =>
      rw [hEncode] at h
      cases h
      exact BridgeError.function_inFunction (ReturnType.function_of_encode_error hEncode) e.name

/-- How a body tells of the error of a script function: as the runtime has it, or as the bridge
error in it. -/
inductive Telling where
  | asRaised
  | asBridge

def Telling.text : Telling → RuntimeError → String
  | asRaised, e => e.text
  | asBridge, e => (BridgeError.ofRuntime e).message

theorem Telling.text_callback (how : Telling) (e : BridgeError) :
    how.text (.callback "" (.bridge e)) = e.message := by
  cases how <;> rfl

/-- The result is a failure with the text. -/
inductive ReturnType.Fails {τ : Type} : (r : ReturnType τ) → r.Native → String → Prop where
  | here {r : ReturnType τ} (text : String) : Fails (.fallible r) (.error text) text
  | within {r : ReturnType τ} {a : r.Native} {text : String} (h : Fails r a text) :
      Fails (.fallible r) (.ok a) text

theorem ReturnType.encode_of_fails {τ : Type} {r : ReturnType τ} {a : r.Native} {text : String}
    (h : r.Fails a text) : r.encode a = .error (.native text) := by
  induction h with
  | here text => rfl
  | within h ih => exact ih

/-- The program calls a script function that comes by the call `site`, and if the function fails,
the result of the program is a failure that tells so. What is a failure is said by `fails`; the call
may stand in accesses to objects. -/
inductive HandsOn (call : Caller N) :
    {α : Type} → (α → String → Prop) → Program N α → State N → CallSite N → Prop where
  | called {α : Type} {fails : α → String → Prop} {f : Callback} {args : List Value}
      {next : Except RuntimeError (List Value) → Program N α} {s : State N} {site : CallSite N}
      (how : Telling) (h : Uncaught (ExceptT.mk (call (.function f.function) args)) s site)
      (hNext : ∀ e s, fails (((next (.error e)).run call).run s).1 (how.text e)) :
      HandsOn call fails (.call f args next) s site
  | after {α β : Type} {fails : α → String → Prop} {p : Program N β} {k : β → Program N α}
      {s s' : State N} {b : β} {site : CallSite N} (hp : (p.run call).run s = (b, s'))
      (h : HandsOn call fails (k b) s' site) : HandsOn call fails (p >>= k) s site
  | shared {α β : Type} {fails : α → String → Prop} {inside : β → String → Prop}
      {t : N.ObjectType} {r : ObjectRef t} {o : N.Payload t} {inner : N.Payload t → Program N β}
      {next : Except BridgeError β → Program N α} {s : State N} {site : CallSite N}
      (hObject : s.objectFor t r.block false = .ok o)
      (h : HandsOn call inside (inner o) (s.lend r.block false) site)
      (hNext : ∀ b text s, inside b text → fails (((next (.ok b)).run call).run s).1 text) :
      HandsOn call fails (.shared t r inner next) s site
  | exclusive {α β : Type} {fails : α → String → Prop} {t : N.ObjectType}
      {inside : β × N.Payload t → String → Prop} {r : ObjectRef t} {g : Handle N t}
      {o : N.Payload t} {inner : N.Payload t → Program N (β × N.Payload t)}
      {next : Except BridgeError β → Program N α} {s : State N} {site : CallSite N}
      (hLend : s.lendable t r.block true = .ok g) (hObject : g.object = some o)
      (h : HandsOn call inside (inner o) (s.lend r.block true) site)
      (hNext : ∀ b text s, inside b text → fails (((next (.ok b.1)).run call).run s).1 text) :
      HandsOn call fails (.exclusive t r inner next) s site

theorem HandsOn.fails {call : Caller N} {fails : α → String → Prop} {p : Program N α}
    {s s' : State N} {site : CallSite N} {err : BridgeError} (h : HandsOn call fails p s site)
    (hOut : site.outcome = (.error err, s')) : fails ((p.run call).run s).1 err.message := by
  induction h with
  | @called _ fails f args next s site how hSite hNext =>
    have hCall : (call (.function f.function) args).run s = _ := hSite.run_eq hOut
    simp only [Program.run, Run.run_bind, Run.run_look, hCall]
    rw [← how.text_callback err]
    exact hNext _ _
  | after hp h ih =>
    rw [Program.run_bind, hp]
    exact ih hOut
  | shared hObject h hNext ih =>
    simp only [Program.run, Run.run_bind, (Access.shared_shown hObject).1]
    exact hNext _ _ _ (ih hOut)
  | exclusive hLend hObject h hNext ih =>
    simp only [Program.run, Run.run_bind, (Access.exclusive_shown hLend hObject).1]
    exact hNext _ _ _ (ih hOut)

/-- The call `outer` runs a body that hands on what the call `inner` fails with. -/
inductive Relays (outer inner : CallSite N) : Prop where
  | free {shape : FreeShape} {as : Args outer.entry.callable.params}
      {body : Args outer.entry.callable.params → Program N outer.entry.callable.returns.Native}
      (hBody : outer.entry.callable.body = .free shape body)
      (hAdmitted : outer.entry.callable.verdict outer.state (outer.entry.frame outer.args) =
        .ok (none, as))
      (h : HandsOn (callWith outer.depth) outer.entry.callable.returns.Fails (body as)
        outer.state.countCall inner)
  | shared {owner : N.ObjectType} {block : Nat} {o : N.Payload owner}
      {as : Args outer.entry.callable.params}
      {body : N.Payload owner → Args outer.entry.callable.params →
        Program N outer.entry.callable.returns.Native}
      (hBody : outer.entry.callable.body = .shared owner body)
      (hAdmitted : outer.entry.callable.verdict outer.state (outer.entry.frame outer.args) =
        .ok (some block, as))
      (hObject : outer.state.objectFor owner block false = .ok o)
      (h : HandsOn (callWith outer.depth) outer.entry.callable.returns.Fails (body o as)
        (outer.state.countCall.lend block false) inner)
  | exclusive {owner : N.ObjectType} {block : Nat} {g : Handle N owner} {o : N.Payload owner}
      {as : Args outer.entry.callable.params}
      {body : N.Payload owner → Args outer.entry.callable.params →
        Program N (outer.entry.callable.returns.Native × N.Payload owner)}
      (hBody : outer.entry.callable.body = .exclusive owner body)
      (hAdmitted : outer.entry.callable.verdict outer.state (outer.entry.frame outer.args) =
        .ok (some block, as))
      (hLend : outer.state.lendable owner block true = .ok g) (hObject : g.object = some o)
      (h : HandsOn (callWith outer.depth) (fun r => outer.entry.callable.returns.Fails r.1)
        (body o as) (outer.state.countCall.lend block true) inner)

namespace Relays

variable {outer inner innermost : CallSite N} {err : BridgeError} {s' : State N}

theorem evaluate (h : Relays outer inner) (hOut : inner.outcome = (.error err, s')) :
    ∃ a s'', (outer.entry.callable.evaluate (callWith outer.depth)
        (outer.entry.frame outer.args)).run outer.state.countCall = (.ok a, s'') ∧
      outer.entry.callable.returns.Fails a err.message := by
  -- the gates do not look at the counters
  cases h with
  | free hBody hAdmitted h =>
    exact ⟨_, _, Callable.run_evaluate_free (s := outer.state.countCall) hBody hAdmitted,
      h.fails hOut⟩
  | shared hBody hAdmitted hObject h =>
    exact ⟨_, _, Callable.run_evaluate_shared (s := outer.state.countCall) hBody hAdmitted hObject,
      h.fails hOut⟩
  | exclusive hBody hAdmitted hLend hObject h =>
    exact ⟨_, _, Callable.run_evaluate_exclusive (s := outer.state.countCall) hBody hAdmitted hLend
      hObject, h.fails hOut⟩

theorem outcome (h : Relays outer inner) (hOut : inner.outcome = (.error err, s')) :
    ∃ s'', outer.outcome = (.error (err.relayed outer.entry.name), s'') := by
  obtain ⟨a, s'', hRun, hFails⟩ := h.evaluate hOut
  rw [CallSite.outcome, EntryPoint.run_enter_of_evaluate hRun, Frame.pushResult_eq,
    ReturnType.encode_of_fails hFails]
  exact ⟨_, rfl⟩

/-- Each call on the way out makes a text of the error and names it anew. -/
theorem outcome_nested {outer : List (CallSite N)} (h : (outer ++ [innermost]).IsChain Relays)
    (hOut : innermost.outcome = (.error err, s')) :
    ∃ s'', (outer.headD innermost).outcome =
      (.error (outer.foldr (fun site e => e.relayed site.entry.name) err), s'') := by
  induction outer with
  | nil => exact ⟨s', hOut⟩
  | cons site rest ih =>
    cases rest with
    | nil => exact (List.isChain_pair.mp h).outcome hOut
    | cons next rest =>
      obtain ⟨hFirst, hRest⟩ := List.isChain_cons_cons.mp h
      obtain ⟨s'', hNext⟩ := ih hRest
      exact hFirst.outcome hNext

end Relays

/-- If entry points are called inside one another by bodies that hand errors on, and the innermost
fails, running the chunk fails with the name of the outermost. What the innermost failed with is its
text, with the names of all of them before it. -/
theorem error_named_after_outermost {depth : Nat} {body : List (Stmt Value)} {s : State N}
    {outer : List (CallSite N)} {innermost : CallSite N} {err : BridgeError}
    (hNested : (outer ++ [innermost]).IsChain Relays)
    (hCode : Uncaught (execBody (callWith depth) body) s (outer.headD innermost))
    (hFails : innermost.outcome.1 = .error err) :
    err.function = some innermost.entry.name ∧
    ∃ error, ((Host.exec depth body).run s).1 = .error error ∧
      error.function = some (outer.headD innermost).entry.name ∧
      error.message = outer.foldr (fun site text => site.entry.name ++ ": " ++ text) err.message ∧
      error = outer.foldr (fun site e => e.relayed site.entry.name) err := by
  have hOut : innermost.outcome = (.error err, innermost.outcome.2) := Prod.ext hFails rfl
  obtain ⟨s', hOutermost⟩ := Relays.outcome_nested hNested hOut
  have hName := EntryPoint.function_of_error (callWith_quiet innermost.depth) hFails
  refine ⟨hName, _, congrArg Prod.fst (hCode.run_enter hOutermost), ?_, ?_, rfl⟩
  · exact EntryPoint.function_of_error (callWith_quiet (outer.headD innermost).depth)
      (congrArg Prod.fst hOutermost)
  · clear hNested hCode hOutermost
    induction outer with
    | nil => rfl
    | cons site rest ih => rw [List.foldr_cons, BridgeError.message_relayed, ih, List.foldr_cons]

open Sample in
theorem error_named_after_outermost_visit :
    let s : State sampleNatives := { Sample.accountHost "visit" visitExclusive with
      functions := [.inert, .entry ⟨"visit", visitExclusive, {}⟩,
        .entry ⟨"invoke", invokeBridged, {}⟩, .entry ⟨"divide", checkedDivide, {}⟩] }
    let division : List (Stmt Value) :=
      [.evaluate (.call (.constant (.function 3)) [.constant (.integer 1), .constant (.integer 0)])]
    let invocation : List (Stmt Value) :=
      [.evaluate (.call (.constant (.function 2)) [.lambda division])]
    let body : List (Stmt Value) :=
      [.evaluate (.call (.constant (.function 1)) [.constant (.userdata 0), .lambda invocation])]
    ∃ outer innermost err, (outer ++ [innermost]).IsChain Relays ∧
      Uncaught (execBody (callWith 6) body) s (outer.headD innermost) ∧
      innermost.outcome.1 = .error err ∧ err.function = some "divide" ∧
      ∃ error, ((Host.exec 6 body).run s).1 = .error error ∧ error.function = some "visit" ∧
        error.message = "visit: invoke: divide: division by zero" := by
  intro s division invocation body
  let made (s : State sampleNatives) (f : List (Stmt Value)) : State sampleNatives :=
    { s with functions := s.functions ++ [.lambda f] }
  let visitState := made s invocation
  let invokeState := made (visitState.countCall.lend 0 true) division
  let visit : CallSite sampleNatives :=
    ⟨⟨"visit", visitExclusive, {}⟩, [.userdata 0, .function 4], 5, visitState⟩
  let invoke : CallSite sampleNatives :=
    ⟨⟨"invoke", invokeBridged, {}⟩, [.function 5], 3, invokeState⟩
  let divide : CallSite sampleNatives :=
    ⟨⟨"divide", checkedDivide, {}⟩, [.integer 1, .integer 0], 1, invokeState.countCall⟩
  have hDivision : Uncaught (ExceptT.mk (callWith 3 (.function 5) []))
      invokeState.countCall divide :=
    .frame rfl (.head (.evaluated (.called rfl rfl rfl (.call rfl 1 _))))
  have hInvocation : Uncaught (ExceptT.mk (callWith 5 (.function 4) []))
      (visitState.countCall.lend 0 true) invoke :=
    .frame rfl (.head (.evaluated (.called rfl rfl rfl (.call rfl 3 _))))
  have hCode : Uncaught (execBody (callWith 6) body) s visit :=
    .head (.evaluated (.called rfl rfl rfl (.call rfl 5 _)))
  have hInvoke : Relays invoke divide :=
    .free rfl rfl (.called .asBridge hDivision fun _ _ => .here _)
  have hVisit : Relays visit invoke :=
    .exclusive rfl rfl rfl rfl (.called .asRaised hInvocation fun _ _ => .here _)
  have hNested : ([visit, invoke] ++ [divide]).IsChain Relays := by
    exact .cons_cons hVisit (.cons_cons hInvoke (.singleton _))
  obtain ⟨hName, error, hExec, hOutermost, hMessage, -⟩ :=
    error_named_after_outermost hNested hCode rfl
  exact ⟨[visit, invoke], divide, _, hNested, hCode, rfl, hName, error, hExec, hOutermost, hMessage⟩

open Sample in
/-- The innermost of two entry points has failed, and its name is not the one that the error has. -/
theorem innermost_name_lost :
    let s := (Sample.history
      [.register {} "inner" checkedDivide, .register {} "outer" Sample.invoke]).last
    let division : List (Stmt Value) :=
      [.evaluate (.call (.global "inner") [.constant (.integer 1), .constant (.integer 0)])]
    let body : List (Stmt Value) := [.evaluate (.call (.global "outer") [.lambda division])]
    ∃ outer inner, Relays outer inner ∧ Uncaught (execBody (callWith 4) body) s outer ∧
      inner.entry.name = "inner" ∧
      inner.outcome.1 = .error { cause := .native "division by zero", function := some "inner" } ∧
      ((Host.exec 4 body).run s).1 =
        .error { cause := .native "inner: division by zero", function := some "outer" } ∧
      ¬ ∃ error, ((Host.exec 4 body).run s).1 = .error error ∧
        error.function = some inner.entry.name := by
  intro s division body
  let outerState : State sampleNatives := { s with functions := s.functions ++ [.lambda division] }
  let outer : CallSite sampleNatives :=
    ⟨⟨"outer", Sample.invoke, {}⟩, [.function 3], 3, outerState⟩
  let inner : CallSite sampleNatives :=
    ⟨⟨"inner", checkedDivide, {}⟩, [.integer 1, .integer 0], 1, outerState.countCall⟩
  have hDivision : Uncaught (ExceptT.mk (callWith 3 (.function 3) []))
      outerState.countCall inner :=
    .frame rfl (.head (.evaluated (.called rfl rfl rfl (.call rfl 1 _))))
  have hCode : Uncaught (execBody (callWith 4) body) s outer :=
    .head (.evaluated (.called rfl rfl rfl (.call rfl 3 _)))
  have hRelays : Relays outer inner :=
    .free rfl rfl (.called .asRaised hDivision fun _ _ => .here _)
  have hInner : inner.outcome =
      (.error { cause := .native "division by zero", function := some "inner" }, inner.outcome.2) :=
    rfl
  obtain ⟨s', hOuter⟩ := hRelays.outcome hInner
  have hExec := congrArg Prod.fst (hCode.run_enter hOuter)
  refine ⟨outer, inner, hRelays, hCode, rfl, rfl, hExec, ?_⟩
  rintro ⟨error, hError, hName⟩
  obtain rfl := Except.error.inj (hExec.symm.trans hError)
  exact absurd hName (by decide)

end ScriptBridge
