import ScriptBridge.Proofs.Counters.Calls
import ScriptBridge.Proofs.Counters.Entries
import ScriptBridge.Proofs.Gates.Verdict
import ScriptBridge.Proofs.Objects.Destroyed
import ScriptBridge.Proofs.Script.Raising

/-!
# The account of a host

The counters of a host add up at every moment of its history: to the calls that have begun, to those
that have failed, and to the callables that were bound.
-/
namespace ScriptBridge
set_option autoImplicit false

variable {N : Natives}

theorem CallRecord.after_call (r : CallRecord) (e : EntryPoint N) (args : List Value)
    (inner : List (Mark N)) (outcome : Except BridgeError (List Value))
    (hInner : openCalls [e] inner = [e]) :
    r.after [] (.called e args :: (inner ++ [.answered outcome])) =
      { made := r.made + 1 + (begunCalls inner).length
        errors := r.errors + (failedCalls [e] inner).length +
          (failure? (e, outcome)).toList.length
        failures := r.failures ++ failedCalls [e] inner ++ (failure? (e, outcome)).toList } := by
  have hCalled : openCalls [] [.called e args] = [e] := rfl
  rw [← List.singleton_append, after_append, after_called, hCalled, after_append, hInner,
    after_answered]
  rfl

/-- A call of `e` as it is counted: once when it begins, and at its end once more if it fails. The
calls inside it are counted each by itself. -/
structure CallCounted (e : EntryPoint N) (args : List Value)
    (call : Run N (Except Value (List Value))) (s : State N) (inner : List (Mark N))
    (outcome : Except BridgeError (List Value)) : Prop where
  trace : call.trace s = .called e args :: (inner ++ [.answered outcome])
  result : (call.run s).1 = outcome.mapError fun error => .error (.callback "" (.bridge error))
  balanced : openCalls [e] inner = [e]
  made : (call.run s).2.counters.callsMade = s.counters.callsMade + 1 + (begunCalls inner).length
  errors : (call.run s).2.counters.callErrors = s.counters.callErrors +
    (failedCalls [e] inner).length + (failure? (e, outcome)).toList.length
  failures : (call.run s).2.callRecord.failures = s.callRecord.failures ++
    failedCalls [e] inner ++ (failure? (e, outcome)).toList

theorem callCounted_callWith {s : State N} {id : Nat} {e : EntryPoint N}
    (he : s.functions[id]? = some (.entry e)) (depth : Nat) (args : List Value) :
    ∃ inner outcome,
      CallCounted e args (callWith (depth + 1) (.function id) args) s inner outcome := by
  have hCall := compositional_tallied.callWith (N := N) depth
  have hInner := (e.callable.tallied_evaluate hCall (e.frame args) [e]).settles s.countCall
  have hEnter := (e.tallied_enter hCall args []).tallies (Run.passes_last _ s)
  rw [EntryPoint.trace_enter, CallRecord.after_call _ _ _ _ _ hInner] at hEnter
  have hRun : (callWith (depth + 1) (.function id) args).run s = _ := run_callWith_entry he
  have hTrace : (callWith (depth + 1) (.function id) args).trace s = _ :=
    (trace_callWith_entry he).trans (EntryPoint.trace_enter e args)
  refine ⟨_, _, ⟨hTrace, ?_, hInner, ?_, ?_, ?_⟩⟩
  · rw [hRun]
  · rw [hRun]
    exact congrArg CallRecord.made hEnter
  · rw [hRun]
    exact congrArg CallRecord.errors hEnter
  · rw [hRun]
    exact congrArg CallRecord.failures hEnter

namespace History

variable (h : History N)

theorem callRecord_of_passes {marks : List (Mark N)} {s : State N}
    (hp : (performAll h.operations).Passes h.opened marks s) :
    s.callRecord = CallRecord.after ⟨0, 0, []⟩ [] marks := by
  have hOpened : h.opened.callRecord = ⟨0, 0, []⟩ := by
    obtain ⟨opened, names, limit, hOpened⟩ := Host.opened_of_create h.created
    rw [hOpened]
    rfl
  rw [(tallied_performAll h.operations []).tallies hp, hOpened]

theorem entryRecord_last : h.last.entryRecord = EntryRecord.adding ⟨0, [], []⟩ h.bound := by
  have hOpened : h.opened.entryRecord = ⟨0, [], []⟩ := by
    obtain ⟨opened, names, limit, hOpened⟩ := Host.opened_of_create h.created
    rw [hOpened]
    rfl
  rw [last, (enrols_performAll h.operations h.opened).last, hOpened, bound]

theorem pairwise_callRecord :
    h.states.Pairwise fun s s' => s.callRecord.Grows s'.callRecord :=
  pairwise_of_isChain (isChain fun op _ => (op.tallied []).grows) (fun _ _ => id)
    fun _ _ _ => .trans

theorem pairwise_entryRecord :
    h.states.Pairwise fun s s' => s.entryRecord.Extends s'.entryRecord :=
  pairwise_of_isChain (isChain fun op _ s => (op.enrols s).steps)
    (fun _ _ => EntryRecord.Next.extends) fun _ _ _ => .trans

end History

/-- At every moment the calls that have begun are counted, and so are those that have ended with an
error, each once and with an event that tells the name of its own entry point; there are never more
of these. What has been called was bound by then. The entry points are counted that were bound, with
an event for each: all those of the operations before, and of the one in progress the first ones. No
counter ever goes back. An operation changes the counters by the calls it makes and the callables it
binds, and closing the host by nothing. -/
theorem counters_account (h : History N) :
    (∀ marks s, (performAll h.operations).Passes h.opened marks s →
      s.counters.callsMade = (begunCalls marks).length ∧
      s.counters.callErrors = (failedCalls [] marks).length ∧
      s.callRecord.failures = failedCalls [] marks ∧
      s.counters.callErrors ≤ s.counters.callsMade ∧
      begunCalls marks ⊆ s.entryRecord.entries) ∧
    (∀ op marks s, Run.Passes (Operation.perform op) h.last marks s →
      ∃ es, es <+: op.bound h.last ∧
        s.counters.entryPoints = (h.bound ++ es).length ∧
        s.entryRecord.entries = h.bound ++ es ∧
        s.entryRecord.bindings = (h.bound ++ es).map EntryPoint.description) ∧
    (h.states.Pairwise fun s s' => s.counters.callsMade ≤ s'.counters.callsMade ∧
      s.counters.callErrors ≤ s'.counters.callErrors ∧
      s.counters.entryPoints ≤ s'.counters.entryPoints) ∧
    (∀ (op : Operation N) (s : State N), let last := (op.perform.run s).2
      last.counters.callsMade =
        s.counters.callsMade + (begunCalls (op.perform.trace s)).length ∧
      last.counters.callErrors =
        s.counters.callErrors + (failedCalls [] (op.perform.trace s)).length ∧
      last.counters.entryPoints = s.counters.entryPoints + (op.bound s).length) ∧
    (∀ s : State N, s.close.callRecord = s.callRecord ∧ s.close.entryRecord = s.entryRecord) ∧
    ∀ (s : State N) (id : Nat) (e : EntryPoint N), s.functions[id]? = some (.entry e) →
      ∀ (depth : Nat) (args : List Value), ∃ inner outcome,
        CallCounted e args (callWith (depth + 1) (.function id) args) s inner outcome := by
  refine ⟨fun marks s hp => ?_, fun op marks s hp => ?_, ?_, fun op s => ?_,
    fun s => ⟨s.callRecord_close, s.entryRecord_close⟩,
    fun s id e he depth args => callCounted_callWith he depth args⟩
  · have hRecord := h.callRecord_of_passes hp
    have hMade := congrArg CallRecord.made hRecord
    have hErrors := congrArg CallRecord.errors hRecord
    have hFailures := congrArg CallRecord.failures hRecord
    simp only [State.callRecord, CallRecord.after, Nat.zero_add] at hMade hErrors
    refine ⟨hMade, hErrors, hFailures, ?_, (enrols_performAll _ _).called hp⟩
    rw [hMade, hErrors]
    exact length_failedCalls_le marks
  · obtain ⟨es, hPrefix, hRecord⟩ := (op.enrols h.last).passed hp
    rw [h.entryRecord_last, ← EntryRecord.adding_append] at hRecord
    have hCount := congrArg EntryRecord.count hRecord
    have hEntries := congrArg EntryRecord.entries hRecord
    have hBindings := congrArg EntryRecord.bindings hRecord
    exact ⟨es, hPrefix, hCount.trans (Nat.zero_add _), hEntries, hBindings⟩
  · refine h.pairwise_callRecord.imp₂ ?_ h.pairwise_entryRecord
    rintro s s' hCalls ⟨es, hEntries⟩
    have hCount : s'.counters.entryPoints = s.counters.entryPoints + es.length :=
      congrArg EntryRecord.count hEntries
    exact ⟨hCalls.made, hCalls.errors, Nat.le.intro hCount.symm⟩
  · have hCalls := (op.tallied []).tallies (Run.passes_last op.perform s)
    have hEntries := (op.enrols s).last
    exact ⟨congrArg CallRecord.made hCalls, congrArg CallRecord.errors hCalls,
      congrArg EntryRecord.count hEntries⟩

open Sample in
/-- The script goes on after the outer call, which has failed because the inner one had. -/
theorem counters_account_nested :
    let division : List (Stmt Value) :=
      [.evaluate (.call (.global "inner") [.constant (.integer 1), .constant (.integer 0)])]
    let h := Sample.history [.register {} "inner" checkedDivide, .register {} "outer" Sample.invoke,
      .exec 3 [.evaluate (.protectedCall (.global "outer") [.lambda division])]]
    let marks := (performAll h.operations).trace h.opened
    (begunCalls marks).map EntryPoint.name = ["outer", "inner"] ∧
      (failedCalls [] marks).map Prod.fst = ["inner", "outer"] ∧
      h.bound.map EntryPoint.name = ["inner", "outer"] ∧
      h.last.counters.callsMade = 2 ∧ h.last.counters.callErrors = 2 ∧
      h.last.counters.entryPoints = 2 := by
  intro division h marks
  obtain ⟨hCalls, hEntries, -⟩ := counters_account h
  have hBegun : (begunCalls marks).map EntryPoint.name = ["outer", "inner"] := by decide +kernel
  have hFailed : (failedCalls [] marks).map Prod.fst = ["inner", "outer"] := by decide +kernel
  have hBound : h.bound.map EntryPoint.name = ["inner", "outer"] := by decide +kernel
  obtain ⟨hMade, hErrors, -⟩ := hCalls marks h.last (Run.passes_last _ _)
  obtain ⟨es, hNone, hCount, -⟩ := hEntries (.collect []) [] h.last (.here _ _)
  obtain rfl := List.prefix_nil.mp hNone
  have hTwo : (begunCalls marks).length = 2 := by
    rw [← List.length_map, hBegun]
    rfl
  have hBoth : (failedCalls [] marks).length = 2 := by
    rw [← List.length_map, hFailed]
    rfl
  have hEach : (h.bound ++ []).length = 2 := by
    rw [List.append_nil, ← List.length_map, hBound]
    rfl
  exact ⟨hBegun, hFailed, hBound, hMade.trans hTwo, hErrors.trans hBoth, hCount.trans hEach⟩

end ScriptBridge
