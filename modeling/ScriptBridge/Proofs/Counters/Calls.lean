import ScriptBridge.Proofs.Host.History

/-!
# Counted calls

The marks of a way say which calls of entry points have begun on it, which have ended, and how. What
a host has counted and logged of calls changes as the marks say, step for step: a call is counted
when it begins, and one that fails once more when it ends, under the name of its own entry point.
This goes for calls inside of calls, and whatever scripts make of the errors.
-/
namespace ScriptBridge
set_option autoImplicit false

variable {N : Natives} {α β : Type}

/-- The calls in progress after some marks, innermost first, where `calls` were in progress before.
-/
def openCalls (calls : List (EntryPoint N)) : List (Mark N) → List (EntryPoint N)
  | [] => calls
  | .called e _ :: marks => openCalls (e :: calls) marks
  | .answered _ :: marks => openCalls calls.tail marks
  | _ :: marks => openCalls calls marks

/-- The calls that have begun, in their order. -/
def begunCalls : List (Mark N) → List (EntryPoint N)
  | [] => []
  | .called e _ :: marks => e :: begunCalls marks
  | _ :: marks => begunCalls marks

/-- The calls that have ended, with their outcomes: each outcome is that of the innermost call in
progress, where `calls` were in progress before. -/
def endedCalls (calls : List (EntryPoint N)) :
    List (Mark N) → List (EntryPoint N × Except BridgeError (List Value))
  | [] => []
  | .called e _ :: marks => endedCalls (e :: calls) marks
  | .answered outcome :: marks =>
    (calls.head?.map fun e => (e, outcome)).toList ++ endedCalls calls.tail marks
  | _ :: marks => endedCalls calls marks

/-- The name of an entry point and the error that a call of it has ended with. -/
def failure? : EntryPoint N × Except BridgeError (List Value) → Option (String × BridgeError)
  | (e, .error error) => some (e.name, error)
  | (_, .ok _) => none

def failedCalls (calls : List (EntryPoint N)) (marks : List (Mark N)) :
    List (String × BridgeError) :=
  (endedCalls calls marks).filterMap failure?

section Marks

variable (calls : List (EntryPoint N)) (first second marks : List (Mark N))

theorem openCalls_append :
    openCalls calls (first ++ second) = openCalls (openCalls calls first) second := by
  induction first generalizing calls with
  | nil => rfl
  | cons mark first ih => cases mark <;> exact ih _

theorem begunCalls_append :
    begunCalls (first ++ second) = begunCalls first ++ begunCalls second := by
  induction first with
  | nil => rfl
  | cons mark first ih =>
    cases mark with
    | called e args => exact congrArg (e :: ·) ih
    | _ => exact ih

theorem endedCalls_append :
    endedCalls calls (first ++ second) =
      endedCalls calls first ++ endedCalls (openCalls calls first) second := by
  induction first generalizing calls with
  | nil => rfl
  | cons mark first ih =>
    cases mark with
    | answered outcome =>
      rw [List.cons_append, endedCalls, ih, endedCalls, List.append_assoc]
      rfl
    | _ => exact ih _

theorem failedCalls_append :
    failedCalls calls (first ++ second) =
      failedCalls calls first ++ failedCalls (openCalls calls first) second := by
  rw [failedCalls, endedCalls_append, List.filterMap_append]
  rfl

/-- Each call that was in progress or has begun has ended or is in progress. -/
theorem length_endedCalls :
    (endedCalls calls marks).length + (openCalls calls marks).length =
      (begunCalls marks).length + calls.length := by
  induction marks generalizing calls with
  | nil => rfl
  | cons mark marks ih =>
    cases mark with
    | called e args =>
      have hNext := ih (e :: calls)
      rw [List.length_cons] at hNext
      simp only [endedCalls, openCalls, begunCalls, List.length_cons]
      omega
    | answered outcome =>
      have hNext := ih calls.tail
      cases calls with
      | nil => exact hNext
      | cons e calls =>
        simp only [List.tail_cons] at hNext
        simp only [endedCalls, openCalls, begunCalls, List.head?_cons, List.tail_cons,
          Option.map_some, Option.toList_some, List.length_append, List.length_cons,
          List.length_nil]
        omega
    | _ => exact ih calls

theorem length_failedCalls_le :
    (failedCalls [] marks).length ≤ (begunCalls marks).length := by
  have hEnded : (failedCalls [] marks).length ≤ (endedCalls [] marks).length :=
    List.length_filterMap_le _ _
  have hAll := length_endedCalls [] marks
  rw [List.length_nil] at hAll
  omega

end Marks

/-- What a host has counted of calls, and the failures that it has logged. -/
structure CallRecord where
  made : Nat
  errors : Nat
  failures : List (String × BridgeError)

/-- The entry point and the error that an event tells of. -/
def Event.failure? : Event → Option (String × BridgeError)
  | callFailed name error => some (name, error)
  | _ => none

def State.callRecord (s : State N) : CallRecord where
  made := s.counters.callsMade
  errors := s.counters.callErrors
  failures := s.log.filterMap Event.failure?

/-- The record after some marks, where `calls` were in progress before. -/
def CallRecord.after (r : CallRecord) (calls : List (EntryPoint N)) (marks : List (Mark N)) :
    CallRecord where
  made := r.made + (begunCalls marks).length
  errors := r.errors + (failedCalls calls marks).length
  failures := r.failures ++ failedCalls calls marks

namespace CallRecord

variable (r : CallRecord) (calls : List (EntryPoint N)) (e : EntryPoint N)

theorem after_nil : r.after calls [] = r := by
  simp [after, begunCalls, failedCalls, endedCalls]

theorem after_append (first second : List (Mark N)) :
    r.after calls (first ++ second) =
      (r.after calls first).after (openCalls calls first) second := by
  simp [after, begunCalls_append, failedCalls_append, Nat.add_assoc]

theorem after_called (args : List Value) :
    r.after calls [.called e args] = { r with made := r.made + 1 } := by
  simp [after, begunCalls, failedCalls, endedCalls]

/-- The end of a call counts if it is a failure. -/
theorem after_answered (outcome : Except BridgeError (List Value)) :
    r.after (e :: calls) [.answered outcome] =
      { r with
        errors := r.errors + (failure? (e, outcome)).toList.length
        failures := r.failures ++ (failure? (e, outcome)).toList } := by
  have hFailed : failedCalls (e :: calls) [.answered outcome] = (failure? (e, outcome)).toList := by
    cases outcome <;> rfl
  simp [after, begunCalls, hFailed]

/-- Nothing of the record is taken back. -/
structure Grows (r r' : CallRecord) : Prop where
  made : r.made ≤ r'.made
  errors : r.errors ≤ r'.errors
  failures : r.failures <+: r'.failures

theorem Grows.refl : r.Grows r := ⟨Nat.le_refl _, Nat.le_refl _, List.prefix_rfl⟩

theorem Grows.trans {r₁ r₂ r₃ : CallRecord} (h : r₁.Grows r₂) (h' : r₂.Grows r₃) : r₁.Grows r₃ :=
  ⟨h.made.trans h'.made, h.errors.trans h'.errors, h.failures.trans h'.failures⟩

theorem grows_after (marks : List (Mark N)) : r.Grows (r.after calls marks) :=
  ⟨Nat.le_add_right _ _, Nat.le_add_right _ _, List.prefix_append _ _⟩

end CallRecord

theorem State.callRecord_emit {s : State N} {e : Event} (h : e.failure? = none) :
    (s.emit e).callRecord = s.callRecord := by
  simp [callRecord, emit, h]

/-- Begun while the calls `before` are in progress the computation ends with `after` in progress. At
every state on the way the record is what the marks make of it, and no step takes anything back. -/
structure Tallied (before : List (EntryPoint N)) (m : Run N α) (after : List (EntryPoint N)) :
    Prop where
  settles : ∀ s, openCalls before (m.trace s) = after
  tallies : ∀ {s marks s'}, m.Passes s marks s' →
    s'.callRecord = s.callRecord.after before marks
  grows : ∀ s, m.Steps (fun s s' => s.callRecord.Grows s'.callRecord) s

namespace Tallied

variable {before between after : List (EntryPoint N)}

theorem done (a : α) : Tallied before (pure a : Run N α) before where
  settles _ := rfl
  tallies h := by
    obtain ⟨rfl, rfl⟩ := Run.passes_pure_iff.mp h
    exact (CallRecord.after_nil _ _).symm
  grows _ := Run.steps_pure a

theorem bind {m : Run N α} {f : α → Run N β} (hm : Tallied before m between)
    (hf : ∀ a, Tallied between (f a) after) : Tallied before (m >>= f) after where
  settles s := by rw [Run.trace_bind, openCalls_append, hm.settles, (hf _).settles]
  tallies {s marks s'} h := by
    rcases Run.passes_bind_iff.mp h with hFirst | ⟨rest, rfl, hSecond⟩
    · exact hm.tallies hFirst
    · rw [CallRecord.after_append, hm.settles, ← hm.tallies (Run.passes_last m s)]
      exact (hf _).tallies hSecond
  grows s := Run.steps_bind_iff.mpr ⟨hm.grows s, (hf _).grows _⟩

theorem look {f : State N → Run N α} (hf : ∀ s, Tallied before (f s) after) :
    Tallied before (Run.look f) after where
  settles s := (hf s).settles s
  tallies h := (hf _).tallies (Run.passes_look_iff.mp h)
  grows s := Run.steps_look_iff.mpr ⟨.refl _, (hf s).grows s⟩

/-- A step without a mark does nothing that is counted. -/
theorem atomic {f : State N → α × State N} (hf : ∀ s, (f s).2.callRecord = s.callRecord) :
    Tallied before (Run.atomic f) before where
  settles _ := rfl
  tallies {s marks s'} h := by
    obtain ⟨rfl, rfl | rfl⟩ := Run.passes_atomic_iff.mp h
    · exact (CallRecord.after_nil _ _).symm
    · rw [hf, CallRecord.after_nil]
  grows s := by
    refine Run.steps_atomic_iff.mpr ?_
    rw [hf]
    exact .refl _

theorem announce {mark : Mark N} {f : State N → State N} (hOpen : openCalls before [mark] = after)
    (hf : ∀ s, (f s).callRecord = s.callRecord.after before [mark]) :
    Tallied before (Run.announce mark f) after where
  settles _ := hOpen
  tallies {s marks s'} h := by
    rcases Run.passes_announce_iff.mp h with ⟨rfl, rfl⟩ | ⟨rfl, rfl⟩
    · exact (CallRecord.after_nil _ _).symm
    · exact hf s
  grows s := by
    refine Run.steps_announce_iff.mpr ?_
    rw [hf]
    exact CallRecord.grows_after _ _ _

theorem lending {t : N.ObjectType} {block : Nat} {mode : Bool}
    {f : Handle N t → Run N (Except BridgeError α)} (hf : ∀ h, Tallied before (f h) before) :
    Tallied before (Access.lending t block mode f) before := by
  have hLent : Tallied before
      (Run.announce (.lent ⟨block, mode⟩) fun s : State N => s.lend block mode) before :=
    .announce rfl fun s => (CallRecord.after_nil _ before).symm
  have hReturned : Tallied before (Run.announce (N := N) .returned State.endLoan) before :=
    .announce rfl fun s => (CallRecord.after_nil _ before).symm
  refine .look fun s => ?_
  split
  · exact .done _
  · exact .bind hLent fun _ => .bind (hf _) fun _ => .bind hReturned fun _ => .done _

theorem destroy {t : N.ObjectType} {s : State N} {block : Nat} {h : Handle N t} {o : N.Payload t}
    {early : Bool} :
    ((s.setHandle t block { h with object := none }).bury t h o early).callRecord =
      s.callRecord :=
  State.callRecord_emit rfl

/-- The end of a call: its outcome is counted and logged if it is an error. -/
theorem answer (e : EntryPoint N) (ended : Except BridgeError Nat × Frame) :
    Tallied (e :: before) (e.answer ended) before := by
  rcases ended with ⟨outcome, f⟩
  cases outcome with
  | ok count =>
    refine .bind (.announce rfl fun s => ?_) fun _ => .done _
    rw [CallRecord.after_answered]
    simp [failure?]
  | error error =>
    refine .bind (.announce rfl fun s => ?_) fun _ => .done _
    rw [CallRecord.after_answered]
    simp [State.callRecord, State.countError, State.emit, Event.failure?, failure?]

end Tallied

theorem stepwise_tallied : Stepwise (N := N) fun _ m => ∀ calls, Tallied calls m calls where
  pure a _ := .done a
  bind hm hf calls := .bind (hm calls) fun a => hf a calls
  look hf calls := .look fun s => hf s calls
  assign _ _ _ := .atomic fun _ => rfl
  lambda _ _ := .atomic fun _ => rfl
  capture _ _ := .atomic fun _ => rfl
  lending hf calls := .lending fun h => hf h calls
  write _ _ _ _ := .atomic fun _ => rfl
  destroy _ _ _ _ _ := .atomic fun _ => Tallied.destroy

section Calls

variable {call : Caller N} (hCall : ∀ f vs calls, Tallied calls (call f vs) calls)

include hCall

theorem Callable.tallied_evaluate (c : Callable N) (f : Frame) (calls : List (EntryPoint N)) :
    Tallied calls (c.evaluate call f) calls := by
  have hRan (b : BodyRun N) (calls : List (EntryPoint N)) :
      Tallied calls (Run.announce (.ran b) id) calls :=
    .announce rfl fun s => (CallRecord.after_nil _ calls).symm
  exact stepwise_tallied.composable.evaluate hCall hRan c f calls

/-- A call of an entry point is in progress from its first step to its last. -/
theorem EntryPoint.tallied_enter (e : EntryPoint N) (args : List Value)
    (calls : List (EntryPoint N)) : Tallied calls (e.enter call args) calls := by
  have hCalled : Tallied calls (Run.announce (.called e args) State.countCall) (e :: calls) :=
    .announce rfl fun s => (CallRecord.after_called s.callRecord calls e args).symm
  refine .bind hCalled fun _ => .bind ?_ fun ended => .answer e ended
  exact .bind (e.callable.tallied_evaluate hCall _ (e :: calls)) fun _ => .done _

end Calls

theorem compositional_tallied :
    Compositional (N := N) fun _ m => ∀ calls, Tallied calls m calls where
  toComposable := stepwise_tallied.composable
  enter e args hCall := EntryPoint.tallied_enter hCall e args

theorem hostWide_tallied : HostWide (N := N) fun _ m => ∀ calls, Tallied calls m calls where
  toCalling := compositional_tallied.calling
  bound codec name c _ := .atomic fun s => by
    split
    · rfl
    · exact State.callRecord_emit rfl
  space name _ := .atomic fun s => by split <;> rfl
  entered _ _ _ _ := .atomic fun _ => rfl
  typed t identifier _ := .atomic fun s => by
    split
    · rfl
    · dsimp only
      split
      · exact State.callRecord_emit rfl
      · rfl
  attached _ _ _ := .atomic fun _ => rfl
  told _ _ _ := .atomic fun _ => State.callRecord_emit rfl
  created t o _ := .atomic fun s => by
    dsimp only
    split
    · rfl
    · exact State.callRecord_emit rfl
  table _ := .atomic fun _ => rfl
  inert _ := .atomic fun _ => rfl
  unstamped _ := .atomic fun _ => rfl
  foreign _ _ := .atomic fun _ => rfl
  restamped _ _ _ := .atomic fun _ => rfl

theorem State.callRecord_finalize (s : State N) (block : Nat) :
    (s.finalize block).callRecord = s.callRecord := by
  unfold finalize
  split
  · split
    · exact Tallied.destroy
    · rfl
  · rfl

theorem State.callRecord_close (s : State N) : s.close.callRecord = s.callRecord :=
  State.close_induction (I := fun s' => s'.callRecord = s.callRecord) rfl fun s' block hs =>
    (s'.callRecord_finalize block).trans hs

theorem Operation.tallied (op : Operation N) (calls : List (EntryPoint N)) :
    Tallied calls op.perform calls := by
  refine hostWide_tallied.operation op (fun held _ calls => .atomic fun s => ?_) calls
  have hKept (s' : State N) (block : Nat) (hs : s'.callRecord = s.callRecord) :
      (s'.finalize block).callRecord = s.callRecord := (s'.callRecord_finalize block).trans hs
  exact State.collect_induction (I := fun s' => s'.callRecord = s.callRecord) held rfl hKept

theorem tallied_performAll (ops : List (Operation N)) (calls : List (EntryPoint N)) :
    Tallied calls (performAll ops) calls := by
  induction ops with
  | nil => exact .done ()
  | cons op rest ih => exact .bind (op.tallied calls) fun _ => ih

end ScriptBridge
