import ScriptBridge.Proofs.Loans.Basic
import ScriptBridge.Proofs.Run.Passes

/-!
# Accesses as equations

What an access runs, where it ends and which marks it leaves: nothing at all if the loan is refused,
and else what runs inside, between the loan and its end.
-/
namespace ScriptBridge
set_option autoImplicit false

namespace State

variable {N : Natives} {t : N.ObjectType} {block : Nat} {mode : Bool} {s : State N}

/-- What an access is shown under a loan of the given mode. -/
def objectFor (s : State N) (t : N.ObjectType) (block : Nat) (mode : Bool) :
    Except BridgeError (N.Payload t) :=
  match s.lendable t block mode with
  | .error e => .error (.ofRuntime e)
  | .ok h =>
    match h.object with
    | some o => .ok o
    | none => .error (.reclaimed h.identifier)

theorem objectFor_eq_ok_iff {o : N.Payload t} :
    s.objectFor t block mode = .ok o ↔
      ∃ h, s.lendable t block mode = .ok h ∧ h.object = some o := by
  unfold objectFor
  cases s.lendable t block mode with
  | error e => simp
  | ok h => cases hObject : h.object <;> simp [hObject]

theorem objectFor_eq_error_iff {e : BridgeError} :
    s.objectFor t block mode = .error e ↔
      (∃ e', s.lendable t block mode = .error e' ∧ .ofRuntime e' = e) ∨
      ∃ h, s.lendable t block mode = .ok h ∧ h.object = none ∧ .reclaimed h.identifier = e := by
  unfold objectFor
  cases s.lendable t block mode with
  | error e' => simp
  | ok h => cases hObject : h.object <;> simp [hObject]

theorem ofRuntime_of_refused {failure : RuntimeError}
    (h : s.lendable t block mode = .error failure) :
    BridgeError.ofRuntime failure = .runtime failure.text := by
  unfold lendable at h
  split at h
  · cases h
    rfl
  · split at h
    · cases h
    · cases h
      cases mode <;> rfl

end State

namespace Access

variable {N : Natives} {α : Type} {t : N.ObjectType} {block : Nat} {mode : Bool}
  {s : State N} {h : Handle N t}

section Lending

variable {f : Handle N t → Run N (Except BridgeError α)}

theorem lending_refused {e : RuntimeError} (hLend : s.lendable t block mode = .error e) :
    (lending t block mode f).run s = (.error (.ofRuntime e), s) ∧
      (lending t block mode f).trace s = [] := by
  rw [lending, Run.run_look, Run.trace_look, hLend]
  exact ⟨rfl, rfl⟩

theorem run_lending (hLend : s.lendable t block mode = .ok h) :
    (lending t block mode f).run s =
      (((f h).run (s.lend block mode)).1, ((f h).run (s.lend block mode)).2.endLoan) := by
  rw [lending, Run.run_look, hLend]
  simp

theorem trace_lending (hLend : s.lendable t block mode = .ok h) :
    (lending t block mode f).trace s =
      .lent ⟨block, mode⟩ :: ((f h).trace (s.lend block mode) ++ [.returned]) := by
  rw [lending, Run.trace_look, hLend]
  simp

/-- An access comes by the state before it, all that runs under its loan, and the state after it. -/
theorem passes_lending_iff {marks : List (Mark N)} {s' : State N}
    (hLend : s.lendable t block mode = .ok h) :
    (lending t block mode f).Passes s marks s' ↔
      (marks = [] ∧ s' = s) ∨
      (∃ rest, marks = .lent ⟨block, mode⟩ :: rest ∧ (f h).Passes (s.lend block mode) rest s') ∨
      (marks = (lending t block mode f).trace s ∧ s' = ((lending t block mode f).run s).2) := by
  constructor
  · intro hp
    rw [lending, Run.passes_look_iff, hLend] at hp
    rw [trace_lending hLend, run_lending hLend]
    rcases Run.passes_bind_iff.mp hp with hOpening | ⟨rest, rfl, hRest⟩
    · rcases Run.passes_announce_iff.mp hOpening with hBefore | ⟨rfl, rfl⟩
      · exact .inl hBefore
      · exact .inr (.inl ⟨[], rfl, .here _ _⟩)
    · rcases Run.passes_bind_iff.mp hRest with hInner | ⟨rest, rfl, hClosing⟩
      · exact .inr (.inl ⟨_, rfl, hInner⟩)
      · rcases Run.passes_bind_iff.mp hClosing with hEnd | ⟨rest, rfl, hAfter⟩
        · rcases Run.passes_announce_iff.mp hEnd with ⟨rfl, rfl⟩ | ⟨rfl, rfl⟩
          · rw [List.append_nil]
            exact .inr (.inl ⟨_, rfl, Run.passes_last _ _⟩)
          · exact .inr (.inr ⟨rfl, rfl⟩)
        · obtain ⟨rfl, rfl⟩ := Run.passes_pure_iff.mp hAfter
          exact .inr (.inr ⟨rfl, rfl⟩)
  · rintro (⟨rfl, rfl⟩ | ⟨rest, rfl, hInner⟩ | ⟨rfl, rfl⟩)
    · exact .here _ _
    · rw [lending, Run.passes_look_iff, hLend]
      refine Run.passes_bind_iff.mpr (.inr ⟨rest, rfl, ?_⟩)
      exact Run.passes_bind_iff.mpr (.inl hInner)
    · exact Run.passes_last _ _

end Lending

theorem shared_stopped {f : N.Payload t → Run N α} {e : BridgeError}
    (h : s.objectFor t block false = .error e) :
    (shared t block f).run s = (.error e, s) ∧
      ((shared t block f).trace s = [] ∨
        (shared t block f).trace s = [.lent ⟨block, false⟩, .returned]) := by
  rcases State.objectFor_eq_error_iff.mp h with ⟨e', hLend, rfl⟩ | ⟨g, hLend, hNone, rfl⟩
  · exact ⟨(lending_refused hLend).1, .inl (lending_refused hLend).2⟩
  · rw [shared, run_lending hLend, trace_lending hLend, hNone]
    exact ⟨rfl, .inr rfl⟩

theorem exclusive_stopped {f : N.Payload t → Run N (α × N.Payload t)} {e : BridgeError}
    (h : s.objectFor t block true = .error e) :
    (exclusive t block f).run s = (.error e, s) ∧
      ((exclusive t block f).trace s = [] ∨
        (exclusive t block f).trace s = [.lent ⟨block, true⟩, .returned]) := by
  rcases State.objectFor_eq_error_iff.mp h with ⟨e', hLend, rfl⟩ | ⟨g, hLend, hNone, rfl⟩
  · exact ⟨(lending_refused hLend).1, .inl (lending_refused hLend).2⟩
  · rw [exclusive, run_lending hLend, trace_lending hLend, hNone]
    exact ⟨rfl, .inr rfl⟩

variable {o : N.Payload t}

theorem shared_shown {f : N.Payload t → Run N α} (h : s.objectFor t block false = .ok o) :
    (shared t block f).run s =
        (.ok ((f o).run (s.lend block false)).1, ((f o).run (s.lend block false)).2.endLoan) ∧
      (shared t block f).trace s =
        .lent ⟨block, false⟩ :: ((f o).trace (s.lend block false) ++ [.returned]) := by
  obtain ⟨g, hLend, hObject⟩ := State.objectFor_eq_ok_iff.mp h
  rw [shared, run_lending hLend, trace_lending hLend, hObject]
  simp

theorem exclusive_shown {f : N.Payload t → Run N (α × N.Payload t)} {g : Handle N t}
    (hLend : s.lendable t block true = .ok g) (hObject : g.object = some o) :
    (exclusive t block f).run s =
        (let last := (f o).run (s.lend block true)
        (.ok last.1.1, (last.2.setHandle t block { g with object := some last.1.2 }).endLoan)) ∧
      (exclusive t block f).trace s =
        .lent ⟨block, true⟩ :: ((f o).trace (s.lend block true) ++ [.returned]) := by
  rw [exclusive, run_lending hLend, trace_lending hLend, hObject]
  simp

end Access

end ScriptBridge
