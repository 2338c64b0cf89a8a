import ScriptBridge.Proofs.Host.Invariant
import ScriptBridge.Proofs.Run.Path

/-!
# Histories of hosts

A host as it was opened and the operations performed on it, with all states on the way, those inside
operations included; all of them are reachable. What every step keeps holds along a whole history,
and between any two of its states.
-/
namespace ScriptBridge
set_option autoImplicit false

variable {N : Natives}

def performAll : List (Operation N) → Run N Unit
  | [] => pure ()
  | op :: rest => do
    op.perform
    performAll rest

structure History (N : Natives) where
  config : Config
  registry : Registry N.ObjectType
  captured : N.Captured
  opened : State N
  operations : List (Operation N)
  grown : registry.Grown
  created : Host.create config registry captured = .ok opened

namespace History

variable (h : History N)

/-- The states of the host, from the first to the last. -/
def states : List (State N) := h.opened :: (performAll h.operations).path h.opened

def last : State N := ((performAll h.operations).run h.opened).2

theorem last_mem : h.last ∈ h.states := List.mem_of_getLast? (Run.getLast?_path _ _)

theorem prefix_last : h.states.dropLast ++ [h.last] <+: h.states := by
  have hLast : h.last ∈ h.states.getLast? := Run.getLast?_path _ _
  exact ⟨[], (List.append_nil _).trans (List.dropLast_append_getLast? h.last hLast)⟩

/-- The history that goes on with one more operation. -/
def perform (op : Operation N) : History N := { h with operations := h.operations ++ [op] }

variable {h}

theorem reachable_of_performAll {ops : List (Operation N)} {s s' : State N} (hRest : AtRest s)
    (h : s' ∈ s :: (performAll ops).path s) : Reachable s' := by
  induction ops generalizing s with
  | nil =>
    obtain rfl := List.mem_singleton.mp h
    exact hRest.reachable
  | cons op rest ih =>
    rw [performAll, Run.path_bind, ← List.cons_append, List.mem_append] at h
    rcases h with hFirst | hRestOf
    · obtain ⟨marks, hp⟩ := Run.mem_path_iff.mp hFirst
      exact .passed hRest hp
    · exact ih (hRest.performed op) (List.mem_cons_of_mem _ hRestOf)

theorem reachable {s : State N} (hs : s ∈ h.states) : Reachable s :=
  reachable_of_performAll (.created h.grown h.created) hs

section Chain

variable {R : State N → State N → Prop}

theorem steps_performAll {ops : List (Operation N)}
    (hSteps : ∀ op ∈ ops, ∀ s, op.perform.Steps R s) (s : State N) :
    (performAll ops).Steps R s := by
  induction ops generalizing s with
  | nil => exact Run.steps_pure ()
  | cons op rest ih =>
    have hRest (op' : Operation N) (h : op' ∈ rest) := hSteps op' (List.mem_cons_of_mem _ h)
    exact Run.steps_bind_iff.mpr ⟨hSteps op List.mem_cons_self s, ih hRest _⟩

theorem isChain (hSteps : ∀ op ∈ h.operations, ∀ s, op.perform.Steps R s) :
    h.states.IsChain R :=
  steps_performAll hSteps h.opened

/-- What the host has when it is opened and every step keeps, it has all the time. -/
theorem forall_of_isChain {I : State N → Prop} (hChain : h.states.IsChain R)
    (hKeeps : ∀ s s', R s s' → I s → I s') (hOpened : I h.opened) : ∀ s ∈ h.states, I s := by
  intro s hs
  rcases List.mem_cons.mp hs with rfl | hLater
  · exact hOpened
  · exact hChain.cons_induction I _ (fun s s' => hKeeps s s') hOpened s hLater

/-- The history comes by `s` and then, at once or later, by `s'`. -/
def Precedes (h : History N) (s s' : State N) : Prop :=
  ∃ past future, h.states = past ++ s :: future ∧ s' ∈ s :: future

namespace Precedes

variable {s s' : State N}

theorem mem_left (hp : h.Precedes s s') : s ∈ h.states := by
  obtain ⟨past, future, hStates, -⟩ := hp
  rw [hStates]
  exact List.mem_append_right _ List.mem_cons_self

theorem mem_right (hp : h.Precedes s s') : s' ∈ h.states := by
  obtain ⟨past, future, hStates, hs'⟩ := hp
  rw [hStates]
  exact List.mem_append_right _ hs'

theorem rel {Q : State N → State N → Prop} (hp : h.Precedes s s') (hRefl : Q s s)
    (hPairwise : h.states.Pairwise Q) : Q s s' := by
  obtain ⟨past, future, hStates, hs'⟩ := hp
  rw [hStates] at hPairwise
  rcases List.mem_cons.mp hs' with rfl | hLater
  · exact hRefl
  · exact (List.pairwise_cons.mp (List.pairwise_append.mp hPairwise).2.1).1 s' hLater

end Precedes

theorem pairwise_of_isChain {Q : State N → State N → Prop} (hChain : h.states.IsChain R)
    (hStep : ∀ s s', R s s' → Q s s') (hTrans : ∀ s₁ s₂ s₃, Q s₁ s₂ → Q s₂ s₃ → Q s₁ s₃) :
    h.states.Pairwise Q :=
  have : Trans Q Q Q := ⟨fun h h' => hTrans _ _ _ h h'⟩
  (hChain.imp hStep).pairwise

end Chain

end History

end ScriptBridge
