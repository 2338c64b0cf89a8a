import ScriptBridge.Proofs.Host.Operation

/-!
# Invariants of hosts

A property of states that every step keeps holds of every reachable state. `Keeps` says that a
computation keeps a property all the way; it goes from parts to the whole, so that only single steps
have to be looked at.
-/
namespace ScriptBridge
set_option autoImplicit false

variable {N : Natives} {α β : Type}

/-- Begun where `I` holds, the computation comes only by states where it holds. -/
def Keeps (I : State N → Prop) (m : Run N α) : Prop :=
  ∀ s marks s', I s → m.Passes s marks s' → I s'

namespace Keeps

variable {I : State N → Prop}

theorem last {m : Run N α} (h : Keeps I m) {s : State N} (hs : I s) : I (m.run s).2 :=
  h _ _ _ hs (Run.passes_last m s)

theorem done (a : α) : Keeps I (pure a : Run N α) := by
  intro s marks s' hs hp
  obtain ⟨rfl, rfl⟩ := Run.passes_pure_iff.mp hp
  exact hs

theorem bind {m : Run N α} {f : α → Run N β} (hm : Keeps I m) (hf : ∀ a, Keeps I (f a)) :
    Keeps I (m >>= f) := by
  intro s marks s' hs hp
  rcases Run.passes_bind_iff.mp hp with hFirst | ⟨rest, rfl, hSecond⟩
  · exact hm _ _ _ hs hFirst
  · exact hf _ _ _ _ (hm.last hs) hSecond

theorem look {f : State N → Run N α} (hf : ∀ s, Keeps I (f s)) : Keeps I (Run.look f) :=
  fun _ _ _ hs hp => hf _ _ _ _ hs (Run.passes_look_iff.mp hp)

theorem atomic {f : State N → α × State N} (hf : ∀ s, I s → I (f s).2) :
    Keeps I (Run.atomic f) := by
  intro s marks s' hs hp
  obtain ⟨rfl, rfl | rfl⟩ := Run.passes_atomic_iff.mp hp
  · exact hs
  · exact hf s hs

theorem announce {mark : Mark N} {f : State N → State N} (hf : ∀ s, I s → I (f s)) :
    Keeps I (Run.announce mark f) := by
  intro s marks s' hs hp
  rcases Run.passes_announce_iff.mp hp with ⟨rfl, rfl⟩ | ⟨rfl, rfl⟩
  · exact hs
  · exact hf s hs

theorem lending {t : N.ObjectType} {block : Nat} {mode : Bool}
    {f : Handle N t → Run N (Except BridgeError α)}
    (hLend : ∀ s, I s → I (s.lend block mode)) (hEnd : ∀ s, I s → I s.endLoan)
    (hf : ∀ h, Keeps I (f h)) : Keeps I (Access.lending t block mode f) := by
  refine .look fun s => ?_
  split
  · exact .done _
  · exact .bind (.announce hLend) fun _ => .bind (hf _) fun _ => .bind (.announce hEnd) fun _ =>
      .done _

end Keeps

/-- What the end of one object keeps, collecting garbage keeps. -/
theorem State.collect_induction {I : State N → Prop} {s : State N} (held : List Value) (h : I s)
    (hFinalize : ∀ s block, I s → I (s.finalize block)) : I (s.collect held) := by
  unfold State.collect
  generalize s.reachableFrom held = kept
  generalize List.range s.blocks.length = blocks
  induction blocks generalizing s with
  | nil => exact h
  | cons block rest ih =>
    rw [List.foldl_cons]
    split
    · exact ih h
    · exact ih (hFinalize s block h)

theorem State.close_induction {I : State N → Prop} {s : State N} (h : I s)
    (hFinalize : ∀ s block, I s → I (s.finalize block)) : I s.close := by
  unfold State.close
  generalize List.range s.blocks.length = blocks
  induction blocks generalizing s with
  | nil => exact h
  | cons block rest ih => exact ih (hFinalize s block h)

theorem Host.opened_of_create {config : Config} {r : Registry N.ObjectType} {captured : N.Captured}
    {s : State N} (h : Host.create config r captured = .ok s) :
    ∃ opened names limit, s = (Host.fresh opened r captured).emit (.hostCreated names limit) := by
  unfold Host.create at h
  split at h
  · cases h
  · cases h
    exact ⟨_, _, _, rfl⟩

/-- What fresh hosts have and every operation keeps is an invariant. -/
theorem Reachable.of_keeps {I : State N → Prop} {s : State N}
    (hFresh : ∀ {config : Config} {r : Registry N.ObjectType} {captured : N.Captured} {s : State N},
      r.Grown → Host.create config r captured = .ok s → I s)
    (hKeeps : ∀ op : Operation N, Keeps I op.perform) (h : Reachable s) : I s := by
  have hRest {s : State N} (h : AtRest s) : I s := by
    induction h with
    | created hr hs => exact hFresh hr hs
    | performed h op ih => exact (hKeeps op).last ih
  obtain ⟨hBefore, hp⟩ := h
  exact hKeeps _ _ _ _ (hRest hBefore) hp

end ScriptBridge
