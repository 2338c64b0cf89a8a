import ScriptBridge.Proofs.Host.Invariant
import ScriptBridge.Proofs.Identity.Registry

/-!
# Wired entry points

The types whose members scripts can call have an identifier. It is asked for when a member is bound,
and no identity is ever taken back.
-/
namespace ScriptBridge
set_option autoImplicit false

variable {N : Natives}

/-- The owner of every entry point has an identity. -/
def State.Wired (s : State N) : Prop :=
  ∀ e, .entry e ∈ s.functions → ∀ t, e.callable.owner? = some t →
    (s.registry.identityOf? t).isSome = true

namespace State.Wired

variable {s s' : State N}

theorem congr (h : s.Wired) (hFunctions : s'.functions = s.functions)
    (hRegistry : s'.registry = s.registry) : s'.Wired := by
  intro e he t ht
  rw [hRegistry]
  exact h e (hFunctions ▸ he) t ht

theorem add {f : ScriptFunction N} (h : s.Wired)
    (hf : ∀ e, f = .entry e → ∀ t, e.callable.owner? = some t →
      (s.registry.identityOf? t).isSome = true)
    (hFunctions : s'.functions = s.functions ++ [f]) (hRegistry : s'.registry = s.registry) :
    s'.Wired := by
  intro e he t ht
  rw [hFunctions, List.mem_append, List.mem_singleton] at he
  rw [hRegistry]
  rcases he with hOld | hNew
  · exact h e hOld t ht
  · exact hf e hNew.symm t ht

end State.Wired

namespace Keeps

variable {α : Type}

theorem wired {f : State N → α × State N} (hFunctions : ∀ s, (f s).2.functions = s.functions)
    (hRegistry : ∀ s, (f s).2.registry = s.registry) : Keeps State.Wired (Run.atomic f) :=
  .atomic fun s h => h.congr (hFunctions s) (hRegistry s)

theorem wired_announce {mark : Mark N} {f : State N → State N}
    (hFunctions : ∀ s, (f s).functions = s.functions)
    (hRegistry : ∀ s, (f s).registry = s.registry) : Keeps State.Wired (Run.announce mark f) :=
  .announce fun s h => h.congr (hFunctions s) (hRegistry s)

end Keeps

theorem stepwise_wired : Stepwise (N := N) fun _ m => Keeps State.Wired m where
  pure := .done
  bind := .bind
  look := .look
  assign _ _ := .wired (fun _ => rfl) fun _ => rfl
  lambda _ := .atomic fun _ h => h.add (fun _ he => by cases he) rfl rfl
  capture _ := .wired (fun _ => rfl) fun _ => rfl
  lending := .lending (fun _ h => h.congr rfl rfl) fun _ h => h.congr rfl rfl
  write _ _ _ := .wired (fun _ => rfl) fun _ => rfl
  destroy _ _ _ _ := .wired (fun _ => rfl) fun _ => rfl

theorem compositional_wired : Compositional (N := N) fun _ m => Keeps State.Wired m where
  toComposable := stepwise_wired.composable
  enter e args hCall := by
    refine stepwise_wired.composable.enter hCall (fun b => ?_) (fun e args => ?_) (fun vs => ?_)
      (fun name error => ?_) e args
    all_goals exact .wired_announce (fun _ => rfl) fun _ => rfl

theorem hostWide_wired : HostWide (N := N) fun _ m => Keeps State.Wired m where
  toCalling := compositional_wired.calling
  bound codec name c := by
    refine .atomic fun s h => ?_
    split
    · exact h
    · rename_i hOwner
      refine h.add ?_ rfl rfl
      rintro e ⟨rfl⟩ t ht
      exact Option.isSome_iff_ne_none.mpr (by simpa [ht, Option.filter] using hOwner)
  space name := by
    refine .wired (fun s => ?_) fun s => ?_
    · split <;> rfl
    · split <;> rfl
  entered _ _ _ := .wired (fun _ => rfl) fun _ => rfl
  typed t identifier := by
    refine .atomic fun s h => ?_
    split
    · exact h
    · rename_i i r hr
      have hNew : ({ s with registry := r } : State N).Wired := fun e he u hu =>
        (Registry.admits_of_register hr).2.grows.isSome (h e he u hu)
      dsimp only
      split
      · exact hNew.congr rfl rfl
      · exact hNew
  attached _ _ := .wired (fun _ => rfl) fun _ => rfl
  told _ _ := .wired (fun _ => rfl) fun _ => rfl
  created t o := by
    refine .wired (fun s => ?_) fun s => ?_
    · dsimp only
      split <;> rfl
    · dsimp only
      split <;> rfl
  table := .wired (fun _ => rfl) fun _ => rfl
  inert := .atomic fun _ h => h.add (fun _ he => by cases he) rfl rfl
  unstamped := .wired (fun _ => rfl) fun _ => rfl
  foreign _ := .wired (fun _ => rfl) fun _ => rfl
  restamped _ _ := .wired (fun _ => rfl) fun _ => rfl

theorem State.Wired.finalize {s : State N} (h : s.Wired) (block : Nat) :
    (s.finalize block).Wired := by
  unfold State.finalize
  split
  · split
    · exact h.congr rfl rfl
    · exact h
  · exact h

theorem Reachable.wired {s : State N} (h : Reachable s) : s.Wired := by
  refine h.of_keeps ?_ fun op => ?_
  · intro config r captured s _ hs e he
    obtain ⟨opened, names, limit, rfl⟩ := Host.opened_of_create hs
    simp [Host.fresh, State.emit] at he
  · exact hostWide_wired.operation op fun held _ => .atomic fun s h =>
      State.collect_induction held h fun s block h => h.finalize block

end ScriptBridge
