import ScriptBridge.Proofs.Objects.Lifetime

/-!
# Objects are destroyed once

The lifetimes of objects along a whole history, up to the host that is closed at its end.
-/
namespace ScriptBridge
set_option autoImplicit false

variable {N : Natives}

theorem History.accounted_opened (h : History N) : h.opened.Accounted := by
  obtain ⟨opened, names, limit, hOpened⟩ := Host.opened_of_create h.created
  rw [hOpened]
  exact ⟨.refl _, .refl _, fun t g hHandle => (List.not_mem_nil hHandle).elim, rfl, rfl⟩

theorem History.accounted (h : History N) : ∀ s ∈ h.states, s.Accounted :=
  (State.Accounted.law true).invariant nofun h.accounted_opened

theorem History.persists (h : History N) : h.states.Pairwise State.Persists :=
  (State.Persists.law true).pairwise nofun

namespace State

variable {s s' : State N}

/-- What closing a host leaves of it. -/
structure Closes (s s' : State N) : Prop where
  accounted : s'.Accounted
  persists : s.Persists s'
  destroyed : (s'.destroyed.map Destroyed.serial).Perm (List.range s.serials)
  dead : ∀ (block : Nat) c, s'.contentOf block = some c → s'.Dead block
  told : ∃ identifiers : List String,
    s'.releases = s.releases ++ identifiers.map fun identifier => (identifier, false)

theorem dead_of_close {block : Nat} {c : (t : N.ObjectType) × Handle N t}
    (hContent : s.close.contentOf block = some c) : s.close.Dead block := by
  have hlt : block < s.blocks.length := by
    by_contra hNot
    rw [close_eq, contentOf_finalizeAll, if_neg (by simpa using hNot)] at hContent
    exact hNot (lt_length_of_contentOf hContent)
  have hEnded := hContent
  rw [close_eq, contentOf_finalizeAll, if_pos (List.mem_range.mpr hlt)] at hEnded
  obtain ⟨c', -, rfl⟩ := Option.map_eq_some_iff.mp hEnded
  exact ⟨_, _, hContent, rfl⟩

theorem living_close (s : State N) : s.close.living = [] := by
  refine List.filterMap_eq_nil_iff.mpr fun c hc => ?_
  obtain ⟨block, hContent⟩ := mem_handles_iff.mp hc
  obtain ⟨t, h, hContent', hNone⟩ := dead_of_close hContent
  rw [hContent] at hContent'
  cases hContent'
  rw [hNone]
  rfl

theorem serials_finalizeAll (s : State N) (blocks : List Nat) :
    (s.finalizeAll blocks).serials = s.serials := by
  induction blocks generalizing s with
  | nil => rfl
  | cons block rest ih =>
    refine (ih (s.finalize block)).trans ?_
    rcases s.finalize_cases block with ⟨hSame, -⟩ | ⟨t, h, o, -, -, hEnd⟩
    · rw [hSame]
    · rw [hEnd]
      rfl

theorem Accounted.closes (hs : s.Accounted) : s.Closes s.close := by
  have hClosed : s.close.Accounted := (Accounted.law true).finalizeAll s _ hs
  refine ⟨hClosed, (Persists.law true).finalizeAll s _, ?_, fun _ _ => dead_of_close, ?_⟩
  · have hAll := hClosed.conserved
    rw [living_close, List.append_nil, close_eq, serials_finalizeAll] at hAll
    exact hAll
  · obtain ⟨ends, -, hTold⟩ := s.ends_finalizeAll (List.range s.blocks.length)
    refine ⟨ends.map Prod.snd, hTold.trans ?_⟩
    rw [List.map_map]
    rfl

end State

/-- Objects are destroyed once. At every moment of a history each object that was handed over is
destroyed, once, or live in one handle; a handle is live until its object is destroyed, and never
again; the first release that gets hold of a live object ends it, and no later one does. Every end
has its cause, which its event tells. When the host is closed all objects are destroyed. -/
theorem destroyed_exactly_once (h : History N) :
    (∀ s ∈ h.states, s.Accounted ∧ (s.destroyed.map Destroyed.serial).Nodup ∧
      (∀ (block : Nat) (t : N.ObjectType) (g : Handle N t), s.contentOf block = some ⟨t, g⟩ →
        (g.object.isSome = true ↔ g.serial ∉ s.destroyed.map Destroyed.serial)) ∧
      (∀ (t : N.ObjectType) (o : N.Payload t), s.TakesOver t o) ∧
      ∀ (t : N.ObjectType) (block : Nat), s.ReleasesOnce t block) ∧
    h.states.Pairwise (fun s s' => s.Persists s' ∧ ∀ block, s.Dead block →
      s'.Dead block ∧ ∀ u : N.ObjectType, ((Access.release u block).run s').1 ≠ .ok true ∧
        ((Access.release u block).run s').2 = s') ∧
    h.states.IsChain Destruction ∧
    h.last.Closes h.last.close := by
  refine ⟨fun s hs => ?_, ?_, ?_, (h.accounted _ h.last_mem).closes⟩
  · have hAccounted := h.accounted s hs
    exact ⟨hAccounted, (List.nodup_append.mp hAccounted.nodup).1,
      fun block t g hContent => hAccounted.live_iff hContent, s.takesOver, s.releasesOnce⟩
  · refine h.persists.imp fun hPersists => ⟨hPersists, fun block hDead => ?_⟩
    have hStill := hDead.persists hPersists
    exact ⟨hStill, hStill.not_released⟩
  · exact (History.isChain_objectStep true nofun).imp fun _ _ => ObjectStep.destruction

/-- A history of the sample objects, in a host with all defaults. -/
def Sample.history (operations : List (Operation sampleNatives)) : History sampleNatives where
  config := {}
  registry := {}
  captured := ({} : Captured)
  opened := (Host.fresh StandardLibrary.all {} ({} : Captured)).emit (.hostCreated [] none)
  operations := operations
  grown := .empty
  created := rfl

open Sample in
theorem destroyed_exactly_once_accounts :
    let first : Account := ⟨"first", .wrap _ 5, "savings"⟩
    let second : Account := ⟨"second", .wrap _ 7, "current"⟩
    let h := Sample.history [.registerType ObjectType.account "Account",
      .create ObjectType.account first, .create ObjectType.account second,
      .native 0 do let _ ← Program.destroy (t := ObjectType.account) ⟨0⟩]
    h.last.destroyed.map Destroyed.serial = [0] ∧ h.last.releases = [("Account", true)] ∧
      (h.last.close.destroyed.map Destroyed.serial).Perm [0, 1] := by
  intro first second h
  obtain ⟨-, -, -, hClosed⟩ := destroyed_exactly_once h
  have hSerials : h.last.serials = 2 := by decide +kernel
  have hDestroyed := hClosed.destroyed
  rw [hSerials] at hDestroyed
  exact ⟨by decide +kernel, by decide +kernel, hDestroyed⟩

end ScriptBridge
