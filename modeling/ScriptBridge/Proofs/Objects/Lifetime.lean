import ScriptBridge.Proofs.Objects.Ledger

/-!
# Lifetimes of objects

Every native object ends once. It ends when its handle is released, when the handle is collected,
when the host is closed, or at once if it could not be put into a handle. Handles never change their
type, their number or their identifier, and one that has lost its object never gets another.
-/
namespace ScriptBridge
set_option autoImplicit false

variable {N : Natives}

namespace State

variable {s s' : State N} {t u : N.ObjectType} {block : Nat} {h : Handle N t} {o : N.Payload t}

/-- What there still is of a state in a later one. -/
structure Persists (s s' : State N) : Prop where
  handles : ∀ (block : Nat) (t : N.ObjectType) (h : Handle N t), s.contentOf block = some ⟨t, h⟩ →
    ∃ o, s'.contentOf block = some ⟨t, { h with object := o }⟩ ∧ (h.object = none → o = none)
  destroyed : s.destroyed <+: s'.destroyed
  told : s.lifecycle <+: s'.lifecycle
  serials : s.serials ≤ s'.serials
  registry : s.registry.Extends s'.registry

namespace Persists

theorem refl (s : State N) : s.Persists s :=
  ⟨fun _ _ h hContent => ⟨h.object, hContent, id⟩, List.prefix_rfl, List.prefix_rfl, Nat.le_refl _,
    .refl _⟩

theorem trans {s₁ s₂ s₃ : State N} (h : s₁.Persists s₂) (h' : s₂.Persists s₃) :
    s₁.Persists s₃ where
  handles block t g hg := by
    obtain ⟨o, ho, hNone⟩ := h.handles block t g hg
    obtain ⟨o', ho', hNone'⟩ := h'.handles block t _ ho
    exact ⟨o', ho', fun hObject => hNone' (hNone hObject)⟩
  destroyed := h.destroyed.trans h'.destroyed
  told := h.told.trans h'.told
  serials := Nat.le_trans h.serials h'.serials
  registry := h.registry.trans h'.registry

/-- Nothing is lost where contents stay and the rest only grows. -/
theorem of_contents (hContents : ∀ block c, s.contentOf block = some c → s'.contentOf block = some c)
    (hDestroyed : s.destroyed <+: s'.destroyed) (hTold : s.lifecycle <+: s'.lifecycle)
    (hSerials : s.serials ≤ s'.serials) (hRegistry : s.registry.Extends s'.registry) :
    s.Persists s' where
  handles block _ h hContent := ⟨h.object, hContents block _ hContent, id⟩
  destroyed := hDestroyed
  told := hTold
  serials := hSerials
  registry := hRegistry

theorem same (h : s.SameObjects s') (hRegistry : s.registry.Extends s'.registry) :
    s.Persists s' := by
  refine of_contents (fun block c hContent => ?_) ?_ ?_ (Nat.le_of_eq h.serials.symm) hRegistry
  · rw [contentOf_congr h.blocks, hContent]
  · exact h.destroyed ▸ List.prefix_rfl
  · exact h.lifecycle ▸ List.prefix_rfl

theorem appended {bs : List (Block N)} (hBlocks : s'.blocks = s.blocks ++ bs)
    (hDestroyed : s'.destroyed = s.destroyed) (hTold : s.lifecycle <+: s'.lifecycle)
    (hSerials : s.serials ≤ s'.serials) (hRegistry : s'.registry = s.registry) :
    s.Persists s' := by
  refine of_contents (fun block c hContent => ?_) ?_ hTold hSerials (hRegistry ▸ .refl _)
  · rw [contentOf_append hBlocks (lt_length_of_contentOf hContent), hContent]
  · exact hDestroyed ▸ List.prefix_rfl

/-- One handle is written, and it is not given an object if it has none. -/
theorem rewritten (hContent : s.contentOf block = some ⟨t, h⟩) {o' : Option (N.Payload t)}
    (hNone : h.object = none → o' = none)
    (hBlocks : s'.blocks = (s.setHandle t block { h with object := o' }).blocks)
    (hDestroyed : s.destroyed <+: s'.destroyed) (hTold : s.lifecycle <+: s'.lifecycle)
    (hSerials : s'.serials = s.serials) (hRegistry : s'.registry = s.registry) :
    s.Persists s' where
  handles other u g hg := by
    rw [contentOf_congr hBlocks]
    by_cases he : other = block
    · subst he
      rw [hContent] at hg
      cases hg
      exact ⟨o', contentOf_setHandle_self (lt_length_of_contentOf hContent), hNone⟩
    · rw [contentOf_setHandle_of_ne he]
      exact ⟨g.object, hg, id⟩
  destroyed := hDestroyed
  told := hTold
  serials := Nat.le_of_eq hSerials.symm
  registry := hRegistry ▸ .refl _

theorem law (forging : Bool) : ObjectLaw (N := N) forging Persists where
  trans := trans
  aside h hRegistry := same h (hRegistry ▸ .refl _)
  typed h hAdmits := same h hAdmits.grows
  created _ o := by
    refine appended rfl rfl ?_ (Nat.le_succ _) rfl
    rw [lifecycle_addHandle]
    exact List.prefix_append _ _
  dropped _ o :=
    of_contents (fun _ _ => id) (List.prefix_append _ _) List.prefix_rfl (Nat.le_succ _)
      (.refl _)
  foreign s _ _ := appended rfl rfl List.prefix_rfl (Nat.le_refl _) rfl
  restamped s block stamp _ :=
    of_contents (fun other c hContent => (s.contentOf_restamp block stamp other).trans hContent)
      List.prefix_rfl List.prefix_rfl (Nat.le_refl _) (.refl _)
  written hContent hObject o' := by
    refine rewritten hContent (fun hNone => ?_) rfl List.prefix_rfl List.prefix_rfl rfl rfl
    rw [hObject] at hNone
    cases hNone
  ended hContent _ early := by
    refine rewritten hContent (fun _ => rfl) rfl (List.prefix_append _ _) ?_ rfl rfl
    rw [lifecycle_endObject]
    exact List.prefix_append _ _

end Persists

/-- The object of the handle in a block has ended. -/
def Dead (s : State N) (block : Nat) : Prop :=
  ∃ (t : N.ObjectType) (h : Handle N t), s.contentOf block = some ⟨t, h⟩ ∧ h.object = none

theorem Dead.persists (hDead : s.Dead block) (h : s.Persists s') : s'.Dead block := by
  obtain ⟨t, g, hContent, hNone⟩ := hDead
  obtain ⟨o, hContent', hStays⟩ := h.handles block t g hContent
  exact ⟨t, _, hContent', hStays hNone⟩

theorem Accounted.live_iff (hs : s.Accounted) (hContent : s.contentOf block = some ⟨t, h⟩) :
    h.object.isSome = true ↔ h.serial ∉ s.destroyed.map Destroyed.serial := by
  have hHandle : ⟨t, h⟩ ∈ s.handles := mem_handles_iff.mpr ⟨block, hContent⟩
  constructor
  · intro hLive hDestroyed
    obtain ⟨o, hObject⟩ := Option.isSome_iff_exists.mp hLive
    have hLiving : h.serial ∈ s.living := List.mem_filterMap.mpr ⟨_, hHandle, by rw [hObject]; rfl⟩
    exact (List.nodup_append.mp hs.nodup).2.2 _ hDestroyed _ hLiving rfl
  · intro hNot
    refine Option.isSome_iff_ne_none.mpr fun hNone => hNot ?_
    obtain ⟨o, ho⟩ := hs.ended t h hHandle hNone
    exact List.mem_map_of_mem ho

end State

namespace Access

variable {s : State N} {t : N.ObjectType} {block : Nat} {h : Handle N t} {o : N.Payload t}

theorem release_failed {e : RuntimeError} (hLend : s.lendable t block true = .error e) :
    (release t block).run s = (.error (.ofRuntime e), s) :=
  (lending_refused hLend).1

theorem release_again (hLend : s.lendable t block true = .ok h) (hObject : h.object = none) :
    (release t block).run s = (.ok false, s) := by
  rw [release, run_lending hLend, hObject]
  rfl

theorem release_first (hLend : s.lendable t block true = .ok h) (hObject : h.object = some o) :
    (release t block).run s =
      (.ok true, ((s.lend block true).endObject t block h o true).endLoan) := by
  rw [release, run_lending hLend, hObject]
  rfl

theorem path_release_first (hLend : s.lendable t block true = .ok h) (hObject : h.object = some o) :
    (release t block).path s =
      [s, s.lend block true, (s.lend block true).endObject t block h o true,
        ((s.lend block true).endObject t block h o true).endLoan] := by
  rw [release, lending, Run.path_look, hLend]
  simp [hObject, State.endObject]

end Access

namespace State

variable {s s' : State N} {t : N.ObjectType} {block : Nat} {h : Handle N t} {o : N.Payload t}

/-- How attempts to release a handle end. -/
structure ReleasesOnce (s : State N) (t : N.ObjectType) (block : Nat) : Prop where
  first : ∀ h o, s.lendable t block true = .ok h → h.object = some o →
    ∃ after, (Access.release t block).run s = (.ok true, after) ∧ after.Dead block ∧
      after.destroyed = s.destroyed ++ [⟨t, h.serial, o⟩]
  again : ∀ h, s.lendable t block true = .ok h → h.object = none →
    (Access.release t block).run s = (.ok false, s)
  failed : ∀ e, s.lendable t block true = .error e →
    (Access.release t block).run s = (.error (.ofRuntime e), s)

theorem releasesOnce (s : State N) (t : N.ObjectType) (block : Nat) : s.ReleasesOnce t block where
  first h o hLend hObject := by
    have hContent : (s.lend block true).contentOf block = some ⟨t, h⟩ :=
      (lendable_eq_ok_iff.mp hLend).1
    have hEnded := contentOf_endObject_self (o := o) true hContent
    exact ⟨_, Access.release_first hLend hObject, ⟨t, { h with object := none }, hEnded, rfl⟩, rfl⟩
  again _ hLend hObject := Access.release_again hLend hObject
  failed _ hLend := Access.release_failed hLend

theorem Dead.not_released (hDead : s.Dead block) (u : N.ObjectType) :
    ((Access.release u block).run s).1 ≠ .ok true ∧ ((Access.release u block).run s).2 = s := by
  obtain ⟨t, g, hContent, hNone⟩ := hDead
  cases hLend : s.lendable u block true with
  | error e =>
    rw [Access.release_failed hLend]
    exact ⟨nofun, rfl⟩
  | ok g' =>
    have hContent' := (lendable_eq_ok_iff.mp hLend).1
    rw [hContent] at hContent'
    cases hContent'
    rw [Access.release_again hLend hNone]
    exact ⟨nofun, rfl⟩

/-- How an object is handed over: into a new handle, or to its end. -/
structure TakesOver (s : State N) (t : N.ObjectType) (o : N.Payload t) : Prop where
  registered : ∀ identifier, s.registry.identifier? t = some identifier →
    ∃ r after, (createHandle t o).run s = (.ok r, after) ∧ s.contentOf r.block = none ∧
      after.contentOf r.block = some ⟨t, ⟨identifier, s.serials, some o⟩⟩ ∧
      after.serials = s.serials + 1 ∧ after.destroyed = s.destroyed ∧
      after.lifecycle = s.lifecycle ++ [.handleCreated identifier]
  unregistered : s.registry.identifier? t = none →
    ∃ after, (createHandle t o).run s = (.error (.unregisteredType (N.typeName t)), after) ∧
      after.blocks = s.blocks ∧ after.serials = s.serials + 1 ∧
      after.destroyed = s.destroyed ++ [⟨t, s.serials, o⟩] ∧ after.lifecycle = s.lifecycle

theorem takesOver (s : State N) (t : N.ObjectType) (o : N.Payload t) : s.TakesOver t o where
  registered identifier hIdentifier := by
    refine ⟨_, _, run_createHandle_registered hIdentifier, ?_, ?_, rfl, rfl, lifecycle_addHandle ..⟩
    · simp [contentOf]
    · simp [contentOf, addHandle, emit]
  unregistered hIdentifier := ⟨_, run_createHandle_unregistered hIdentifier, rfl, rfl, rfl, rfl⟩

end State

/-- What one step destroys and what is told of it. -/
inductive Destruction : State N → State N → Prop where
  | nothing {s s' : State N} (hDestroyed : s'.destroyed = s.destroyed)
      (hTold : s'.releases = s.releases) : Destruction s s'
  | unregistered {s s' : State N} {t : N.ObjectType} {o : N.Payload t}
      (hCreate : (createHandle t o).run s = (.error (.unregisteredType (N.typeName t)), s'))
      (hDestroyed : s'.destroyed = s.destroyed ++ [⟨t, s.serials, o⟩])
      (hTold : s'.releases = s.releases) : Destruction s s'
  | early {before s s' after : State N} {t : N.ObjectType} {block : Nat} {h : Handle N t}
      {o : N.Payload t}
      (hPath : (Access.release t block).path before = [before, s, s', after])
      (hRelease : (Access.release t block).run before = (.ok true, after))
      (hDestroyed : s'.destroyed = s.destroyed ++ [⟨t, h.serial, o⟩])
      (hTold : s'.releases = s.releases ++ [(h.identifier, true)]) : Destruction s s'
  | collected {s : State N} {held : List Value} {ends : List (Destroyed N × String)}
      (hUnreached : ∀ block, (s.collect held).contentOf block =
        if block ∈ s.unreached held then (s.contentOf block).map State.ended
        else s.contentOf block)
      (hDestroyed : (s.collect held).destroyed = s.destroyed ++ ends.map Prod.fst)
      (hTold : (s.collect held).releases = s.releases ++ ends.map fun e => (e.2, false)) :
      Destruction s (s.collect held)

namespace State

variable {s s' : State N} {t : N.ObjectType} {block : Nat} {h : Handle N t} {o : N.Payload t}

theorem releases_endObject (s : State N) (early : Bool) :
    (s.endObject t block h o early).releases = s.releases ++ [(h.identifier, early)] := by
  rw [releases, lifecycle_endObject, List.filterMap_append]
  rfl

theorem ends_finalizeAll (s : State N) (blocks : List Nat) :
    ∃ ends : List (Destroyed N × String),
      (s.finalizeAll blocks).destroyed = s.destroyed ++ ends.map Prod.fst ∧
      (s.finalizeAll blocks).releases = s.releases ++ ends.map fun e => (e.2, false) := by
  induction blocks generalizing s with
  | nil => exact ⟨[], (List.append_nil _).symm, (List.append_nil _).symm⟩
  | cons block rest ih =>
    obtain ⟨ends, hDestroyed, hTold⟩ := ih (s.finalize block)
    change ∃ ends : List (Destroyed N × String),
      ((s.finalize block).finalizeAll rest).destroyed = _ ∧
      ((s.finalize block).finalizeAll rest).releases = _
    rw [hDestroyed, hTold]
    rcases s.finalize_cases block with ⟨hSame, -⟩ | ⟨t, h, o, -, -, hEnd⟩
    · rw [hSame]
      exact ⟨ends, rfl, rfl⟩
    · rw [hEnd, destroyed_endObject, releases_endObject]
      exact ⟨(⟨t, h.serial, o⟩, h.identifier) :: ends, List.append_assoc .., List.append_assoc ..⟩

end State

theorem ObjectStep.destruction {forging : Bool} {s s' : State N} (h : ObjectStep forging s s') :
    Destruction s s' := by
  cases h with
  | aside h _ => exact .nothing h.destroyed (by rw [State.releases, State.releases, h.lifecycle])
  | typed h _ => exact .nothing h.destroyed (by rw [State.releases, State.releases, h.lifecycle])
  | created h o =>
    refine .nothing rfl ?_
    rw [State.releases, State.lifecycle_addHandle, List.filterMap_append]
    exact List.append_nil _
  | dropped h o => exact .unregistered (run_createHandle_unregistered h) rfl rfl
  | foreign _ _ => exact .nothing rfl rfl
  | restamped _ _ _ _ => exact .nothing rfl rfl
  | written _ _ _ => exact .nothing rfl rfl
  | released hLend hObject =>
    exact .early (Access.path_release_first hLend hObject) (Access.release_first hLend hObject) rfl
      (State.releases_endObject _ true)
  | collected _ held =>
    obtain ⟨ends, hDestroyed, hTold⟩ := s.ends_finalizeAll (s.unreached held)
    rw [← State.collect_eq] at hDestroyed hTold
    refine .collected (fun block => ?_) hDestroyed hTold
    rw [State.collect_eq]
    exact s.contentOf_finalizeAll _ block

end ScriptBridge
