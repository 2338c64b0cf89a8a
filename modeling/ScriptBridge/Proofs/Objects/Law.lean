import ScriptBridge.Proofs.Objects.Step

/-!
# Laws of objects

A relation between states that every elementary change of objects has, and that goes on from one
change to the next, holds between any two states of a history in their order. Collecting garbage and
closing a host end one object after the other; a release ends one as well. A law that only says what
is kept is an invariant.
-/
namespace ScriptBridge
set_option autoImplicit false

variable {N : Natives}

namespace State

variable {s s' : State N} {t : N.ObjectType} {block other : Nat} {h : Handle N t} {o : N.Payload t}

theorem finalize_cases (s : State N) (block : Nat) :
    (s.finalize block = s ∧ ∀ t (h : Handle N t), s.contentOf block = some ⟨t, h⟩ → h.object = none) ∨
      ∃ (t : N.ObjectType) (h : Handle N t) (o : N.Payload t), s.contentOf block = some ⟨t, h⟩ ∧
        h.object = some o ∧ s.finalize block = s.endObject t block h o false := by
  change _ ∨ ∃ t h o, (s.blocks[block]?).bind Block.content = some ⟨t, h⟩ ∧ _
  unfold finalize contentOf
  split
  · rename_i t h hContent
    rw [hContent]
    split
    · rename_i o hObject
      exact .inr ⟨t, h, o, rfl, hObject, rfl⟩
    · rename_i hNone
      refine .inl ⟨rfl, fun u g hg => ?_⟩
      cases hg
      exact hNone
  · rename_i hNone
    rw [hNone]
    exact .inl ⟨rfl, fun u g hg => nomatch hg⟩

/-- Ends the objects in some blocks, one after the other. -/
def finalizeAll (s : State N) (blocks : List Nat) : State N := blocks.foldl finalize s

/-- The blocks whose objects a collection ends. -/
def unreached (s : State N) (held : List Value) : List Nat :=
  (List.range s.blocks.length).filter fun block => .userdata block ∉ s.reachableFrom held

theorem collect_eq (s : State N) (held : List Value) :
    s.collect held = s.finalizeAll (s.unreached held) := by
  rw [collect, finalizeAll, unreached, List.foldl_filter]
  congr
  funext s' block
  by_cases h : .userdata block ∈ s.reachableFrom held <;> simp [h]

theorem close_eq (s : State N) : s.close = s.finalizeAll (List.range s.blocks.length) := rfl

/-- What a handle is when its object has ended. -/
def ended (c : (t : N.ObjectType) × Handle N t) : (t : N.ObjectType) × Handle N t :=
  ⟨c.1, { c.2 with object := none }⟩

theorem ended_of_none (hNone : h.object = none) : ended ⟨t, h⟩ = ⟨t, h⟩ := by
  cases h
  cases hNone
  rfl

theorem contentOf_endObject_self (early : Bool) (hContent : s.contentOf block = some ⟨t, h⟩) :
    (s.endObject t block h o early).contentOf block = some (ended ⟨t, h⟩) :=
  contentOf_setHandle_self (lt_length_of_contentOf hContent)

theorem contentOf_endObject_of_ne (early : Bool) (hne : other ≠ block) :
    (s.endObject t block h o early).contentOf other = s.contentOf other :=
  contentOf_setHandle_of_ne hne

theorem contentOf_finalize (s : State N) (block other : Nat) :
    (s.finalize block).contentOf other =
      if other = block then (s.contentOf other).map ended else s.contentOf other := by
  rcases s.finalize_cases block with ⟨hSame, hNone⟩ | ⟨t, h, o, hContent, -, hEnd⟩
  · rw [hSame]
    split
    · rename_i he
      subst he
      rcases hContent : s.contentOf other with _ | ⟨t, h⟩
      · rfl
      · rw [Option.map_some, ended_of_none (hNone t h hContent)]
    · rfl
  · rw [hEnd]
    split
    · rename_i he
      subst he
      rw [contentOf_endObject_self false hContent, hContent, Option.map_some]
    · rename_i hne
      exact contentOf_endObject_of_ne false hne

theorem contentOf_finalizeAll (s : State N) (blocks : List Nat) (other : Nat) :
    (s.finalizeAll blocks).contentOf other =
      if other ∈ blocks then (s.contentOf other).map ended else s.contentOf other := by
  induction blocks generalizing s with
  | nil => rfl
  | cons block rest ih =>
    change ((s.finalize block).finalizeAll rest).contentOf other = _
    rw [ih, contentOf_finalize]
    by_cases hRest : other ∈ rest
    · rw [if_pos hRest, if_pos (List.mem_cons_of_mem _ hRest)]
      split
      · -- an object that is ended twice is ended
        cases s.contentOf other <;> rfl
      · rfl
    · rw [if_neg hRest]
      by_cases hFirst : other = block
      · rw [if_pos hFirst, if_pos (hFirst ▸ List.mem_cons_self)]
      · rw [if_neg hFirst, if_neg (List.not_mem_cons_of_ne_of_not_mem hFirst hRest)]

/-- Writing a handle leaves every handle in its place. -/
theorem handle_of_setHandle (hContent : s.contentOf block = some ⟨t, h⟩) (o : Option (N.Payload t))
    {other : Nat} {u : N.ObjectType} {g : Handle N u}
    (hg : (s.setHandle t block { h with object := o }).contentOf other = some ⟨u, g⟩) :
    ∃ o', s.contentOf other = some ⟨u, { g with object := o' }⟩ := by
  by_cases he : other = block
  · subst he
    rw [contentOf_setHandle_self (lt_length_of_contentOf hContent)] at hg
    cases hg
    exact ⟨h.object, hContent⟩
  · rw [contentOf_setHandle_of_ne he] at hg
    exact ⟨g.object, hg⟩

theorem handle_of_finalizeAll {blocks : List Nat} {other : Nat} {u : N.ObjectType}
    {g : Handle N u} (hg : (s.finalizeAll blocks).contentOf other = some ⟨u, g⟩) :
    ∃ o', s.contentOf other = some ⟨u, { g with object := o' }⟩ := by
  rw [contentOf_finalizeAll] at hg
  split at hg
  · obtain ⟨⟨w, g'⟩, hBefore, hEnded⟩ := Option.map_eq_some_iff.mp hg
    cases hEnded
    exact ⟨g'.object, hBefore⟩
  · exact ⟨g.object, hg⟩

end State

/-- A relation that every elementary change of objects has and that goes on from one change to the
next. -/
structure ObjectLaw (forging : Bool) (Q : State N → State N → Prop) : Prop where
  trans {s₁ s₂ s₃ : State N} : Q s₁ s₂ → Q s₂ s₃ → Q s₁ s₃
  aside {s s' : State N} : s.SameObjects s' → s'.registry = s.registry → Q s s'
  typed {s s' : State N} {i : Identity N.ObjectType} :
    s.SameObjects s' → s.registry.Admits i s'.registry → Q s s'
  created {s : State N} {t : N.ObjectType} {identifier : String} :
    s.registry.identifier? t = some identifier → ∀ o, Q s (s.addHandle t identifier o)
  dropped {s : State N} {t : N.ObjectType} :
    s.registry.identifier? t = none → ∀ o, Q s (s.dropObject t o)
  foreign (s : State N) {stamp : Value} :
    (forging = false → stamp = .nil) → Q s (s.addForeign stamp)
  restamped (s : State N) (block : Nat) (stamp : Value) :
    forging = true → Q s (s.setStamp block stamp)
  written {s : State N} {t : N.ObjectType} {block : Nat} {h : Handle N t} {o : N.Payload t} :
    s.contentOf block = some ⟨t, h⟩ → h.object = some o →
      ∀ o', Q s (s.setHandle t block { h with object := some o' })
  ended {s : State N} {t : N.ObjectType} {block : Nat} {h : Handle N t} {o : N.Payload t} :
    s.contentOf block = some ⟨t, h⟩ → h.object = some o →
      ∀ early, Q s (s.endObject t block h o early)

namespace ObjectLaw

variable {forging : Bool} {Q : State N → State N → Prop} {s s' : State N}

theorem refl (law : ObjectLaw forging Q) (s : State N) : Q s s := law.aside (.refl s) rfl

theorem finalizeAll (law : ObjectLaw forging Q) (s : State N) (blocks : List Nat) :
    Q s (s.finalizeAll blocks) := by
  induction blocks generalizing s with
  | nil => exact law.refl s
  | cons block rest ih =>
    refine law.trans ?_ (ih (s.finalize block))
    rcases s.finalize_cases block with ⟨hSame, -⟩ | ⟨t, h, o, hContent, hObject, hEnd⟩
    · rw [hSame]
      exact law.refl s
    · rw [hEnd]
      exact law.ended hContent hObject false

theorem step (law : ObjectLaw forging Q) (h : ObjectStep forging s s') : Q s s' := by
  cases h with
  | aside h hRegistry => exact law.aside h hRegistry
  | typed h hAdmits => exact law.typed h hAdmits
  | created h o => exact law.created h o
  | dropped h o => exact law.dropped h o
  | foreign _ h => exact law.foreign s h
  | restamped _ block stamp h => exact law.restamped s block stamp h
  | written hContent hObject o' => exact law.written hContent hObject o'
  | @released s t block g o hLend hObject =>
    have hContent : (s.lend block true).contentOf block = some ⟨t, g⟩ :=
      (State.lendable_eq_ok_iff.mp hLend).1
    exact law.ended hContent hObject true
  | collected _ held =>
    rw [State.collect_eq]
    exact law.finalizeAll s _

theorem pairwise (law : ObjectLaw forging Q) {h : History N}
    (hOps : forging = false → ∀ op ∈ h.operations, op.Unforged) : h.states.Pairwise Q :=
  History.pairwise_of_isChain (History.isChain_objectStep forging hOps) (fun _ _ => law.step)
    fun _ _ _ => law.trans

variable {I : State N → Prop}

theorem invariant (law : ObjectLaw forging fun s s' => I s → I s') {h : History N}
    (hOps : forging = false → ∀ op ∈ h.operations, op.Unforged) (hOpened : I h.opened) :
    ∀ s ∈ h.states, I s :=
  History.forall_of_isChain (History.isChain_objectStep forging hOps) (fun _ _ => law.step) hOpened

end ObjectLaw

end ScriptBridge
