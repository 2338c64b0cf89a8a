import Mathlib.Data.List.Perm.Basic
import ScriptBridge.Proofs.Objects.Law

/-!
# The ledger of objects

Every object that was handed over has a serial number. The ledger says where each of them is: it has
been destroyed, or it is live in one handle, and never both. The events that tell of the beginning
and the end of handles are read off the same ledger.
-/
namespace ScriptBridge
set_option autoImplicit false

variable {N : Natives}

namespace Event

/-- The identifier of a handle whose creation is told. -/
def created? : Event → Option String
  | handleCreated identifier => some identifier
  | _ => none

/-- The identifier of a handle whose end is told, and whether it was early. -/
def released? : Event → Option (String × Bool)
  | handleReleased identifier early => some (identifier, early)
  | _ => none

end Event

namespace State

/-- The handles in the order they were made. -/
def handles (s : State N) : List ((t : N.ObjectType) × Handle N t) :=
  s.blocks.filterMap Block.content

/-- The serial number and the identifier of every handle. -/
def issued (s : State N) : List (Nat × String) :=
  s.handles.map fun c => (c.2.serial, c.2.identifier)

/-- The serial numbers of the objects in handles. -/
def living (s : State N) : List Nat :=
  s.handles.filterMap fun c => c.2.object.map fun _ => c.2.serial

/-- The identifier of the handle that an object was destroyed in, if it was in one. -/
def identifierOf? (s : State N) (d : Destroyed N) : Option String := s.issued.lookup d.serial

def creations (s : State N) : List String := s.lifecycle.filterMap Event.created?

def releases (s : State N) : List (String × Bool) := s.lifecycle.filterMap Event.released?

variable {s s' : State N} {t : N.ObjectType} {block : Nat} {h : Handle N t} {o : N.Payload t}

theorem mem_handles_iff {c : (t : N.ObjectType) × Handle N t} :
    c ∈ s.handles ↔ ∃ block, s.contentOf block = some c := by
  rw [handles, List.mem_filterMap]
  constructor
  · rintro ⟨b, hb, hContent⟩
    obtain ⟨block, hBlock⟩ := List.mem_iff_getElem?.mp hb
    exact ⟨block, by rw [contentOf, hBlock]; exact hContent⟩
  · rintro ⟨block, hContent⟩
    obtain ⟨b, hBlock, hContent⟩ := Option.bind_eq_some_iff.mp hContent
    exact ⟨b, List.mem_iff_getElem?.mpr ⟨block, hBlock⟩, hContent⟩

theorem handles_congr (h : s'.blocks = s.blocks) : s'.handles = s.handles := by
  rw [handles, handles, h]

theorem handles_addHandle (s : State N) (t : N.ObjectType) (identifier : String) (o : N.Payload t) :
    (s.addHandle t identifier o).handles =
      s.handles ++ [⟨t, ⟨identifier, s.serials, some o⟩⟩] :=
  List.filterMap_append

theorem handles_addForeign (s : State N) (stamp : Value) :
    (s.addForeign stamp).handles = s.handles :=
  List.filterMap_append.trans (List.append_nil _)

theorem handles_eq (s : State N) : s.handles = (s.blocks.map Block.content).filterMap id :=
  (List.filterMap_map (f := Block.content) (g := id) (l := s.blocks)).symm

theorem handles_setStamp (s : State N) (block : Nat) (stamp : Value) :
    (s.setStamp block stamp).handles = s.handles := by
  rw [handles_eq, handles_eq]
  congr 1
  refine List.ext_getElem? fun other => ?_
  rw [setStamp, List.getElem?_map, List.getElem?_map, List.getElem?_modify]
  cases s.blocks[other]? with
  | none => rfl
  | some b => by_cases he : block = other <;> simp [he]

/-- Writing a handle exchanges it in its place. -/
theorem handles_setHandle (hContent : s.contentOf block = some ⟨t, h⟩) (h' : Handle N t) :
    ∃ before after, s.handles = before ++ ⟨t, h⟩ :: after ∧
      (s.setHandle t block h').handles = before ++ ⟨t, h'⟩ :: after := by
  obtain ⟨b, hBlock, hIn⟩ := Option.bind_eq_some_iff.mp hContent
  obtain ⟨hlt, rfl⟩ := List.getElem?_eq_some_iff.mp hBlock
  refine ⟨(s.blocks.take block).filterMap Block.content,
    (s.blocks.drop (block + 1)).filterMap Block.content, ?_, ?_⟩
  · rw [handles]
    conv_lhs => rw [← List.take_append_drop block s.blocks, List.drop_eq_getElem_cons hlt]
    rw [List.filterMap_append, List.filterMap_cons_some hIn]
  · rw [handles, setHandle, List.modify_eq_take_cons_drop hlt, List.filterMap_append]
    rfl

theorem issued_setHandle (hContent : s.contentOf block = some ⟨t, h⟩) (o : Option (N.Payload t)) :
    (s.setHandle t block { h with object := o }).issued = s.issued := by
  obtain ⟨before, after, hBefore, hAfter⟩ := handles_setHandle hContent { h with object := o }
  rw [issued, issued, hBefore, hAfter]
  simp

theorem living_written (hContent : s.contentOf block = some ⟨t, h⟩) (hObject : h.object = some o)
    (o' : N.Payload t) :
    (s.setHandle t block { h with object := some o' }).living = s.living := by
  obtain ⟨before, after, hBefore, hAfter⟩ := handles_setHandle hContent { h with object := some o' }
  rw [living, living, hBefore, hAfter]
  simp [hObject]

theorem identifierOf?_congr (h : s'.issued = s.issued) : s'.identifierOf? = s.identifierOf? := by
  funext d
  rw [identifierOf?, identifierOf?, h]

theorem issued_endObject (hContent : s.contentOf block = some ⟨t, h⟩) (early : Bool) :
    (s.endObject t block h o early).issued = s.issued :=
  issued_setHandle hContent none

theorem living_endObject (hContent : s.contentOf block = some ⟨t, h⟩) (hObject : h.object = some o)
    (early : Bool) : s.living.Perm (h.serial :: (s.endObject t block h o early).living) := by
  obtain ⟨before, after, hBefore, hAfter⟩ := handles_setHandle hContent { h with object := none }
  have hAfter : (s.endObject t block h o early).handles =
    before ++ ⟨t, { h with object := none }⟩ :: after := hAfter
  rw [living, living, hBefore, hAfter]
  simp [hObject]

theorem issued_addHandle (s : State N) (t : N.ObjectType) (identifier : String) (o : N.Payload t) :
    (s.addHandle t identifier o).issued = s.issued ++ [(s.serials, identifier)] := by
  rw [issued, handles_addHandle, List.map_append]
  rfl

theorem living_addHandle (s : State N) (t : N.ObjectType) (identifier : String) (o : N.Payload t) :
    (s.addHandle t identifier o).living = s.living ++ [s.serials] := by
  rw [living, handles_addHandle, List.filterMap_append]
  rfl

theorem destroyed_dropObject (s : State N) (t : N.ObjectType) (o : N.Payload t) :
    (s.dropObject t o).destroyed = s.destroyed ++ [⟨t, s.serials, o⟩] := rfl

theorem destroyed_endObject (s : State N) (early : Bool) :
    (s.endObject t block h o early).destroyed = s.destroyed ++ [⟨t, h.serial, o⟩] := rfl

theorem lifecycle_addHandle (s : State N) (t : N.ObjectType) (identifier : String)
    (o : N.Payload t) :
    (s.addHandle t identifier o).lifecycle = s.lifecycle ++ [.handleCreated identifier] :=
  List.filter_append ..

theorem lifecycle_endObject (s : State N) (early : Bool) :
    (s.endObject t block h o early).lifecycle =
      s.lifecycle ++ [.handleReleased h.identifier early] :=
  List.filter_append ..

end State

/-- The books are balanced: whatever was handed over is destroyed or live, each once; handles are
numbered in the order they were made, and their events are told in the order things happened. -/
structure State.Accounted (s : State N) : Prop where
  conserved : (s.destroyed.map Destroyed.serial ++ s.living).Perm (List.range s.serials)
  numbered : (s.issued.map Prod.fst).Sublist (List.range s.serials)
  ended : ∀ (t : N.ObjectType) (h : Handle N t), ⟨t, h⟩ ∈ s.handles → h.object = none →
    ∃ o, ⟨t, h.serial, o⟩ ∈ s.destroyed
  created : s.creations = s.issued.map Prod.snd
  released : s.releases.map Prod.fst = s.destroyed.filterMap s.identifierOf?

namespace State.Accounted

variable {s s' : State N} {t : N.ObjectType} {block : Nat} {h : Handle N t} {o : N.Payload t}

theorem congr (hs : s.Accounted) (hHandles : s'.handles = s.handles)
    (hSerials : s'.serials = s.serials) (hDestroyed : s'.destroyed = s.destroyed)
    (hLifecycle : s'.lifecycle = s.lifecycle) : s'.Accounted where
  conserved := by rw [living, hHandles, hSerials, hDestroyed]; exact hs.conserved
  numbered := by rw [issued, hHandles, hSerials]; exact hs.numbered
  ended := by rw [hHandles, hDestroyed]; exact hs.ended
  created := by rw [creations, issued, hHandles, hLifecycle]; exact hs.created
  released := by
    have hIssued : s'.issued = s.issued := by rw [issued, hHandles, issued]
    rw [releases, hDestroyed, hLifecycle, identifierOf?_congr hIssued]
    exact hs.released

theorem nodup (hs : s.Accounted) :
    (s.destroyed.map Destroyed.serial ++ s.living).Nodup :=
  hs.conserved.nodup_iff.mpr List.nodup_range

theorem serial_lt_of_destroyed (hs : s.Accounted) {d : Destroyed N} (hd : d ∈ s.destroyed) :
    d.serial < s.serials :=
  List.mem_range.mp <| hs.conserved.mem_iff.mp <|
    List.mem_append_left _ (List.mem_map_of_mem hd)

theorem serial_lt_of_issued (hs : s.Accounted) {entry : Nat × String} (h : entry ∈ s.issued) :
    entry.1 < s.serials :=
  List.mem_range.mp (hs.numbered.subset (List.mem_map_of_mem h))

/-- The books know the identifier of every handle. -/
theorem identifierOf?_handle (hs : s.Accounted) (hHandle : ⟨t, h⟩ ∈ s.handles) :
    s.identifierOf? ⟨t, h.serial, o⟩ = some h.identifier := by
  have hMem : (h.serial, h.identifier) ∈ s.issued := List.mem_map.mpr ⟨⟨t, h⟩, hHandle, rfl⟩
  obtain ⟨before, after, hSplit⟩ := List.append_of_mem hMem
  have hNodup : (s.issued.map Prod.fst).Nodup := hs.numbered.nodup List.nodup_range
  refine List.lookup_eq_some_iff.mpr ⟨before, after, hSplit, fun entry hEntry => ?_⟩
  rw [hSplit, List.map_append, List.map_cons] at hNodup
  have hDisjoint := (List.nodup_append.mp hNodup).2.2
  exact bne_iff_ne.mpr (hDisjoint _ (List.mem_map_of_mem hEntry) _ List.mem_cons_self).symm

theorem identifierOf?_fresh (hs : s.Accounted) : s.identifierOf? ⟨t, s.serials, o⟩ = none := by
  refine List.lookup_eq_none_iff.mpr fun entry hEntry => ?_
  exact bne_iff_ne.mpr (Nat.ne_of_gt (hs.serial_lt_of_issued hEntry))

theorem addHandle (hs : s.Accounted) (t : N.ObjectType) (identifier : String) (o : N.Payload t) :
    (s.addHandle t identifier o).Accounted where
  conserved := by
    have hSerials : (s.addHandle t identifier o).serials = s.serials + 1 := rfl
    have hDestroyed : (s.addHandle t identifier o).destroyed = s.destroyed := rfl
    rw [living_addHandle, hSerials, hDestroyed, List.range_succ, ← List.append_assoc]
    exact hs.conserved.append_right _
  numbered := by
    have hSerials : (s.addHandle t identifier o).serials = s.serials + 1 := rfl
    rw [issued_addHandle, hSerials, List.range_succ, List.map_append]
    exact hs.numbered.append (.refl _)
  ended u g hHandle hNone := by
    rw [handles_addHandle, List.mem_append, List.mem_singleton] at hHandle
    rcases hHandle with hOld | hNew
    · exact hs.ended u g hOld hNone
    · cases hNew
      cases hNone
  created := by
    rw [creations, lifecycle_addHandle, issued_addHandle, List.filterMap_append, List.map_append]
    exact congrArg (· ++ [identifier]) hs.created
  released := by
    have hDestroyed : (s.addHandle t identifier o).destroyed = s.destroyed := rfl
    rw [releases, lifecycle_addHandle, hDestroyed, List.filterMap_append, List.map_append]
    refine (List.append_nil _).trans (hs.released.trans (List.filterMap_congr fun d hd => ?_))
    -- what is destroyed already has an older number than the new handle
    have hOld : (d.serial == s.serials) = false :=
      beq_false_of_ne (Nat.ne_of_lt (hs.serial_lt_of_destroyed hd))
    rw [identifierOf?, identifierOf?, issued_addHandle, List.lookup_append, List.lookup_cons, hOld]
    cases s.issued.lookup d.serial <;> rfl

theorem dropObject (hs : s.Accounted) (t : N.ObjectType) (o : N.Payload t) :
    (s.dropObject t o).Accounted where
  conserved := by
    have hSerials : (s.dropObject t o).serials = s.serials + 1 := rfl
    have hLiving : (s.dropObject t o).living = s.living := rfl
    rw [hSerials, hLiving, destroyed_dropObject, List.map_append, List.range_succ, List.append_assoc]
    refine (List.Perm.append_left _ List.perm_append_comm).trans ?_
    rw [← List.append_assoc]
    exact hs.conserved.append_right _
  numbered := by
    have hSerials : (s.dropObject t o).serials = s.serials + 1 := rfl
    rw [hSerials, List.range_succ]
    exact hs.numbered.trans (List.sublist_append_left _ _)
  ended u g hHandle hNone := by
    obtain ⟨o, ho⟩ := hs.ended u g hHandle hNone
    exact ⟨o, List.mem_append_left _ ho⟩
  created := hs.created
  released := by
    have hSame : (s.dropObject t o).identifierOf? = s.identifierOf? := rfl
    rw [hSame, destroyed_dropObject, List.filterMap_append,
      List.filterMap_cons_none hs.identifierOf?_fresh]
    exact hs.released.trans (List.append_nil _).symm

theorem written (hs : s.Accounted) (hContent : s.contentOf block = some ⟨t, h⟩)
    (hObject : h.object = some o) (o' : N.Payload t) :
    (s.setHandle t block { h with object := some o' }).Accounted where
  conserved := by rw [living_written hContent hObject]; exact hs.conserved
  numbered := by rw [issued_setHandle hContent]; exact hs.numbered
  ended u g hHandle hNone := by
    obtain ⟨before, after, hBefore, hAfter⟩ :=
      handles_setHandle hContent { h with object := some o' }
    rw [hAfter, List.mem_append, List.mem_cons] at hHandle
    refine hs.ended u g ?_ hNone
    rw [hBefore, List.mem_append, List.mem_cons]
    rcases hHandle with hFirst | hSelf | hLater
    · exact .inl hFirst
    · cases hSelf
      cases hNone
    · exact .inr (.inr hLater)
  created := by rw [issued_setHandle hContent]; exact hs.created
  released := by rw [identifierOf?_congr (issued_setHandle hContent _)]; exact hs.released

theorem endObject (hs : s.Accounted) (hContent : s.contentOf block = some ⟨t, h⟩)
    (hObject : h.object = some o) (early : Bool) : (s.endObject t block h o early).Accounted where
  conserved := by
    have hSerials : (s.endObject t block h o early).serials = s.serials := rfl
    rw [hSerials, destroyed_endObject, List.map_append, List.append_assoc]
    refine .trans ?_ hs.conserved
    exact .append_left _ (living_endObject hContent hObject early).symm
  numbered := by rw [issued_endObject hContent]; exact hs.numbered
  ended u g hHandle hNone := by
    obtain ⟨before, after, hBefore, hAfter⟩ := handles_setHandle hContent { h with object := none }
    have hHandle : ⟨u, g⟩ ∈ before ++ ⟨t, { h with object := none }⟩ :: after := hAfter ▸ hHandle
    have hOld (hOld : ⟨u, g⟩ ∈ s.handles) :
        ∃ o', ⟨u, g.serial, o'⟩ ∈ (s.endObject t block h o early).destroyed := by
      obtain ⟨o', ho'⟩ := hs.ended u g hOld hNone
      exact ⟨o', List.mem_append_left _ ho'⟩
    rw [hBefore, List.mem_append, List.mem_cons] at hOld
    rcases List.mem_append.mp hHandle with hFirst | hRest
    · exact hOld (.inl hFirst)
    · rcases List.mem_cons.mp hRest with hSelf | hLater
      · cases hSelf
        exact ⟨o, List.mem_append_right _ List.mem_cons_self⟩
      · exact hOld (.inr (.inr hLater))
  created := by
    rw [issued_endObject hContent, creations, lifecycle_endObject, List.filterMap_append]
    exact (List.append_nil _).trans hs.created
  released := by
    have hIdentifier : s.identifierOf? ⟨t, h.serial, o⟩ = some h.identifier :=
      hs.identifierOf?_handle (mem_handles_iff.mpr ⟨block, hContent⟩)
    rw [identifierOf?_congr (issued_endObject hContent early), releases, lifecycle_endObject,
      destroyed_endObject, List.filterMap_append, List.map_append, List.filterMap_append,
      List.filterMap_cons_some hIdentifier]
    exact congrArg (· ++ [h.identifier]) hs.released

/-- The books stay balanced whatever happens to objects. -/
theorem law (forging : Bool) :
    ObjectLaw (N := N) forging fun s s' => s.Accounted → s'.Accounted where
  trans h h' hs := h' (h hs)
  aside h _ hs := hs.congr (handles_congr h.blocks) h.serials h.destroyed h.lifecycle
  typed h _ hs := hs.congr (handles_congr h.blocks) h.serials h.destroyed h.lifecycle
  created _ o hs := hs.addHandle _ _ o
  dropped _ o hs := hs.dropObject _ o
  foreign s stamp _ hs := hs.congr (s.handles_addForeign stamp) rfl rfl rfl
  restamped s block stamp _ hs := hs.congr (s.handles_setStamp block stamp) rfl rfl rfl
  written hContent hObject o' hs := hs.written hContent hObject o'
  ended hContent hObject early hs := hs.endObject hContent hObject early

end State.Accounted

end ScriptBridge
