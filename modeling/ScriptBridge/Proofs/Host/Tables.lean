import ScriptBridge.Proofs.Run.Passes
import ScriptBridge.Object.MethodTable

/-!
# What binding leaves behind

Binding a callable gives it the next number among the functions, unless it is a member of a type
without an identity. The entries of a method table that was built are bound all or none, since the
members among them all belong to the owner of the table.
-/
namespace ScriptBridge
set_option autoImplicit false

variable {N : Natives}

theorem Registry.isSome_identityOf? {τ : Type} [DecidableEq τ] {r : Registry τ} {t : τ}
    {identifier : String} (h : r.identifier? t = some identifier) :
    (r.identityOf? t).isSome = true := by
  obtain ⟨i, hi, -⟩ := Option.map_eq_some_iff.mp h
  exact Option.isSome_iff_exists.mpr ⟨i, hi⟩

/-- A member can be bound once its type has an identity; other callables can always. -/
def Callable.Bindable (c : Callable N) (s : State N) : Prop :=
  ∀ t, c.owner? = some t → (s.registry.identityOf? t).isSome = true

theorem Callable.bindable_or (c : Callable N) (s : State N) :
    c.Bindable s ∨ ∃ t, c.owner? = some t ∧ s.registry.identityOf? t = none := by
  cases hOwner : c.owner? with
  | none => exact .inl fun t ht => nomatch hOwner.symm.trans ht
  | some t =>
    cases hIdentity : s.registry.identityOf? t with
    | none => exact .inr ⟨t, rfl, hIdentity⟩
    | some i =>
      refine .inl fun u hu => ?_
      obtain rfl := Option.some.inj (hOwner.symm.trans hu)
      rw [hIdentity]
      rfl

namespace State

variable {s : State N}

def withEntry (s : State N) (e : EntryPoint N) : State N :=
  ({ s with
    functions := s.functions ++ [.entry e]
    counters.entryPoints := s.counters.entryPoints + 1 } : State N).emit
    (.bound e.name e.callable.shape e.callable.signature)

def withEntries (codec : CodecConfig) : List (String × Callable N) → State N → State N
  | [], s => s
  | (name, c) :: rest, s => withEntries codec rest (s.withEntry ⟨name, c, codec⟩)

/-- A table as it is published, for the handles of the type with the identifier. -/
def publish (s : State N) (identifier : String) (methods : Names Value) : State N :=
  { s with methods := s.methods.put identifier methods }

theorem functions_withEntries (codec : CodecConfig) (entries : List (String × Callable N)) :
    (s.withEntries codec entries).functions =
      s.functions ++ entries.map fun entry => .entry ⟨entry.1, entry.2, codec⟩ := by
  induction entries generalizing s with
  | nil => exact (List.append_nil _).symm
  | cons entry rest ih =>
    rw [withEntries, ih, List.map_cons]
    exact List.append_assoc _ [_] _

theorem registry_withEntries (codec : CodecConfig) (entries : List (String × Callable N)) :
    (s.withEntries codec entries).registry = s.registry := by
  induction entries generalizing s with
  | nil => rfl
  | cons entry rest ih => exact ih

theorem methods_withEntries (codec : CodecConfig) (entries : List (String × Callable N)) :
    (s.withEntries codec entries).methods = s.methods := by
  induction entries generalizing s with
  | nil => rfl
  | cons entry rest ih => exact ih

end State

section Bind

variable {s : State N} {c : Callable N}

theorem run_bind_bindable (h : c.Bindable s) (codec : CodecConfig) (name : String) :
    (bind codec name c).run s =
      (.ok (.function s.functions.length), s.withEntry ⟨name, c, codec⟩) := by
  have hOwner : (c.owner?.filter fun t => (s.registry.identityOf? t).isNone) = none := by
    refine Option.filter_eq_none_iff.mpr fun t ht => ?_
    have hSome := h t ht
    simp [Option.isSome_iff_ne_none.mp hSome]
  rw [bind, Run.run_atomic]
  simp only [hOwner]
  rfl

theorem run_bind_unregistered {t : N.ObjectType} (hOwner : c.owner? = some t)
    (hNone : s.registry.identityOf? t = none) (codec : CodecConfig) (name : String) :
    (bind codec name c).run s =
      (.error ((BridgeError.unregisteredType (N.typeName t)).inFunction name), s) := by
  have hOwner : (c.owner?.filter fun t => (s.registry.identityOf? t).isNone) = some t := by
    rw [hOwner]
    simp [Option.filter, hNone]
  rw [bind, Run.run_atomic]
  simp only [hOwner]

end Bind

namespace MethodTable

/-- What building a table checks. -/
structure WellFormed (t : MethodTable N) : Prop where
  nodup : t.names.Nodup
  members : ∀ entry ∈ t.entries, ∀ u, entry.2.owner? = some u → u = t.owner

theorem of_faultAfter {owner : N.ObjectType} {seen : List String}
    {entries : List (String × Callable N)} (h : faultAfter owner seen entries = none) :
    (∀ name ∈ seen, name ∉ entries.map Prod.fst) ∧ WellFormed ⟨owner, entries⟩ := by
  induction entries generalizing seen with
  | nil => exact ⟨fun _ _ => List.not_mem_nil, ⟨List.nodup_nil, fun _ he => nomatch he⟩⟩
  | cons entry rest ih =>
    obtain ⟨name, c⟩ := entry
    rw [faultAfter] at h
    split at h
    · cases h
    · rename_i hNew
      split at h
      · cases h
      · rename_i hMember
        obtain ⟨hSeen, hRest⟩ := ih h
        refine ⟨fun other hOther hMem => ?_, ⟨?_, fun e he u hu => ?_⟩⟩
        · rcases List.mem_cons.mp hMem with rfl | hLater
          · exact hNew hOther
          · exact hSeen other (List.mem_cons_of_mem _ hOther) hLater
        · exact List.nodup_cons.mpr ⟨hSeen name List.mem_cons_self, hRest.nodup⟩
        · rcases List.mem_cons.mp he with rfl | hLater
          · simpa using Option.filter_eq_none_iff.mp hMember u hu
          · exact hRest.members e hLater u hu

theorem of_build {owner : N.ObjectType} {entries : List (String × Callable N)} {t : MethodTable N}
    (h : build owner entries = .ok t) : t = ⟨owner, entries⟩ ∧ t.WellFormed := by
  unfold build at h
  split at h
  · cases h
  · rename_i hNone
    cases h
    exact ⟨rfl, (of_faultAfter hNone).2⟩

/-- The entries under consecutive numbers of functions. -/
def numbered (first : Nat) (methods : Names Value) : List (String × Callable N) → Names Value
  | [] => methods
  | (name, _) :: rest => numbered (first + 1) (methods.put name (.function first)) rest

section Lookup

variable {first : Nat} {methods : Names Value} {entries : List (String × Callable N)}
  {name : String} {c : Callable N}

theorem get?_numbered_of_not_mem (h : name ∉ entries.map Prod.fst) :
    (numbered first methods entries).get? name = methods.get? name := by
  induction entries generalizing first methods with
  | nil => rfl
  | cons entry rest ih =>
    rw [List.map_cons, List.mem_cons, not_or] at h
    rw [numbered, ih h.2, Names.get?_put_of_ne _ _ h.1]

theorem get?_numbered_of_mem {i : Nat} (hNodup : (entries.map Prod.fst).Nodup)
    (h : entries[i]? = some (name, c)) :
    (numbered first methods entries).get? name = some (.function (first + i)) := by
  induction entries generalizing first methods i with
  | nil => cases h
  | cons entry rest ih =>
    obtain ⟨hNot, hRest⟩ := List.nodup_cons.mp hNodup
    cases i with
    | zero =>
      cases h
      rw [numbered, get?_numbered_of_not_mem hNot, Names.get?_put_self]
      rfl
    | succ i =>
      rw [numbered, ih hRest h, Nat.add_assoc, Nat.add_comm 1]

end Lookup

section Attach

variable {s : State N} {t : MethodTable N} {codec : CodecConfig}

theorem run_bindEntries {entries : List (String × Callable N)}
    (h : ∀ entry ∈ entries, entry.2.Bindable s) (codec : CodecConfig) (methods : Names Value) :
    (bindEntries codec methods entries).run s =
      (.ok (numbered s.functions.length methods entries), s.withEntries codec entries) := by
  induction entries generalizing s methods with
  | nil => rfl
  | cons entry rest ih =>
    obtain ⟨name, c⟩ := entry
    have hRest (entry) (he : entry ∈ rest) : entry.2.Bindable (s.withEntry ⟨name, c, codec⟩) :=
      h entry (List.mem_cons_of_mem _ he)
    rw [bindEntries, Run.run_bind, run_bind_bindable (h _ List.mem_cons_self), numbered,
      State.withEntries]
    have hNext : (s.withEntry ⟨name, c, codec⟩).functions.length = s.functions.length + 1 :=
      List.length_append
    rw [← hNext]
    exact ih hRest _

theorem WellFormed.bindable (h : t.WellFormed)
    (hOwner : (s.registry.identityOf? t.owner).isSome = true) :
    ∀ entry ∈ t.entries, entry.2.Bindable s := by
  intro entry he u hu
  rw [h.members entry he u hu]
  exact hOwner

theorem run_attach_unregistered (h : s.registry.identifier? t.owner = none) :
    (t.attach codec).run s = (.error (.unregisteredType t.ownerName), s) := by
  rw [attach, Run.run_bind, Run.run_read, h]
  rfl

theorem run_attach_registered {identifier : String} (hTable : t.WellFormed)
    (h : s.registry.identifier? t.owner = some identifier) :
    (t.attach codec).run s =
      let methods := numbered s.functions.length [] t.entries
      (.ok methods, ((s.withEntries codec t.entries).publish identifier methods).emit
        (.methodsAttached identifier t.size)) := by
  rw [attach, Run.run_bind, Run.run_read, h]
  simp only [Run.run_bind, run_bindEntries (hTable.bindable (Registry.isSome_identityOf? h))]
  rfl

end Attach

end MethodTable

end ScriptBridge
