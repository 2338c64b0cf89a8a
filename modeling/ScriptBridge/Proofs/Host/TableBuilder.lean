import Mathlib.Data.List.Induction
import ScriptBridge.Proofs.Host.Tables
import ScriptBridge.Sample.Callables

/-!
# Building method tables

Which entries make a method table, and which entry is at fault if they do not: the first one that
uses a name again or is a member of another type. An entry that is both is told for its name. What
is built holds the entries as they were given.
-/
namespace ScriptBridge
set_option autoImplicit false

variable {N : Natives}

namespace Names

universe u

variable {α : Type u} {names : Names α} {name : String} {a : α}

theorem get?_eq_some_iff (h : (names.map Prod.fst).Nodup) :
    names.get? name = some a ↔ (name, a) ∈ names := by
  refine ⟨mem_of_get?, fun hMem => ?_⟩
  induction names with
  | nil => cases hMem
  | cons entry rest ih =>
    obtain ⟨hNew, hRest⟩ := List.nodup_cons.mp h
    rw [get?]
    rcases List.mem_cons.mp hMem with rfl | hLater
    · exact if_pos rfl
    · have hOther : entry.1 ≠ name := fun he => hNew (he ▸ List.mem_map_of_mem hLater)
      rw [if_neg hOther]
      exact ih hRest hLater

end Names

namespace MethodTable

variable {owner : N.ObjectType} {before between rest entries : List (String × Callable N)}
  {entry : String × Callable N} {name : String} {c : Callable N} {e : BridgeError}

/-- The error of an entry that comes after the entries `before`. -/
inductive Fault (owner : N.ObjectType) (before : List (String × Callable N)) :
    String × Callable N → BridgeError → Prop where
  | repeated {name : String} {c : Callable N} (h : name ∈ before.map Prod.fst) :
      Fault owner before (name, c) { cause := .duplicateMethodName (N.typeName owner) name }
  | foreign {name : String} {c : Callable N} {t : N.ObjectType}
      (hNew : name ∉ before.map Prod.fst) (hMember : c.owner? = some t) (hForeign : t ≠ owner) :
      Fault owner before (name, c)
        ((BridgeError.foreignMember (N.typeName owner) name (N.typeName t)).inFunction name)

namespace WellFormed

theorem nil : WellFormed (N := N) ⟨owner, []⟩ := ⟨List.nodup_nil, fun _ h => nomatch h⟩

theorem of_append (h : WellFormed (N := N) ⟨owner, before ++ rest⟩) :
    WellFormed ⟨owner, before⟩ where
  nodup := by
    have hNames : ((before ++ rest).map Prod.fst).Nodup := h.nodup
    rw [List.map_append] at hNames
    exact (List.nodup_append.mp hNames).1
  members entry he := h.members entry (List.mem_append_left _ he)

theorem concat_iff : WellFormed (N := N) ⟨owner, before ++ [(name, c)]⟩ ↔
    WellFormed ⟨owner, before⟩ ∧ name ∉ before.map Prod.fst ∧
      ∀ t, c.owner? = some t → t = owner := by
  constructor
  · intro h
    have hNames : ((before ++ [(name, c)]).map Prod.fst).Nodup := h.nodup
    rw [List.map_append, List.nodup_append] at hNames
    refine ⟨h.of_append, fun hMem => ?_, h.members (name, c) (List.mem_concat_self)⟩
    exact hNames.2.2 name hMem name List.mem_cons_self rfl
  · rintro ⟨hBefore, hNew, hMember⟩
    constructor
    · change ((before ++ [(name, c)]).map Prod.fst).Nodup
      rw [List.map_append, List.nodup_append]
      refine ⟨hBefore.nodup, List.pairwise_singleton _ name, ?_⟩
      intro other hOther last hLast hSame
      obtain rfl := List.mem_singleton.mp hLast
      exact hNew (hSame ▸ hOther)
    · intro entry he
      rcases List.mem_append.mp he with hOld | hLast
      · exact hBefore.members entry hOld
      · obtain rfl := List.mem_singleton.mp hLast
        exact hMember

end WellFormed

/-- The names seen before an entry, the last one first. -/
def seenNames (before : List (String × Callable N)) : List String := (before.map Prod.fst).reverse

theorem mem_seenNames : name ∈ seenNames before ↔ name ∈ before.map Prod.fst := List.mem_reverse

theorem seenNames_concat : seenNames (before ++ [(name, c)]) = name :: seenNames before := by
  rw [seenNames, List.map_append, List.reverse_append]
  rfl

theorem faultAfter_fault (h : Fault owner before entry e) :
    faultAfter owner (seenNames before) (entry :: rest) = some e := by
  cases h with
  | repeated h => rw [faultAfter, if_pos (mem_seenNames.mpr h)]
  | foreign hNew hMember hForeign =>
    rw [faultAfter, if_neg (fun h => hNew (mem_seenNames.mp h)), hMember]
    simp [Option.filter, hForeign]

theorem faultAfter_sound (hNew : name ∉ before.map Prod.fst)
    (hMember : ∀ t, c.owner? = some t → t = owner) :
    faultAfter owner (seenNames before) ((name, c) :: rest) =
      faultAfter owner (seenNames (before ++ [(name, c)])) rest := by
  have hOwn : (c.owner?.filter fun t => t ≠ owner) = none :=
    Option.filter_eq_none_iff.mpr fun t ht => by simp [hMember t ht]
  rw [faultAfter, if_neg (fun h => hNew (mem_seenNames.mp h)), seenNames_concat]
  simp only [hOwn]

/-- Entries that are in order are passed over. -/
theorem faultAfter_append (h : WellFormed (N := N) ⟨owner, before ++ between⟩) :
    faultAfter owner (seenNames before) (between ++ rest) =
      faultAfter owner (seenNames (before ++ between)) rest := by
  induction between generalizing before with
  | nil => rw [List.nil_append, List.append_nil]
  | cons entry between ih =>
    obtain ⟨name, c⟩ := entry
    rw [List.append_cons] at h ⊢
    obtain ⟨-, hNew, hMember⟩ := WellFormed.concat_iff.mp h.of_append
    rw [List.cons_append, faultAfter_sound hNew hMember]
    exact ih h

theorem fault_or (owner : N.ObjectType) (before : List (String × Callable N))
    (entry : String × Callable N) :
    (entry.1 ∉ before.map Prod.fst ∧ ∀ t, entry.2.owner? = some t → t = owner) ∨
      ∃ e, Fault owner before entry e := by
  obtain ⟨name, c⟩ := entry
  by_cases hNew : name ∈ before.map Prod.fst
  · exact .inr ⟨_, .repeated hNew⟩
  · by_cases hForeign : ∃ t, c.owner? = some t ∧ t ≠ owner
    · obtain ⟨t, hMember, hForeign⟩ := hForeign
      exact .inr ⟨_, .foreign hNew hMember hForeign⟩
    · refine .inl ⟨hNew, fun t ht => ?_⟩
      by_contra hOther
      exact hForeign ⟨t, ht, hOther⟩

/-- Entries are in order, or some entry at fault comes first. -/
theorem wellFormed_or_fault (entries : List (String × Callable N)) :
    WellFormed ⟨owner, entries⟩ ∨ ∃ before entry after e, entries = before ++ entry :: after ∧
      WellFormed ⟨owner, before⟩ ∧ Fault owner before entry e := by
  -- from the end, since an entry at fault before the last one comes first
  induction entries using List.reverseRecOn with
  | nil => exact .inl .nil
  | append_singleton entries last ih =>
    rcases ih with hOrder | ⟨before, entry, after, e, rfl, hOrder, hFault⟩
    · rcases fault_or owner entries last with ⟨hNew, hMember⟩ | ⟨e, hFault⟩
      · exact .inl (WellFormed.concat_iff.mpr ⟨hOrder, hNew, hMember⟩)
      · exact .inr ⟨entries, last, [], e, rfl, hOrder, hFault⟩
    · refine .inr ⟨before, entry, after ++ [last], e, ?_, hOrder, hFault⟩
      rw [List.append_assoc, List.cons_append]

theorem faultAfter_of_wellFormed (h : WellFormed (N := N) ⟨owner, before⟩) :
    faultAfter owner [] (before ++ rest) = faultAfter owner (seenNames before) rest := by
  have hFromNil : WellFormed (N := N) ⟨owner, [] ++ before⟩ := h
  exact faultAfter_append hFromNil

theorem build_eq_ok (h : WellFormed (N := N) ⟨owner, entries⟩) :
    build owner entries = .ok ⟨owner, entries⟩ := by
  have hNone : faultAfter owner [] (entries ++ []) = none := faultAfter_of_wellFormed h
  rw [List.append_nil] at hNone
  rw [build, hNone]

theorem build_eq_error (hOrder : WellFormed (N := N) ⟨owner, before⟩)
    (h : Fault owner before entry e) : build owner (before ++ entry :: rest) = .error e := by
  rw [build, faultAfter_of_wellFormed hOrder, faultAfter_fault h]

end MethodTable

/-- A method table is built of entries with different names, whose members all belong to its type,
and holds them in their order, each to be found under its name. Of other entries the first at fault
is told. -/
theorem tables_built_of_wellFormed (owner : N.ObjectType) (entries : List (String × Callable N)) :
    ((∃ t, MethodTable.build owner entries = .ok t) ↔ (entries.map Prod.fst).Nodup ∧
      ∀ entry ∈ entries, ∀ t, entry.2.owner? = some t → t = owner) ∧
    (∀ t, MethodTable.build owner entries = .ok t →
      t.owner = owner ∧ t.entries = entries ∧ t.names = entries.map Prod.fst ∧
      t.size = entries.length ∧ (∀ name c, t.get? name = some c ↔ (name, c) ∈ entries) ∧
      ∀ name, t.get? name = none ↔ name ∉ entries.map Prod.fst) ∧
    ∀ e, MethodTable.build owner entries = .error e ↔
      ∃ before entry after, entries = before ++ entry :: after ∧
        MethodTable.WellFormed ⟨owner, before⟩ ∧ MethodTable.Fault owner before entry e := by
  have hBuilt (t) (h : MethodTable.build owner entries = .ok t) :
      t = ⟨owner, entries⟩ ∧ MethodTable.WellFormed ⟨owner, entries⟩ := by
    obtain ⟨rfl, hOrder⟩ := MethodTable.of_build h
    exact ⟨rfl, hOrder⟩
  refine ⟨⟨?_, ?_⟩, ?_, fun e => ⟨fun h => ?_, ?_⟩⟩
  · rintro ⟨t, h⟩
    obtain ⟨-, hOrder⟩ := hBuilt t h
    exact ⟨hOrder.nodup, hOrder.members⟩
  · rintro ⟨hNodup, hMembers⟩
    exact ⟨_, MethodTable.build_eq_ok ⟨hNodup, hMembers⟩⟩
  · intro t h
    obtain ⟨rfl, hOrder⟩ := hBuilt t h
    exact ⟨rfl, rfl, rfl, rfl, fun _ _ => Names.get?_eq_some_iff hOrder.nodup,
      fun _ => Names.get?_eq_none_iff⟩
  · rcases MethodTable.wellFormed_or_fault entries with
      hOrder | ⟨before, entry, after, first, rfl, hOrder, hFault⟩
    · rw [MethodTable.build_eq_ok hOrder] at h
      cases h
    · rw [MethodTable.build_eq_error hOrder hFault] at h
      obtain rfl := Except.error.inj h
      exact ⟨before, entry, after, rfl, hOrder, hFault⟩
  · rintro ⟨before, entry, after, rfl, hOrder, hFault⟩
    exact MethodTable.build_eq_error hOrder hFault

/-- The second `read` belongs to the sensors, and the last entry as well; the name is told. -/
theorem tables_built_of_wellFormed_repeated :
    MethodTable.build (N := sampleNatives) .account
        [("read", Sample.deposit), ("read", Sample.read), ("narrow", Sample.narrow)] =
      .error { cause := .duplicateMethodName (sampleNatives.typeName .account) "read" } := by
  have hOrder : MethodTable.WellFormed (N := sampleNatives)
      ⟨.account, [("read", Sample.deposit)]⟩ := by
    refine ⟨List.pairwise_singleton _ "read", fun entry he t ht => ?_⟩
    obtain rfl := List.mem_singleton.mp he
    cases ht
    rfl
  have hRepeated : MethodTable.Fault (N := sampleNatives) .account [("read", Sample.deposit)]
      ("read", Sample.read)
      { cause := .duplicateMethodName (sampleNatives.typeName .account) "read" } :=
    .repeated List.mem_cons_self
  exact ((tables_built_of_wellFormed _ _).2.2 _).mpr ⟨_, _, _, rfl, hOrder, hRepeated⟩

end ScriptBridge
