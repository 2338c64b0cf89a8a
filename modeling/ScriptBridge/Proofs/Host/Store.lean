import ScriptBridge.Proofs.Host.History
import ScriptBridge.Proofs.Host.Refusal
import ScriptBridge.Proofs.Script.Route

/-!
# Globals and namespaces as a store

What registering callables and setting globals installs, in a journal with the newest entry first. A
global is worth what was installed under its name last, and a name in a namespace what was installed
under it last since the table of the namespace was made. Namespaces and other globals share their
names, so either may take the place of the other.
-/
namespace ScriptBridge
set_option autoImplicit false

variable {N : Natives}

inductive Slot where
  | global (name : String)
  | member (space name : String)
  deriving DecidableEq, Repr

inductive Installed (N : Natives) where
  | value (v : Value)
  /-- The table of a namespace, when it is made. -/
  | space (id : Nat)
  | function (id : Nat) (e : EntryPoint N)

/-- What scripts find where it is installed. -/
def Installed.shown : Installed N → Value
  | value v => v
  | space id => .table id
  | function id _ => .function id

abbrev Journal (N : Natives) := List (Slot × Installed N)

namespace Journal

variable {j : Journal N} {slot other : Slot} {name : String} {x : Installed N}

def shown? (j : Journal N) (slot : Slot) : Option Value := (j.lookup slot).map Installed.shown

/-- The entries since a global was last written. -/
def since (j : Journal N) (name : String) : Journal N := j.takeWhile fun i => i.1 ≠ .global name

theorem shown?_cons_self : shown? ((slot, x) :: j) slot = some x.shown := by
  rw [shown?, List.lookup_cons_self, Option.map_some]

theorem shown?_cons_of_ne (h : other ≠ slot) : shown? ((slot, x) :: j) other = shown? j other := by
  rw [shown?, List.lookup_cons, beq_false_of_ne h, shown?]

theorem since_cons_self : since ((.global name, x) :: j) name = [] :=
  List.takeWhile_cons_of_neg (by simp)

theorem since_cons_of_ne (h : slot ≠ .global name) :
    since ((slot, x) :: j) name = (slot, x) :: since j name :=
  List.takeWhile_cons_of_pos (by simp [h])

end Journal

namespace State

variable {s s' : State N} {name other : String} {id k : Nat} {v : Value} {t : Names Value}

/-- The state after a table was made. -/
def withTable (s : State N) : State N := { s with tables := s.tables ++ [[]] }

def enter (s : State N) (id : Nat) (name : String) (v : Value) : State N :=
  s.setTable id ((s.table id).put name v)

theorem global_setGlobal_self : (s.setGlobal name v).global name = v := by
  change ((s.globals.put name v).get? name).getD .nil = v
  rw [Names.get?_put_self, Option.getD_some]

theorem global_setGlobal_of_ne (h : other ≠ name) :
    (s.setGlobal name v).global other = s.global other := by
  change ((s.globals.put name v).get? other).getD .nil = _
  rw [Names.get?_put_of_ne _ _ h, global]

theorem tables_setGlobal (h : 0 < id) : (s.setGlobal name v).tables[id]? = s.tables[id]? := by
  obtain ⟨k, rfl⟩ := Nat.exists_eq_succ_of_ne_zero h.ne'
  change (s.tables.drop 1)[k]? = _
  rw [List.getElem?_drop, Nat.add_comm]

theorem length_tables_setGlobal (h : 0 < s.tables.length) :
    (s.setGlobal name v).tables.length = s.tables.length := by
  change (s.tables.drop 1).length + 1 = _
  rw [List.length_drop, Nat.sub_add_cancel h]

theorem global_of_prefix (hSome : 0 < s.tables.length) (h : s.tables <+: s'.tables) :
    s'.global name = s.global name := by
  obtain ⟨first, rest, hTables⟩ := List.exists_cons_of_length_pos hSome
  obtain ⟨more, hMore⟩ := h
  simp only [global, globals, ← hMore, hTables, List.cons_append, List.headD_cons]

theorem tables_of_prefix (hId : id < s.tables.length) (h : s.tables <+: s'.tables) :
    s'.tables[id]? = s.tables[id]? := by
  obtain ⟨more, hMore⟩ := h
  rw [← hMore, List.getElem?_append_left hId]

theorem global_setTable (h : 0 < id) : (s.setTable id t).global name = s.global name := by
  obtain ⟨k, rfl⟩ := Nat.exists_eq_succ_of_ne_zero h.ne'
  simp only [global, globals, setTable]
  cases s.tables <;> rfl

theorem tables_setTable_of_ne (h : k ≠ id) : (s.setTable id t).tables[k]? = s.tables[k]? :=
  List.getElem?_set_ne h.symm

theorem length_tables_enter : (s.enter id name v).tables.length = s.tables.length :=
  List.length_set

theorem table_setTable_self (h : id < s.tables.length) : (s.setTable id t).table id = t := by
  rw [table, setTable, List.getElem?_set_self h, Option.getD_some]

theorem table_congr (h : s'.tables[id]? = s.tables[id]?) : s'.table id = s.table id := by
  rw [table, h, table]

end State

/-- The table `id` of a namespace holds what has been installed since it was made. -/
structure HoldsSpace (fresh : State N) (j : Journal N) (s : State N) (space : String) (id : Nat) :
    Prop where
  le_id : fresh.tables.length ≤ id
  id_lt : id < s.tables.length
  made : j.lookup (.global space) = some (.space id)
  members : ∀ name, (s.table id).get? name = (j.since space).shown? (.member space name)

/-- A table that no namespace has and nothing is in. -/
structure Unused (fresh s : State N) (id : Nat) : Prop where
  le_id : fresh.tables.length ≤ id
  id_lt : id < s.tables.length
  empty : s.table id = []
  free : ∀ space, fresh.global space = .nil → s.global space ≠ .table id

/-- A state holds what the journal says, on top of what there was in a fresh runtime. -/
structure Holds (fresh : State N) (j : Journal N) (s : State N) : Prop where
  nonempty : 0 < fresh.tables.length
  length_le : fresh.tables.length ≤ s.tables.length
  globals : ∀ name, s.global name = (j.shown? (.global name)).getD (fresh.global name)
  spaces : ∀ space id, fresh.global space = .nil → s.global space = .table id →
    HoldsSpace fresh j s space id
  apart : ∀ space other id, fresh.global space = .nil → fresh.global other = .nil →
    s.global space = .table id → s.global other = .table id → space = other
  kept : ∀ id, 0 < id → id < fresh.tables.length → s.tables[id]? = fresh.tables[id]?
  functions : ∀ slot id e, (slot, .function id e) ∈ j → s.functions[id]? = some (.entry e)

section Steps

variable {fresh s s' : State N} {j : Journal N} {slot : Slot} {name space : String}
  {x : Installed N} {id : Nat} {e : EntryPoint N}

/-- What is installed elsewhere is no matter to a namespace. -/
theorem HoldsSpace.cons (h : HoldsSpace fresh j s space id) (hGlobal : slot ≠ .global space)
    (hMember : ∀ key, slot ≠ .member space key) (hLt : id < s'.tables.length)
    (hTable : s'.tables[id]? = s.tables[id]?) : HoldsSpace fresh ((slot, x) :: j) s' space id where
  le_id := h.le_id
  id_lt := hLt
  made := by rw [List.lookup_cons, beq_false_of_ne hGlobal.symm, h.made]
  members key := by
    rw [State.table_congr hTable, Journal.since_cons_of_ne hGlobal,
      Journal.shown?_cons_of_ne (hMember key).symm, h.members]

theorem HoldsSpace.of_unused (h : Unused fresh s id) (hId : 0 < id) :
    HoldsSpace fresh ((.global space, .space id) :: j) (s.setGlobal space (.table id))
      space id where
  le_id := h.le_id
  id_lt := by
    rw [State.length_tables_setGlobal (Nat.zero_lt_of_lt h.id_lt)]
    exact h.id_lt
  made := List.lookup_cons_self
  members key := by
    rw [State.table_congr (State.tables_setGlobal hId), h.empty, Journal.since_cons_self]
    rfl

theorem HoldsSpace.enter (h : HoldsSpace fresh j s space id) :
    HoldsSpace fresh ((.member space name, x) :: j) (s.enter id name x.shown) space id where
  le_id := h.le_id
  id_lt := State.length_tables_enter.symm ▸ h.id_lt
  made := h.made
  members key := by
    rw [State.enter, State.table_setTable_self h.id_lt, Journal.since_cons_of_ne (by simp)]
    by_cases hSame : key = name
    · subst hSame
      rw [Names.get?_put_self, Journal.shown?_cons_self]
    · rw [Names.get?_put_of_ne _ _ hSame, Journal.shown?_cons_of_ne (by simpa using hSame),
        h.members]

namespace Holds

theorem start (h : 0 < s.tables.length) : Holds s [] s where
  nonempty := h
  length_le := Nat.le_refl _
  globals _ := rfl
  spaces _ _ hNew hTable := nomatch hNew.symm.trans hTable
  apart _ _ _ hNew _ hTable := nomatch hNew.symm.trans hTable
  kept _ _ _ := rfl
  functions _ _ _ h := nomatch h

theorem some_table (h : Holds fresh j s) : 0 < s.tables.length := h.nonempty.trans_le h.length_le

theorem cons_functions (h : Holds fresh j s)
    (hFunction : ∀ id e, x = .function id e → s.functions[id]? = some (.entry e)) :
    ∀ slot' id e, (slot', .function id e) ∈ (slot, x) :: j →
      s.functions[id]? = some (.entry e) := by
  intro slot' id e hMem
  rcases List.mem_cons.mp hMem with hFirst | hLater
  · exact hFunction id e (congrArg Prod.snd hFirst).symm
  · exact h.functions slot' id e hLater

/-- New tables and functions are no matter until they are installed. -/
theorem grow (h : Holds fresh j s) (hTables : s.tables <+: s'.tables)
    (hFunctions : s.functions <+: s'.functions) : Holds fresh j s' := by
  have hGlobal (name : String) : s'.global name = s.global name :=
    State.global_of_prefix h.some_table hTables
  constructor
  case nonempty => exact h.nonempty
  case length_le => exact h.length_le.trans hTables.length_le
  case globals =>
    intro name
    rw [hGlobal, h.globals]
  case spaces =>
    intro space id hNew hSpace
    rw [hGlobal] at hSpace
    have hHeld := h.spaces space id hNew hSpace
    refine ⟨hHeld.le_id, hHeld.id_lt.trans_le hTables.length_le, hHeld.made, fun name => ?_⟩
    rw [State.table_congr (State.tables_of_prefix hHeld.id_lt hTables), hHeld.members]
  case apart =>
    intro space other id hNew hOtherNew hSpace hOther
    rw [hGlobal] at hSpace hOther
    exact h.apart space other id hNew hOtherNew hSpace hOther
  case kept =>
    intro id hPos hLt
    rw [State.tables_of_prefix (hLt.trans_le h.length_le) hTables, h.kept id hPos hLt]
  case functions =>
    intro slot id e hMem
    obtain ⟨later, hLater⟩ := hFunctions
    have hBound := h.functions slot id e hMem
    rw [← hLater, List.getElem?_append_left (List.getElem?_eq_some_iff.mp hBound).1, hBound]

/-- Writing a global. A table that was there is left to itself; one that comes there is new. -/
theorem setGlobal (h : Holds fresh j s) (hNew : fresh.global name = .nil)
    (hTable : ∀ id, x.shown = .table id → x = .space id ∧ Unused fresh s id)
    (hFunction : ∀ id e, x = .function id e → s.functions[id]? = some (.entry e)) :
    Holds fresh ((.global name, x) :: j) (s.setGlobal name x.shown) := by
  have hLength : (s.setGlobal name x.shown).tables.length = s.tables.length :=
    State.length_tables_setGlobal h.some_table
  constructor
  case nonempty => exact h.nonempty
  case length_le => exact hLength.symm ▸ h.length_le
  case globals =>
    intro other
    by_cases hSame : other = name
    · subst hSame
      rw [State.global_setGlobal_self, Journal.shown?_cons_self, Option.getD_some]
    · rw [State.global_setGlobal_of_ne hSame, Journal.shown?_cons_of_ne (by simpa using hSame),
        h.globals]
  case spaces =>
    intro space id hSpaceNew hSpace
    by_cases hSame : space = name
    · subst hSame
      rw [State.global_setGlobal_self] at hSpace
      obtain ⟨rfl, hUnused⟩ := hTable id hSpace
      exact .of_unused hUnused (h.nonempty.trans_le hUnused.le_id)
    · rw [State.global_setGlobal_of_ne hSame] at hSpace
      have hHeld := h.spaces space id hSpaceNew hSpace
      exact hHeld.cons (by simpa using Ne.symm hSame) (by simp) (hLength.symm ▸ hHeld.id_lt)
        (State.tables_setGlobal (h.nonempty.trans_le hHeld.le_id))
  case apart =>
    intro space other id hSpaceNew hOtherNew hSpace hOther
    -- the written global may hold a table now, but one that no other namespace had
    by_cases hSame : space = name <;> by_cases hOtherSame : other = name
    · rw [hSame, hOtherSame]
    · rw [hSame, State.global_setGlobal_self] at hSpace
      rw [State.global_setGlobal_of_ne hOtherSame] at hOther
      exact absurd hOther ((hTable id hSpace).2.free other hOtherNew)
    · rw [State.global_setGlobal_of_ne hSame] at hSpace
      rw [hOtherSame, State.global_setGlobal_self] at hOther
      exact absurd hSpace ((hTable id hOther).2.free space hSpaceNew)
    · rw [State.global_setGlobal_of_ne hSame] at hSpace
      rw [State.global_setGlobal_of_ne hOtherSame] at hOther
      exact h.apart space other id hSpaceNew hOtherNew hSpace hOther
  case kept =>
    intro id hPos hLt
    rw [State.tables_setGlobal hPos, h.kept id hPos hLt]
  case functions => exact h.cons_functions hFunction

theorem enter (h : Holds fresh j s) (hNew : fresh.global space = .nil)
    (hSpace : s.global space = .table id)
    (hFunction : ∀ id e, x = .function id e → s.functions[id]? = some (.entry e)) :
    Holds fresh ((.member space name, x) :: j) (s.enter id name x.shown) := by
  have hHeld := h.spaces space id hNew hSpace
  have hGlobal (other : String) : (s.enter id name x.shown).global other = s.global other :=
    State.global_setTable (h.nonempty.trans_le hHeld.le_id)
  constructor
  case nonempty => exact h.nonempty
  case length_le => exact State.length_tables_enter.symm ▸ h.length_le
  case globals =>
    intro other
    rw [hGlobal, Journal.shown?_cons_of_ne (by simp), h.globals]
  case spaces =>
    intro other k hOtherNew hOther
    rw [hGlobal] at hOther
    by_cases hSame : other = space
    · subst hSame
      obtain rfl : id = k := Value.table.inj (hSpace.symm.trans hOther)
      exact hHeld.enter
    · have hOtherHeld := h.spaces other k hOtherNew hOther
      -- no two namespaces have one table, so what is entered in this one is not in that
      have hApart : k ≠ id := by
        rintro rfl
        exact hSame (h.apart other space k hOtherNew hNew hOther hSpace)
      have hSlot (key : String) : Slot.member space name ≠ .member other key :=
        fun he => hSame (Slot.member.inj he).1.symm
      exact hOtherHeld.cons (by simp) hSlot
        (State.length_tables_enter.symm ▸ hOtherHeld.id_lt) (State.tables_setTable_of_ne hApart)
  case apart =>
    intro other another k hOtherNew hAnotherNew hOther hAnother
    rw [hGlobal] at hOther hAnother
    exact h.apart other another k hOtherNew hAnotherNew hOther hAnother
  case kept =>
    intro k hPos hLt
    rw [State.enter, State.tables_setTable_of_ne (hLt.trans_le hHeld.le_id).ne, h.kept k hPos hLt]
  case functions => exact h.cons_functions hFunction

end Holds

end Steps

section Namespaces

variable {s s' : State N} {codec : CodecConfig} {space name : String} {c : Callable N} {id : Nat}

theorem run_namespaceTable_used (h : s.global space = .table id) :
    (namespaceTable space).run s = (.ok id, s) := by
  rw [namespaceTable, Run.run_atomic, h]

theorem run_namespaceTable_new (h : s.global space = .nil) :
    (namespaceTable space).run s =
      (.ok s.tables.length, s.withTable.setGlobal space (.table s.tables.length)) := by
  rw [namespaceTable, Run.run_atomic, h]
  rfl

theorem run_namespaceTable_occupied (hNil : s.global space ≠ .nil)
    (hTable : ∀ id, s.global space ≠ .table id) : (namespaceTable space).run s =
      (.error (.ofRuntime (.conversion (s.global space).typeName "table" none)), s) := by
  rw [namespaceTable, Run.run_atomic]
  split
  · rename_i id hSpace
    exact absurd hSpace (hTable id)
  · contradiction
  · rfl

theorem run_registerIn_of_space (hBindable : c.Bindable s)
    (hSpace : (namespaceTable space).run (s.withEntry ⟨name, c, codec⟩) = (.ok id, s')) :
    (registerIn codec space name c).run s =
      (.ok (), s'.enter id name (.function s.functions.length)) := by
  rw [registerIn, Run.run_bind, run_bind_bindable hBindable]
  simp only [Run.run_bind, hSpace]
  rfl

theorem ofRuntime_no_table (v : Value) :
    BridgeError.ofRuntime (.conversion v.typeName "table" none) =
      .runtime ("error converting Lua " ++ v.typeName ++ " to table") := by
  have hText : " to " ++ "table" = " to table" := rfl
  change BridgeError.runtime ("error converting Lua " ++ v.typeName ++ " to " ++ "table" ++ "") = _
  rw [String.append_empty, String.append_assoc, hText]

/-- What comes of binding a callable in a namespace. -/
inductive RegistersIn (s : State N) (codec : CodecConfig) (space name : String) (c : Callable N) :
    Prop where
  | unbound {e : BridgeError} (hBind : (Operation.bind codec name c).refusal? s = some e)
      (hRefused : (Operation.registerIn codec space name c).refusal? s = some e)
  | used {id : Nat} (hBind : (Operation.bind codec name c).refusal? s = none)
      (hSpace : s.global space = .table id)
      (hRun : (registerIn codec space name c).run s =
        (.ok (), (s.withEntry ⟨name, c, codec⟩).enter id name (.function s.functions.length)))
  | made (hBind : (Operation.bind codec name c).refusal? s = none) (hSpace : s.global space = .nil)
      (hRun : (registerIn codec space name c).run s =
        (.ok (), ((s.withEntry ⟨name, c, codec⟩).withTable.setGlobal space
          (.table s.tables.length)).enter s.tables.length name (.function s.functions.length)))
  | occupied (hBind : (Operation.bind codec name c).refusal? s = none)
      (hNil : s.global space ≠ .nil) (hTable : ∀ id, s.global space ≠ .table id)
      (hRefused : (Operation.registerIn codec space name c).refusal? s =
        some (.runtime ("error converting Lua " ++ (s.global space).typeName ++ " to table")))

theorem registersIn (s : State N) (codec : CodecConfig) (space name : String) (c : Callable N) :
    RegistersIn s codec space name c := by
  rcases c.bindable_or s with hBindable | ⟨t, hOwner, hNone⟩
  · have hBind : (Operation.bind codec name c).refusal? s = none := by
      rw [Operation.refusal?, Run.refusal?, run_bind_bindable hBindable]
    by_cases hNil : s.global space = .nil
    · exact .made hBind hNil (run_registerIn_of_space hBindable (run_namespaceTable_new hNil))
    by_cases hTable : ∃ id, s.global space = .table id
    · obtain ⟨id, hSpace⟩ := hTable
      exact .used hBind hSpace (run_registerIn_of_space hBindable (run_namespaceTable_used hSpace))
    · have hTable (id : Nat) : s.global space ≠ .table id := fun h => hTable ⟨id, h⟩
      refine .occupied hBind hNil hTable ?_
      have hOccupied := run_namespaceTable_occupied (s := s.withEntry ⟨name, c, codec⟩) hNil hTable
      rw [Operation.refusal?, Run.refusal?, registerIn, Run.run_bind, run_bind_bindable hBindable]
      simp only [Run.run_bind, hOccupied, ofRuntime_no_table]
      rfl
  · refine .unbound (e := (BridgeError.unregisteredType (N.typeName t)).inFunction name) ?_ ?_
    · rw [Operation.refusal?, Run.refusal?, run_bind_unregistered hOwner hNone]
    · rw [Operation.refusal?, Run.refusal?, Operation.run_registerIn_unregistered hOwner hNone]

theorem refusal?_registerIn_of_run (h : (registerIn codec space name c).run s = (.ok (), s')) :
    (Operation.registerIn codec space name c).refusal? s = none := by
  rw [Operation.refusal?, Run.refusal?, h]

theorem registerIn_accepted_iff : (Operation.registerIn codec space name c).refusal? s = none ↔
    (Operation.bind codec name c).refusal? s = none ∧
      (s.global space = .nil ∨ ∃ id, s.global space = .table id) := by
  cases registersIn s codec space name c with
  | unbound hBind hRefused => simp [hBind, hRefused]
  | used hBind hSpace hRun => simp [hBind, hSpace, refusal?_registerIn_of_run hRun]
  | made hBind hSpace hRun => simp [hBind, hSpace, refusal?_registerIn_of_run hRun]
  | occupied hBind hNil hTable hRefused => simp [hNil, hTable, hRefused]

theorem registerIn_unbound {e : BridgeError}
    (h : (Operation.bind codec name c).refusal? s = some e) :
    (Operation.registerIn codec space name c).refusal? s = some e := by
  cases registersIn s codec space name c with
  | unbound hBind hRefused => rw [hRefused, ← hBind, h]
  | _ hBind => cases h.symm.trans hBind

theorem registerIn_occupied (hBound : (Operation.bind codec name c).refusal? s = none)
    (hNil : s.global space ≠ .nil) (hTable : ∀ id, s.global space ≠ .table id) :
    (Operation.registerIn codec space name c).refusal? s =
      some (.runtime ("error converting Lua " ++ (s.global space).typeName ++ " to table")) := by
  cases registersIn s codec space name c with
  | unbound hBind => cases hBound.symm.trans hBind
  | used _ hSpace => exact absurd hSpace (hTable _)
  | made _ hSpace => exact absurd hSpace hNil
  | occupied _ _ _ hRefused => exact hRefused

end Namespaces

namespace Operation

/-- The global that an operation writes or finds its namespace in. -/
def global? : Operation N → Option String
  | register _ name _ | registerWithSignature _ name _ _ | setGlobal name _ _ => some name
  | registerIn _ space _ _ => some space
  | _ => none

/-- What an operation installs if it is not refused, the newest first. -/
def written (s : State N) : Operation N → Journal N
  | register codec name c | registerWithSignature codec name c _ =>
    [(.global name, .function s.functions.length ⟨name, c, codec⟩)]
  | registerIn codec space name c =>
    (.member space name, .function s.functions.length ⟨name, c, codec⟩) ::
      match s.global space with
      | .nil => [(.global space, .space s.tables.length)]
      | _ => []
  | setGlobal name t a =>
    match Codec.encode t a with
    | .ok v => [(.global name, .value v)]
    | .error _ => []
  | _ => []

def installs (s : State N) (op : Operation N) : Journal N :=
  match op.refusal? s with
  | some _ => []
  | none => op.written s

end Operation

theorem Codec.encode_ne_table {τ : Type} {t : NativeType τ} {a : t.Native} {v : Value}
    (h : encode t a = .ok v) (id : Nat) : v ≠ .table id := by
  rintro rfl
  induction t with
  | integer t =>
    rw [encode] at h
    split at h <;> cases h
  | option of ih =>
    cases a with
    | none => cases h
    | some a => exact ih h
  | _ => cases h

namespace Holds

variable {fresh s : State N} {j : Journal N} {op : Operation N} {name space : String}
  {codec : CodecConfig} {c : Callable N}

theorem withEntry (h : Holds fresh j s) (e : EntryPoint N) : Holds fresh j (s.withEntry e) :=
  h.grow List.prefix_rfl (List.prefix_append _ _)

theorem functions_withEntry {e e' : EntryPoint N} {id : Nat}
    (h : Installed.function s.functions.length e = .function id e') :
    (s.withEntry e).functions[id]? = some (.entry e') := by
  cases h
  exact List.getElem?_concat_length

theorem register (h : Holds fresh j s) (hNew : fresh.global name = .nil)
    (hAccepted : (Operation.register codec name c).refusal? s = none) :
    Holds fresh ((Operation.register codec name c).written s ++ j)
      ((ScriptBridge.register codec name c).run s).2 := by
  rcases c.bindable_or s with hBindable | ⟨t, hOwner, hNone⟩
  · rw [Operation.run_register_bindable hBindable]
    exact (h.withEntry ⟨name, c, codec⟩).setGlobal (x := .function _ _) hNew nofun
      fun _ _ => functions_withEntry
  · rw [Operation.refusal?, Run.refusal?, Operation.run_register_unregistered hOwner hNone]
      at hAccepted
    cases hAccepted

theorem unused_withTable (h : Holds fresh j s) : Unused fresh s.withTable s.tables.length where
  le_id := h.length_le
  id_lt := by simp [State.withTable]
  empty := by simp [State.withTable, State.table]
  free space hNew hSpace := by
    rw [State.global_of_prefix h.some_table (List.prefix_append _ _)] at hSpace
    exact absurd (h.spaces space _ hNew hSpace).id_lt (Nat.lt_irrefl _)

theorem registerIn (h : Holds fresh j s) (hNew : fresh.global space = .nil)
    (hAccepted : (Operation.registerIn codec space name c).refusal? s = none) :
    Holds fresh ((Operation.registerIn codec space name c).written s ++ j)
      ((ScriptBridge.registerIn codec space name c).run s).2 := by
  have hEntry := h.withEntry ⟨name, c, codec⟩
  cases registersIn s codec space name c with
  | unbound _ hRefused => cases hAccepted.symm.trans hRefused
  | occupied _ _ _ hRefused => cases hAccepted.symm.trans hRefused
  | used _ hSpace hRun =>
    rw [hRun, Operation.written, hSpace]
    exact hEntry.enter (x := .function _ _) hNew hSpace fun _ _ => functions_withEntry
  | made _ hSpace hRun =>
    rw [hRun, Operation.written, hSpace]
    have hTable : Holds fresh j (s.withEntry ⟨name, c, codec⟩).withTable :=
      hEntry.grow (List.prefix_append _ _) List.prefix_rfl
    have hMade := hTable.setGlobal (x := .space s.tables.length) hNew
      (fun id hId => by cases hId; exact ⟨rfl, hEntry.unused_withTable⟩) (by simp)
    exact hMade.enter (x := .function _ _) hNew State.global_setGlobal_self
      fun _ _ => functions_withEntry

theorem encoded (h : Holds fresh j s) {t : NativeType N.ObjectType} {a : t.Native}
    (hNew : fresh.global name = .nil)
    (hAccepted : (Operation.setGlobal name t a).refusal? s = none) :
    Holds fresh ((Operation.setGlobal name t a).written s ++ j)
      ((ScriptBridge.setGlobal name t a).run s).2 := by
  cases hEncode : Codec.encode t a with
  | error e =>
    rw [Operation.refusal?, Run.refusal?, ScriptBridge.setGlobal, hEncode] at hAccepted
    cases hAccepted
  | ok v =>
    rw [Operation.written, ScriptBridge.setGlobal, hEncode]
    exact h.setGlobal (x := .value v) hNew
      (fun id hId => absurd hId (Codec.encode_ne_table hEncode id)) (by simp)

theorem performed (h : Holds fresh j s) (hName : op.global? = some name)
    (hNew : fresh.global name = .nil) : Holds fresh (op.installs s ++ j) (op.perform.run s).2 := by
  rw [Operation.installs]
  cases hRefusal : op.refusal? s with
  | some err =>
    have hSame := (Operation.refused hRefusal).sameWiring
    exact h.grow (hSame.tables ▸ List.prefix_rfl) hSame.functions
  | none =>
    cases op with
    | register codec name c =>
      cases hName
      rw [Operation.perform, Run.forget_run]
      exact h.register hNew hRefusal
    | registerWithSignature codec name c requested =>
      cases hName
      by_cases hSignature : c.signature = requested
      · subst hSignature
        rw [Operation.refusal?, Operation.registerWithSignature_of_eq] at hRefusal
        rw [Operation.perform, Operation.registerWithSignature_of_eq, Run.forget_run]
        exact h.register hNew hRefusal
      · rw [Operation.refusal?, Run.refusal?,
          Operation.run_registerWithSignature_mismatched hSignature] at hRefusal
        cases hRefusal
    | registerIn codec space name c =>
      cases hName
      rw [Operation.perform, Run.forget_run]
      exact h.registerIn hNew hRefusal
    | setGlobal name t a =>
      cases hName
      rw [Operation.perform, Run.forget_run]
      exact h.encoded hNew hRefusal
    | _ => cases hName

end Holds

/-- What operations have installed one after the other. -/
def journal : List (Operation N) → State N → Journal N
  | [], _ => []
  | op :: rest, s => journal rest (op.perform.run s).2 ++ op.installs s

theorem Holds.performedAll {fresh s : State N} {j : Journal N} {ops : List (Operation N)}
    (h : Holds fresh j s)
    (hOps : ∀ op ∈ ops, ∃ name, op.global? = some name ∧ fresh.global name = .nil) :
    Holds fresh (journal ops s ++ j) ((performAll ops).run s).2 := by
  induction ops generalizing s j with
  | nil => exact h
  | cons op rest ih =>
    obtain ⟨name, hName, hNew⟩ := hOps op List.mem_cons_self
    have hRest := ih (h.performed hName hNew) fun op hOp => hOps op (List.mem_cons_of_mem _ hOp)
    rw [performAll, Run.run_bind, journal, List.append_assoc]
    exact hRest

theorem Holds.of_create {config : Config} {r : Registry N.ObjectType} {captured : N.Captured}
    {s : State N} (hs : Host.create config r captured = .ok s) : Holds s [] s := by
  obtain ⟨opened, names, limit, rfl⟩ := Host.opened_of_create hs
  exact .start (Nat.succ_pos _)

namespace Holds

variable {fresh s : State N} {j : Journal N}

theorem eval_global (h : Holds fresh j s) (depth : Nat) (name : String) :
    (Host.eval depth [] [.global name]).run s =
      (.ok [(j.shown? (.global name)).getD (fresh.global name)], s) := by
  rw [← h.globals]
  exact Host.run_eval_single (run_eval_global (callWith depth) s name)

theorem eval_member {space : String} {id : Nat} (h : Holds fresh j s)
    (hNew : fresh.global space = .nil) (hSpace : s.global space = .table id) (depth : Nat)
    (name : String) :
    (Host.eval depth [] [.index (.global space) (.constant (.ofText name))]).run s =
      (.ok [((j.since space).shown? (.member space name)).getD .nil], s) := by
  rw [← (h.spaces space id hNew hSpace).members, ← State.entry_ofText]
  exact Host.run_eval_single (run_eval_field (callWith depth) hSpace name)

end Holds

/-- After any sequence of operations that register callables and set globals, none of them under the
name of a global of the fresh runtime: reading a global gives what was installed there last, reading
a name in a namespace what was installed there since the table of the namespace was made, and all
else is as it was. A callable gets into a namespace if it can be bound and the namespace is a table
or is yet to be made. -/
theorem globals_and_namespaces_stored {config : Config} {r : Registry N.ObjectType}
    {captured : N.Captured} {s : State N} (hs : Host.create config r captured = .ok s)
    {ops : List (Operation N)}
    (hOps : ∀ op ∈ ops, ∃ name, op.global? = some name ∧ s.global name = .nil) :
    let j := journal ops s
    let s' := ((performAll ops).run s).2
    (∀ depth name, (Host.eval depth [] [.global name]).run s' =
      (.ok [(j.shown? (.global name)).getD (s.global name)], s')) ∧
    (∀ space id, s.global space = .nil → s'.global space = .table id →
      j.lookup (.global space) = some (.space id) ∧
      ∀ depth name,
        (Host.eval depth [] [.index (.global space) (.constant (.ofText name))]).run s' =
          (.ok [((j.since space).shown? (.member space name)).getD .nil], s')) ∧
    (∀ slot id e, (slot, .function id e) ∈ j → s'.functions[id]? = some (.entry e)) ∧
    (∀ id, 0 < id → id < s.tables.length → s'.table id = s.table id) ∧
    ∀ (u : State N) (codec : CodecConfig) (space name : String) (c : Callable N),
      let op : Operation N := .registerIn codec space name c
      let bound := (Operation.bind codec name c).refusal? u
      (op.refusal? u = none ↔
        bound = none ∧ (u.global space = .nil ∨ ∃ id, u.global space = .table id)) ∧
      (∀ e, bound = some e → op.refusal? u = some e) ∧
      (bound = none → u.global space ≠ .nil → (∀ id, u.global space ≠ .table id) →
        op.refusal? u = some
          (.runtime ("error converting Lua " ++ (u.global space).typeName ++ " to table"))) := by
  have hHolds := (Holds.of_create hs).performedAll hOps
  rw [List.append_nil] at hHolds
  refine ⟨hHolds.eval_global, fun space id hNew hSpace => ?_, hHolds.functions, ?_, ?_⟩
  · exact ⟨(hHolds.spaces space id hNew hSpace).made, hHolds.eval_member hNew hSpace⟩
  · intro id hPos hLt
    exact State.table_congr (hHolds.kept id hPos hLt)
  · intro u codec space name c
    exact ⟨registerIn_accepted_iff, fun _ => registerIn_unbound, registerIn_occupied⟩

namespace Sample

def freshHost : State sampleNatives :=
  (Host.fresh StandardLibrary.all {} ({} : Captured)).emit (.hostCreated [] none)

/-- The namespace is taken away by the third operation. -/
def geoOperations : List (Operation sampleNatives) :=
  [.registerIn {} "geo" "scale" scale, .registerIn {} "geo" "greet" greet,
    .setGlobal "geo" (.option .boolean) none, .registerIn {} "geo" "answer" answer,
    .registerIn {} "geo" "greet" greet]

end Sample

open Sample in
theorem globals_and_namespaces_stored_geo :
    let s := ((performAll geoOperations).run freshHost).2
    let member (name : String) : Expr Value := .index (.global "geo") (.constant (.ofText name))
    Host.create {} {} ({} : Captured) = .ok freshHost ∧
      (∀ op ∈ geoOperations, ∃ name, op.global? = some name ∧ freshHost.global name = .nil) ∧
      (Host.eval 0 [] [.global "geo"]).run s = (.ok [.table 10], s) ∧
      (Host.eval 0 [] [member "scale"]).run s = (.ok [.nil], s) ∧
      (Host.eval 0 [] [member "answer"]).run s = (.ok [.function 3], s) ∧
      (Host.eval 0 [] [member "greet"]).run s = (.ok [.function 4], s) := by
  intro s member
  have hs : Host.create {} {} ({} : Captured) = .ok freshHost := rfl
  have hOps : ∀ op ∈ geoOperations,
      ∃ name, op.global? = some name ∧ freshHost.global name = .nil := by
    intro op hOp
    refine ⟨"geo", ?_, rfl⟩
    simp only [geoOperations, List.mem_cons, List.not_mem_nil, or_false] at hOp
    rcases hOp with rfl | rfl | rfl | rfl | rfl <;> rfl
  obtain ⟨hGlobals, hSpaces, -⟩ := globals_and_namespaces_stored hs hOps
  obtain ⟨-, hMembers⟩ := hSpaces "geo" 10 rfl rfl
  exact ⟨hs, hOps, hGlobals 0 "geo", hMembers 0 "scale", hMembers 0 "answer", hMembers 0 "greet"⟩

end ScriptBridge
