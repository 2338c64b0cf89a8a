/-!
# Named entries

Values under names, in the order the names were first used. Putting under a used name replaces the
value and leaves all else alone.
-/
namespace ScriptBridge

universe u

abbrev Names (α : Type u) := List (String × α)

namespace Names

variable {α : Type u}

def get? : Names α → String → Option α
  | [], _ => none
  | (n, a) :: rest, name => if n = name then some a else get? rest name

def put : Names α → String → α → Names α
  | [], name, a => [(name, a)]
  | (n, b) :: rest, name, a => if n = name then (n, a) :: rest else (n, b) :: put rest name a

theorem get?_put_self (names : Names α) (name : String) (a : α) :
    (names.put name a).get? name = some a := by
  induction names with
  | nil => simp [put, get?]
  | cons e rest ih =>
    obtain ⟨n, b⟩ := e
    by_cases h : n = name <;> simp [put, get?, h, ih]

theorem get?_put_of_ne (names : Names α) {name other : String} (a : α) (h : other ≠ name) :
    (names.put name a).get? other = names.get? other := by
  induction names with
  | nil => simp [put, get?, h.symm]
  | cons e rest ih =>
    obtain ⟨n, b⟩ := e
    by_cases hn : n = name
    · subst hn
      simp [put, get?, h.symm]
    · simp [put, get?, hn, ih]

theorem mem_of_get? {names : Names α} {name : String} {a : α} (h : names.get? name = some a) :
    (name, a) ∈ names := by
  induction names with
  | nil => cases h
  | cons entry rest ih =>
    obtain ⟨n, b⟩ := entry
    rw [get?] at h
    split at h
    · rename_i he
      cases h
      rw [he]
      exact List.mem_cons_self
    · exact List.mem_cons_of_mem _ (ih h)

theorem get?_eq_none_iff {names : Names α} {name : String} :
    names.get? name = none ↔ name ∉ names.map Prod.fst := by
  induction names with
  | nil => simp [get?]
  | cons entry rest ih =>
    obtain ⟨n, b⟩ := entry
    rw [get?, List.map_cons, List.mem_cons, not_or, ← ih]
    by_cases he : n = name
    · simp [he]
    · simp [he, Ne.symm he]

theorem get?_append_of_not_mem {names : Names α} {name : String} (rest : Names α)
    (h : name ∉ names.map Prod.fst) : (names ++ rest).get? name = rest.get? name := by
  induction names with
  | nil => rfl
  | cons entry names ih =>
    obtain ⟨hHere, hThere⟩ := not_or.mp (mt List.mem_cons.mpr h)
    rw [List.cons_append, get?, if_neg (Ne.symm hHere), ih hThere]

theorem put_append_of_not_mem {names : Names α} {name : String} (rest : Names α) (a : α)
    (h : name ∉ names.map Prod.fst) : (names ++ rest).put name a = names ++ rest.put name a := by
  induction names with
  | nil => rfl
  | cons entry names ih =>
    obtain ⟨hHere, hThere⟩ := not_or.mp (mt List.mem_cons.mpr h)
    rw [List.cons_append, put, if_neg (Ne.symm hHere), ih hThere, List.cons_append]

end Names

end ScriptBridge
