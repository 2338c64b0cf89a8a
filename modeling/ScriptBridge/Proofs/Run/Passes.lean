import ScriptBridge.Host.Run

/-!
# The way of a computation

`Passes m s marks s'` says that `m`, begun at `s`, comes by `s'`, and that `marks` are the marks of
the steps up to there; `trace` are the marks of the whole way. What holds of a sequence of two
computations follows from what holds of each, since the second begins at the last state of the
first.
-/
namespace ScriptBridge.Run
set_option autoImplicit false

variable {N : Natives} {α β : Type}

@[simp] theorem run_pure (a : α) (s : State N) : (pure a : Run N α).run s = (a, s) := rfl

@[simp] theorem run_done (a : α) (s : State N) : (done a).run s = (a, s) := rfl

@[simp] theorem run_bind (m : Run N α) (f : α → Run N β) (s : State N) :
    (m >>= f).run s = (f (m.run s).1).run (m.run s).2 := by
  induction m generalizing s with
  | done a => rfl
  | step mark change next ih => exact ih s (change s)

@[simp] theorem run_look (f : State N → Run N α) (s : State N) :
    (look f).run s = (f s).run s := rfl

@[simp] theorem run_atomic (f : State N → α × State N) (s : State N) : (atomic f).run s = f s := rfl

@[simp] theorem run_announce (mark : Mark N) (f : State N → State N) (s : State N) :
    (announce mark f).run s = ((), f s) := rfl

@[simp] theorem run_read (f : State N → α) (s : State N) : (read f).run s = (f s, s) := rfl

@[simp] theorem run_modify (f : State N → State N) (s : State N) :
    (modify f).run s = ((), f s) := rfl

def trace : Run N α → State N → List (Mark N)
  | done _, _ => []
  | step mark change next, s => mark.toList ++ (next s).trace (change s)

@[simp] theorem trace_pure (a : α) (s : State N) : (pure a : Run N α).trace s = [] := rfl

@[simp] theorem trace_bind (m : Run N α) (f : α → Run N β) (s : State N) :
    (m >>= f).trace s = m.trace s ++ (f (m.run s).1).trace (m.run s).2 := by
  induction m generalizing s with
  | done a => rfl
  | step mark change next ih =>
    change mark.toList ++ (next s >>= f).trace (change s) = _
    rw [ih s (change s), trace, List.append_assoc]
    rfl

@[simp] theorem trace_look (f : State N → Run N α) (s : State N) :
    (look f).trace s = (f s).trace s := rfl

@[simp] theorem trace_atomic (f : State N → α × State N) (s : State N) :
    (atomic f).trace s = [] := rfl

@[simp] theorem trace_announce (mark : Mark N) (f : State N → State N) (s : State N) :
    (announce mark f).trace s = [mark] := rfl

@[simp] theorem trace_read (f : State N → α) (s : State N) : (read f).trace s = [] := rfl

@[simp] theorem trace_modify (f : State N → State N) (s : State N) : (modify f).trace s = [] := rfl

inductive Passes : Run N α → State N → List (Mark N) → State N → Prop where
  | here (m : Run N α) (s : State N) : Passes m s [] s
  | later {mark : Option (Mark N)} {change : State N → State N} {next : State N → Run N α}
      {s s' : State N} {marks : List (Mark N)} (h : Passes (next s) (change s) marks s') :
      Passes (step mark change next) s (mark.toList ++ marks) s'

variable {s s' : State N} {marks : List (Mark N)}

theorem passes_pure_iff {a : α} :
    (pure a : Run N α).Passes s marks s' ↔ marks = [] ∧ s' = s := by
  constructor
  · intro h
    cases h
    exact ⟨rfl, rfl⟩
  · rintro ⟨rfl, rfl⟩
    exact .here _ _

theorem passes_step_iff {mark : Option (Mark N)} {change : State N → State N}
    {next : State N → Run N α} :
    (step mark change next).Passes s marks s' ↔
      (marks = [] ∧ s' = s) ∨
      ∃ rest, marks = mark.toList ++ rest ∧ (next s).Passes (change s) rest s' := by
  constructor
  · intro h
    cases h with
    | here => exact .inl ⟨rfl, rfl⟩
    | later h => exact .inr ⟨_, rfl, h⟩
  · rintro (⟨rfl, rfl⟩ | ⟨rest, rfl, h⟩)
    · exact .here _ _
    · exact .later h

/-- A computation comes by its last state, with all of its marks. -/
theorem passes_last (m : Run N α) (s : State N) : m.Passes s (m.trace s) (m.run s).2 := by
  induction m generalizing s with
  | done a => exact .here _ _
  | step mark change next ih => exact .later (ih s (change s))

theorem passes_bind_iff {m : Run N α} {f : α → Run N β} :
    (m >>= f).Passes s marks s' ↔
      m.Passes s marks s' ∨
      ∃ rest, marks = m.trace s ++ rest ∧ (f (m.run s).1).Passes (m.run s).2 rest s' := by
  induction m generalizing s marks with
  | done a =>
    constructor
    · intro h
      exact .inr ⟨marks, rfl, h⟩
    · rintro (h | ⟨rest, rfl, h⟩)
      · obtain ⟨rfl, rfl⟩ := passes_pure_iff.mp h
        exact .here _ _
      · exact h
  | step mark change next ih =>
    change (step mark change fun s => next s >>= f).Passes s marks s' ↔ _
    rw [passes_step_iff, passes_step_iff]
    constructor
    · rintro (h | ⟨rest, rfl, h⟩)
      · exact .inl (.inl h)
      · rcases (ih s).mp h with hm | ⟨tail, rfl, hf⟩
        · exact .inl (.inr ⟨rest, rfl, hm⟩)
        · exact .inr ⟨tail, (List.append_assoc ..).symm, hf⟩
    · rintro ((h | ⟨rest, rfl, h⟩) | ⟨rest, rfl, h⟩)
      · exact .inl h
      · exact .inr ⟨rest, rfl, (ih s).mpr (.inl h)⟩
      · exact .inr ⟨_, List.append_assoc .., (ih s).mpr (.inr ⟨rest, rfl, h⟩)⟩

theorem passes_map_iff {m : Run N α} {g : α → β} :
    (do return g (← m)).Passes s marks s' ↔ m.Passes s marks s' := by
  rw [passes_bind_iff]
  constructor
  · rintro (h | ⟨rest, rfl, h⟩)
    · exact h
    · obtain ⟨rfl, rfl⟩ := passes_pure_iff.mp h
      rw [List.append_nil]
      exact passes_last m s
  · exact .inl

theorem passes_look_iff {f : State N → Run N α} :
    (look f).Passes s marks s' ↔ (f s).Passes s marks s' := by
  rw [look, passes_step_iff]
  constructor
  · rintro (⟨rfl, rfl⟩ | ⟨rest, rfl, h⟩)
    · exact .here _ _
    · exact h
  · intro h
    exact .inr ⟨marks, rfl, h⟩

theorem passes_atomic_iff {f : State N → α × State N} :
    (atomic f).Passes s marks s' ↔ marks = [] ∧ (s' = s ∨ s' = (f s).2) := by
  rw [atomic, passes_step_iff]
  constructor
  · rintro (⟨rfl, rfl⟩ | ⟨rest, rfl, h⟩)
    · exact ⟨rfl, .inl rfl⟩
    · obtain ⟨rfl, rfl⟩ := passes_pure_iff.mp h
      exact ⟨rfl, .inr rfl⟩
  · rintro ⟨rfl, rfl | rfl⟩
    · exact .inl ⟨rfl, rfl⟩
    · exact .inr ⟨[], rfl, .here _ _⟩

theorem passes_announce_iff {mark : Mark N} {f : State N → State N} :
    (announce mark f).Passes s marks s' ↔
      (marks = [] ∧ s' = s) ∨ (marks = [mark] ∧ s' = f s) := by
  rw [announce, passes_step_iff]
  constructor
  · rintro (h | ⟨rest, rfl, h⟩)
    · exact .inl h
    · obtain ⟨rfl, rfl⟩ := passes_pure_iff.mp h
      exact .inr ⟨rfl, rfl⟩
  · rintro (h | ⟨rfl, rfl⟩)
    · exact .inl h
    · exact .inr ⟨[], rfl, .here _ _⟩

end ScriptBridge.Run
