import Mathlib.Data.List.Chain
import ScriptBridge.Proofs.Run.Passes

/-!
# The states of a way

`path` lists the states that a computation comes by, one for each of its steps. It steps by a
relation if every state on the way, the first included, is in the relation to the next.
-/
namespace ScriptBridge.Run
set_option autoImplicit false

variable {N : Natives} {α β : Type}

def path : Run N α → State N → List (State N)
  | done _, _ => []
  | step _ change next, s => change s :: (next s).path (change s)

@[simp] theorem path_pure (a : α) (s : State N) : (pure a : Run N α).path s = [] := rfl

@[simp] theorem path_bind (m : Run N α) (f : α → Run N β) (s : State N) :
    (m >>= f).path s = m.path s ++ (f (m.run s).1).path (m.run s).2 := by
  induction m generalizing s with
  | done a => rfl
  | step mark change next ih => exact congrArg (change s :: ·) (ih s (change s))

@[simp] theorem path_look (f : State N → Run N α) (s : State N) :
    (look f).path s = s :: (f s).path s := rfl

@[simp] theorem path_atomic (f : State N → α × State N) (s : State N) :
    (atomic f).path s = [(f s).2] := rfl

@[simp] theorem path_announce (mark : Mark N) (f : State N → State N) (s : State N) :
    (announce mark f).path s = [f s] := rfl

@[simp] theorem path_modify (f : State N → State N) (s : State N) : (modify f).path s = [f s] := rfl

theorem mem_path_iff {m : Run N α} {s s' : State N} :
    s' ∈ s :: m.path s ↔ ∃ marks, m.Passes s marks s' := by
  induction m generalizing s with
  | done a =>
    constructor
    · intro h
      obtain rfl := List.mem_singleton.mp h
      exact ⟨[], .here _ _⟩
    · rintro ⟨marks, h⟩
      rw [(passes_pure_iff.mp h).2]
      exact List.mem_cons_self
  | step mark change next ih =>
    rw [List.mem_cons, path, ih s]
    constructor
    · rintro (rfl | ⟨marks, h⟩)
      · exact ⟨[], .here _ _⟩
      · exact ⟨_, .later h⟩
    · rintro ⟨marks, h⟩
      rcases passes_step_iff.mp h with ⟨-, rfl⟩ | ⟨rest, -, h⟩
      · exact .inl rfl
      · exact .inr ⟨rest, h⟩

theorem getLast?_path (m : Run N α) (s : State N) :
    (s :: m.path s).getLast? = some (m.run s).2 := by
  induction m generalizing s with
  | done a => rfl
  | step mark change next ih =>
    rw [path, List.getLast?_cons_cons]
    exact ih s (change s)

def Steps (R : State N → State N → Prop) (m : Run N α) (s : State N) : Prop :=
  (s :: m.path s).IsChain R

variable {R : State N → State N → Prop} {s : State N}

theorem steps_pure (a : α) : (pure a : Run N α).Steps R s := .singleton s

theorem steps_step_iff {mark : Option (Mark N)} {change : State N → State N}
    {next : State N → Run N α} :
    (step mark change next).Steps R s ↔ R s (change s) ∧ (next s).Steps R (change s) :=
  List.isChain_cons_cons

theorem steps_bind_iff {m : Run N α} {f : α → Run N β} :
    (m >>= f).Steps R s ↔ m.Steps R s ∧ (f (m.run s).1).Steps R (m.run s).2 := by
  induction m generalizing s with
  | done a => exact ⟨fun h => ⟨steps_pure a, h⟩, And.right⟩
  | step mark change next ih =>
    change (step mark change fun s => next s >>= f).Steps R s ↔ _
    rw [steps_step_iff, steps_step_iff, ih s, and_assoc]
    rfl

theorem steps_look_iff {f : State N → Run N α} : (look f).Steps R s ↔ R s s ∧ (f s).Steps R s :=
  steps_step_iff

theorem steps_atomic_iff {f : State N → α × State N} : (atomic f).Steps R s ↔ R s (f s).2 :=
  List.isChain_pair

theorem steps_announce_iff {mark : Mark N} {f : State N → State N} :
    (announce mark f).Steps R s ↔ R s (f s) :=
  List.isChain_pair

end ScriptBridge.Run
