import ScriptBridge.Host.Invoke
import ScriptBridge.Proofs.Loans.Sheltered

/-!
# Bodies that leave a block alone

A native body that calls no script function and opens no loan of a block cannot tell whether the
block is lent. It ends with the same result and the same effects under any loans that are the same
for all other blocks.
-/
namespace ScriptBridge
set_option autoImplicit false

variable {N : Natives} {α β : Type}

def Caller.unused : Caller N := fun _ _ => pure (.ok [])

theorem Caller.unused_sheltered (f : Value) (vs : List Value) :
    Sheltered none (Caller.unused (N := N) f vs) := .done none _

/-- The body, run at a state, calls no script function and opens no loan of the block. -/
def Program.Avoids (block : Nat) : {α : Type} → Program N α → State N → Prop
  | _, done _, _ => True
  | _, captured next, s => (next s.captured).Avoids block s
  | _, capture c next, s => next.Avoids block { s with captured := c }
  | _, .call .., _ => False
  | _, shared t r inner next, s =>
    r.block ≠ block ∧
      (∀ o, s.objectFor t r.block false = .ok o →
        (inner o).Avoids block (s.lend r.block false)) ∧
      let last := (Access.shared t r.block fun o => (inner o).run Caller.unused).run s
      (next last.1).Avoids block last.2
  | _, exclusive t r inner next, s =>
    r.block ≠ block ∧
      (∀ o, s.objectFor t r.block true = .ok o →
        (inner o).Avoids block (s.lend r.block true)) ∧
      let last := (Access.exclusive t r.block fun o => (inner o).run Caller.unused).run s
      (next last.1).Avoids block last.2
  | _, release t r next, s =>
    r.block ≠ block ∧
      let last := (Access.release t r.block).run s
      (next last.1).Avoids block last.2

namespace State

def under (s : State N) (loans : List Loan) (counters : Counters) : State N :=
  { s with loans := loans, counters := counters }

/-- The loans are the same but for those of the block. -/
def SameBeside (block : Nat) (loans loans' : List Loan) : Prop :=
  ∀ l : Loan, l.block ≠ block → (l ∈ loans ↔ l ∈ loans')

namespace SameBeside

variable {block : Nat} {loans loans' : List Loan}

theorem refl (block : Nat) (loans : List Loan) : SameBeside block loans loans := fun _ _ => .rfl

theorem cons (h : SameBeside block loans loans') (l : Loan) :
    SameBeside block (l :: loans) (l :: loans') := by
  intro l' hne
  rw [List.mem_cons, List.mem_cons, h l' hne]

theorem lent (block : Nat) (exclusive : Bool) (loans : List Loan) :
    SameBeside block (⟨block, exclusive⟩ :: loans) loans := by
  intro l hne
  rw [List.mem_cons]
  exact ⟨fun h => h.resolve_left fun he => hne (congrArg Loan.block he), .inr⟩

end SameBeside

variable {s : State N} {block other : Nat} {loans : List Loan} {mode : Bool}

theorem mayLend_under (h : SameBeside block loans s.loans) (hne : other ≠ block)
    (counters : Counters) : (s.under loans counters).mayLend other mode = s.mayLend other mode := by
  have hLent : (s.under loans counters).isLent other = s.isLent other := by
    rw [Bool.eq_iff_iff, isLent_iff, isLent_iff]
    refine exists_congr fun l => and_congr_left fun hl => h l ?_
    rwa [hl]
  have hExclusive : (s.under loans counters).isLentExclusively other = s.isLentExclusively other := by
    rw [Bool.eq_iff_iff, isLentExclusively_iff, isLentExclusively_iff]
    refine exists_congr fun l => and_congr_left fun hl => h l ?_
    rwa [hl.1]
  rw [mayLend, mayLend, hLent, hExclusive]

theorem lendable_under (h : SameBeside block loans s.loans) (hne : other ≠ block)
    (counters : Counters) (t : N.ObjectType) :
    (s.under loans counters).lendable t other mode = s.lendable t other mode := by
  rw [lendable, lendable, mayLend_under h hne]
  rfl

end State

/-- Begun at the same state but for the loans and the counters, `m'` does what `m` does. -/
def Run.Matches (loans : List Loan) (counters : Counters) (m' m : Run N α) (s : State N) : Prop :=
  m'.run (s.under loans counters) = ((m.run s).1, (m.run s).2.under loans counters)

namespace Run.Matches

variable {block other : Nat} {loans : List Loan} {counters : Counters} {s : State N}
  {t : N.ObjectType} {mode : Bool}

theorem bind {m' m : Run N α} {f' f : α → Run N β} (hm : Matches loans counters m' m s)
    (hf : Matches loans counters (f' (m.run s).1) (f (m.run s).1) (m.run s).2) :
    Matches loans counters (m' >>= f') (m >>= f) s := by
  rw [Matches, run_bind, run_bind, hm]
  exact hf

/-- Under a loan of another block, the loans differ as they did before. -/
theorem lending {f' f : Handle N t → Run N (Except BridgeError α)}
    (hLoans : State.SameBeside block loans s.loans) (hne : other ≠ block)
    (hf : ∀ h, s.lendable t other mode = .ok h →
      Matches (⟨other, mode⟩ :: loans) counters (f' h) (f h) (s.lend other mode)) :
    Matches loans counters (Access.lending t other mode f') (Access.lending t other mode f) s := by
  have hSame : (s.under loans counters).lendable t other mode = s.lendable t other mode :=
    State.lendable_under hLoans hne counters t
  rw [Matches]
  cases hLend : s.lendable t other mode with
  | error e =>
    rw [hLend] at hSame
    rw [(Access.lending_refused hSame).1, (Access.lending_refused hLend).1]
  | ok h =>
    rw [hLend] at hSame
    have hInside : (f' h).run ((s.under loans counters).lend other mode) = _ := hf h hLend
    rw [Access.run_lending hSame, Access.run_lending hLend, hInside]
    rfl

theorem shared {f' f : N.Payload t → Run N α} (hLoans : State.SameBeside block loans s.loans)
    (hne : other ≠ block)
    (hf : ∀ o, s.objectFor t other false = .ok o →
      Matches (⟨other, false⟩ :: loans) counters (f' o) (f o) (s.lend other false)) :
    Matches loans counters (Access.shared t other f') (Access.shared t other f) s := by
  refine lending hLoans hne fun h hLend => ?_
  cases hObject : h.object with
  | none => rfl
  | some o => exact (hf o (State.objectFor_eq_ok_iff.mpr ⟨h, hLend, hObject⟩)).bind rfl

theorem exclusive {f' f : N.Payload t → Run N (α × N.Payload t)}
    (hLoans : State.SameBeside block loans s.loans) (hne : other ≠ block)
    (hf : ∀ o, s.objectFor t other true = .ok o →
      Matches (⟨other, true⟩ :: loans) counters (f' o) (f o) (s.lend other true)) :
    Matches loans counters (Access.exclusive t other f') (Access.exclusive t other f) s := by
  refine lending hLoans hne fun h hLend => ?_
  cases hObject : h.object with
  | none => rfl
  | some o => exact (hf o (State.objectFor_eq_ok_iff.mpr ⟨h, hLend, hObject⟩)).bind rfl

theorem release (hLoans : State.SameBeside block loans s.loans) (hne : other ≠ block) :
    Matches loans counters (Access.release t other) (Access.release t other) s := by
  refine lending hLoans hne fun h _ => ?_
  cases h.object <;> rfl

end Run.Matches

namespace Program.Avoids

variable {block : Nat} {loans : List Loan} {s : State N}

/-- A body that avoids a block does not depend on the loans of the block, nor on the counters, nor
on how script functions are called. -/
theorem run_matches {p : Program N α} (h : p.Avoids block s)
    (hLoans : State.SameBeside block loans s.loans) (call : Caller N) (counters : Counters) :
    Run.Matches loans counters (p.run call) (p.run Caller.unused) s := by
  -- what follows an access begins with the loans the access began with, since all code is sheltered
  induction p generalizing s loans with
  | done a => rfl
  | captured next ih => exact ih s.captured h hLoans
  | capture c next ih => exact .bind rfl (ih h hLoans)
  | call f args next ih => exact h.elim
  | shared t r inner next ihInner ihNext =>
    obtain ⟨hne, hInner, hNext⟩ := h
    have hAccess : Sheltered none (Access.shared t r.block fun o => (inner o).run Caller.unused) :=
      composable_sheltered.shared fun o =>
        composable_sheltered.program Caller.unused_sheltered (inner o)
    refine .bind (.shared hLoans hne fun o ho => ihInner o (hInner o ho) (hLoans.cons _)) ?_
    exact ihNext _ hNext (by rwa [hAccess.settles])
  | exclusive t r inner next ihInner ihNext =>
    obtain ⟨hne, hInner, hNext⟩ := h
    have hAccess :
        Sheltered none (Access.exclusive t r.block fun o => (inner o).run Caller.unused) :=
      composable_sheltered.exclusive fun o =>
        composable_sheltered.program Caller.unused_sheltered (inner o)
    refine .bind (.exclusive hLoans hne fun o ho => ihInner o (hInner o ho) (hLoans.cons _)) ?_
    exact ihNext _ hNext (by rwa [hAccess.settles])
  | release t r next ih =>
    obtain ⟨hne, hNext⟩ := h
    have hAccess := composable_sheltered.release t r.block
    refine .bind (.release hLoans hne) ?_
    exact ih _ hNext (by rwa [hAccess.settles])

end Program.Avoids

end ScriptBridge
