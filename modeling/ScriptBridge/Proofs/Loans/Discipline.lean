import ScriptBridge.Proofs.Host.Invariant
import ScriptBridge.Proofs.Loans.Sheltered

/-!
# The discipline of loans

Every operation of a host is sheltered, collecting garbage apart, which happens while nothing is
lent. So loans never conflict in a reachable state, every call and every access ends with the loans
it began with, and a loan is refused for a block only while an access to that block is in progress.
-/
namespace ScriptBridge
set_option autoImplicit false

variable {N : Natives}

theorem State.contentOf_append {s s' : State N} {bs : List (Block N)}
    (h : s'.blocks = s.blocks ++ bs) {block : Nat} (hlt : block < s.blocks.length) :
    s'.contentOf block = s.contentOf block := by
  rw [contentOf, contentOf, h, List.getElem?_append_left hlt]

theorem State.contentOf_restamp (s : State N) (block : Nat) (stamp : Value) (other : Nat) :
    ({ s with blocks := s.blocks.modify block fun b => { b with stamp := stamp } } :
      State N).contentOf other = s.contentOf other := by
  rw [contentOf, contentOf, List.getElem?_modify]
  cases s.blocks[other]? with
  | none => rfl
  | some b => by_cases h : block = other <;> simp [h]

namespace Sheltered

variable {own : Option Nat} {α : Type}

theorem adding {f : State N → α × State N} (hLoans : ∀ s, (f s).2.loans = s.loans)
    (hBlocks : ∀ s, ∃ bs, (f s).2.blocks = s.blocks ++ bs) : Sheltered own (Run.atomic f) := by
  refine atomic hLoans (fun s => ?_) fun s block hlt _ => ?_
  · obtain ⟨bs, h⟩ := hBlocks s
    rw [h, List.length_append]
    exact Nat.le_add_right _ _
  · obtain ⟨bs, h⟩ := hBlocks s
    exact State.contentOf_append h hlt

theorem restamp (block : Nat) (stamp : Value) :
    Sheltered own (Literal.restamp block stamp : Run N Unit) :=
  atomic (fun _ => rfl) (fun _ => Nat.le_of_eq (List.length_modify ..).symm) fun s other _ _ =>
    State.contentOf_restamp s block stamp other

end Sheltered

theorem hostWide_sheltered : HostWide (N := N) fun _ m => Sheltered none m where
  toCalling := compositional_sheltered.calling
  bound codec name c := by
    refine .aside (fun s => ?_) fun s => ?_
    · split <;> rfl
    · split <;> rfl
  space name := by
    refine .aside (fun s => ?_) fun s => ?_
    · split <;> rfl
    · split <;> rfl
  entered _ _ _ := .aside (fun _ => rfl) fun _ => rfl
  typed t identifier := by
    refine .aside (fun s => ?_) fun s => ?_
    · split
      · rfl
      · dsimp only
        split <;> rfl
    · split
      · rfl
      · dsimp only
        split <;> rfl
  attached _ _ := .aside (fun _ => rfl) fun _ => rfl
  told _ _ := .aside (fun _ => rfl) fun _ => rfl
  created t o := by
    refine .adding (fun s => ?_) fun s => ?_
    · dsimp only
      split <;> rfl
    · dsimp only
      split
      · exact ⟨[], (List.append_nil _).symm⟩
      · exact ⟨_, rfl⟩
  table := .aside (fun _ => rfl) fun _ => rfl
  inert := .aside (fun _ => rfl) fun _ => rfl
  unstamped := .adding (fun _ => rfl) fun _ => ⟨_, rfl⟩
  foreign _ := .adding (fun _ => rfl) fun _ => ⟨_, rfl⟩
  restamped := .restamp

namespace State

theorem loans_finalize (s : State N) (block : Nat) : (s.finalize block).loans = s.loans := by
  unfold finalize
  split
  · split <;> rfl
  · rfl

theorem loans_collect (s : State N) (held : List Value) : (s.collect held).loans = s.loans :=
  collect_induction (I := fun s' => s'.loans = s.loans) held rfl fun s' block h =>
    (loans_finalize s' block).trans h

end State

/-- Operations begun while nothing is lent: the loans are at every point those opened on the way,
they do not conflict, and none is left. -/
theorem Operation.loans (op : Operation N) {s s' : State N} {marks : List (Mark N)}
    (hs : s.loans = []) (hp : op.perform.Passes s marks s') :
    s'.loans = openLoans [] marks ∧ s'.Coherent ∧ (op.perform.run s).2.loans = [] := by
  have hCoherent : s.Coherent := by
    rw [State.Coherent, hs]
    exact List.Pairwise.nil
  -- collecting writes objects without a loan, but it is never begun inside another operation
  by_cases hop : ∃ held, op = .collect held
  · obtain ⟨held, rfl⟩ := hop
    have hLast : (s.collect held).loans = [] := (s.loans_collect held).trans hs
    obtain ⟨rfl, rfl | rfl⟩ := Run.passes_atomic_iff.mp hp
    · exact ⟨hs, hCoherent, hLast⟩
    · refine ⟨hLast, ?_, hLast⟩
      change List.Pairwise _ (s.collect held).loans
      rw [hLast]
      exact List.Pairwise.nil
  · have h : Sheltered none op.perform :=
      hostWide_sheltered.operation op fun held he => absurd ⟨held, he⟩ hop
    have hWay := h.shelters hp
    exact ⟨hs ▸ hWay.loans, hWay.coherent hCoherent, (h.settles s).trans hs⟩

theorem AtRest.loans_eq_nil {s : State N} (h : AtRest s) : s.loans = [] := by
  induction h with
  | created hr hs =>
    obtain ⟨opened, names, limit, rfl⟩ := Host.opened_of_create hs
    rfl
  | performed h op ih => exact (op.loans ih (.here _ _)).2.2

theorem Reachable.coherent {s : State N} (h : Reachable s) : s.Coherent := by
  obtain ⟨hRest, hp⟩ := h
  exact (Operation.loans _ hRest.loans_eq_nil hp).2.1

/-- At this moment an access to a block, or showing its text, fails for a loan of the block. -/
def State.BorrowFails (s : State N) (block : Nat) : Prop :=
  (∃ t exclusive, s.lendable t block exclusive = .error .borrow ∨
    s.lendable t block exclusive = .error .exclusiveBorrow) ∨
  ∃ e, s.userdataText block = .error e

theorem State.BorrowFails.isLent {s : State N} {block : Nat} (h : s.BorrowFails block) :
    s.isLent block = true := by
  rcases h with ⟨t, exclusive, h⟩ | ⟨e, h⟩
  · refine isLent_of_not_mayLend (?_ : s.mayLend block exclusive = false)
    unfold lendable at h
    split at h
    · simp at h
    · split at h
      · simp at h
      · rename_i hMay
        exact Bool.not_eq_true _ ▸ hMay
  · refine isLent_of_not_mayLend (?_ : s.mayLend block false = false)
    unfold userdataText at h
    split at h
    · cases h
    · split at h
      · cases h
      · rename_i hMay
        exact Bool.not_eq_true _ ▸ hMay

/-- A computation that ends with the loans it began with, whatever its outcome. -/
def Run.Settles {α : Type} (m : Run N α) : Prop := ∀ s, (m.run s).2.loans = s.loans

/-- Loans never conflict. Calls of entry points, and accesses by reference with whatever native code
runs inside them, leave the loans of every block as they were; so nothing is lent between
operations, and a loan fails only for a block to which an access is in progress. -/
theorem loans_disciplined (N : Natives) :
    (∀ s : State N, Reachable s → s.Coherent) ∧
    (∀ depth,
      (∀ (e : EntryPoint N) args, (e.enter (callWith depth) args).Settles) ∧
      ∀ (t : N.ObjectType) block,
        (∀ {α : Type} (inner : N.Payload t → Program N α),
          (Access.shared t block fun o => (inner o).run (callWith depth)).Settles) ∧
        (∀ {α : Type} (inner : N.Payload t → Program N (α × N.Payload t)),
          (Access.exclusive t block fun o => (inner o).run (callWith depth)).Settles) ∧
        (Access.isLive t block : Run N _).Settles ∧ (Access.release t block : Run N _).Settles) ∧
    (∀ s : State N, AtRest s → s.loans = []) ∧
    ∀ (s : State N) (op : Operation N) marks s', AtRest s → op.perform.Passes s marks s' →
      ∀ block, s'.BorrowFails block → ∃ l ∈ openLoans [] marks, l.block = block := by
  have hCall (depth : Nat) (f : Value) (args : List Value) :
      Sheltered none (callWith (N := N) depth f args) :=
    compositional_sheltered.callWith depth f args
  refine ⟨fun s h => h.coherent, fun depth => ⟨fun e args => ?_, fun t block => ⟨?_, ?_, ?_, ?_⟩⟩,
    fun s h => h.loans_eq_nil, ?_⟩
  · exact (compositional_sheltered.enter e args (hCall depth)).settles
  · intro α inner
    exact (Sheltered.shared fun o => composable_sheltered.program (hCall depth) (inner o)).settles
  · intro α inner
    exact (Sheltered.exclusive fun o => composable_sheltered.program (hCall depth) (inner o)).settles
  · exact Sheltered.isLive.settles
  · exact Sheltered.release.settles
  · intro s op marks s' hs hp block hFails
    obtain ⟨hLoans, -, -⟩ := op.loans hs.loans_eq_nil hp
    rw [← hLoans]
    exact State.isLent_iff.mp hFails.isLent

theorem loans_disciplined_account :
    let s := Sample.accountHost "deposit" Sample.deposit
    AtRest s ∧ s.Coherent ∧ s.loans = [] := by
  intro s
  have hRest : AtRest s := Sample.accountHost_atRest _ _
  obtain ⟨hCoherent, -, hNone, -⟩ := loans_disciplined sampleNatives
  exact ⟨hRest, hCoherent s hRest.reachable, hNone s hRest⟩

end ScriptBridge
