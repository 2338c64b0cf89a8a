import ScriptBridge.Proofs.Loans.Access
import ScriptBridge.Proofs.Run.Composable

/-!
# Loans shelter what is lent

From a state on, a computation is `Sheltered` if it ends with the loans it began with, if the loans
at every point are those it began with and those it has opened since, and if it changes no object
that was lent when it began. The block `own` is left out of the last: it is the one that the
computation itself may write, since its exclusive loan was opened for it. All code is sheltered,
whatever its outcome.
-/
namespace ScriptBridge
set_option autoImplicit false

variable {N : Natives} {α β : Type}

/-- What the way from `s` to `s'` keeps. -/
structure Shelters (own : Option Nat) (s : State N) (marks : List (Mark N)) (s' : State N) : Prop where
  loans : s'.loans = openLoans s.loans marks
  suffix : s.loans <:+ s'.loans
  coherent : s.Coherent → s'.Coherent
  grows : s.blocks.length ≤ s'.blocks.length
  frozen : ∀ block < s.blocks.length, some block ≠ own → s.isLent block = true →
    s'.contentOf block = s.contentOf block

structure Sheltered (own : Option Nat) (m : Run N α) : Prop where
  settles : ∀ s, (m.run s).2.loans = s.loans
  shelters : ∀ {s marks s'}, m.Passes s marks s' → Shelters own s marks s'

namespace Shelters

variable {own inner : Option Nat} {s s₁ s' : State N} {marks rest : List (Mark N)}
  {t : N.ObjectType} {block : Nat} {exclusive : Bool} {h : Handle N t}

theorem refl (own : Option Nat) (s : State N) : Shelters own s [] s where
  loans := rfl
  suffix := List.suffix_rfl
  coherent := id
  grows := Nat.le_refl _
  frozen _ _ _ _ := rfl

theorem trans (h₁ : Shelters own s marks s₁) (hSettled : s₁.loans = s.loans)
    (h₂ : Shelters own s₁ rest s') : Shelters own s (marks ++ rest) s' where
  loans := by rw [h₂.loans, h₁.loans, openLoans_append]
  suffix := hSettled ▸ h₂.suffix
  coherent hs := h₂.coherent (h₁.coherent hs)
  grows := Nat.le_trans h₁.grows h₂.grows
  frozen b hb hOwn hLent := by
    have hLent₁ : s₁.isLent b = true := by rwa [State.isLent, hSettled]
    rw [h₂.frozen b (Nat.lt_of_lt_of_le hb h₁.grows) hOwn hLent₁, h₁.frozen b hb hOwn hLent]

theorem lend (hMay : s.mayLend block exclusive = true)
    (hOwn : ∀ b, some b ≠ own → s.isLent b = true → some b ≠ inner)
    (h : Shelters inner (s.lend block exclusive) marks s') :
    Shelters own s (.lent ⟨block, exclusive⟩ :: marks) s' where
  loans := h.loans
  suffix := (List.suffix_cons _ _).trans h.suffix
  coherent hs := h.coherent (State.coherent_lend hs hMay)
  grows := h.grows
  frozen b hb hb' hLent :=
    h.frozen b hb (hOwn b hb' hLent) (State.isLent_of_suffix (List.suffix_cons _ _) hLent)

theorem endLoan (h : Shelters own s marks s₁) {l : Loan} (hOpen : s₁.loans = l :: s.loans) :
    Shelters own s (marks ++ [.returned]) s₁.endLoan where
  loans := by
    rw [openLoans_append, ← h.loans, hOpen]
    change s₁.loans.drop 1 = s.loans
    rw [hOpen, List.drop_one, List.tail_cons]
  suffix := by
    change s.loans <:+ s₁.loans.drop 1
    rw [hOpen]
    exact List.suffix_rfl
  coherent hs := by
    change List.Pairwise _ (s₁.loans.drop 1)
    rw [hOpen]
    exact hs
  grows := h.grows
  frozen := h.frozen

end Shelters

namespace Sheltered

variable {own : Option Nat}

theorem done (own : Option Nat) (a : α) : Sheltered own (pure a : Run N α) where
  settles _ := rfl
  shelters h := by
    obtain ⟨rfl, rfl⟩ := Run.passes_pure_iff.mp h
    exact .refl own _

theorem bind {m : Run N α} {f : α → Run N β} (hm : Sheltered own m)
    (hf : ∀ a, Sheltered own (f a)) : Sheltered own (m >>= f) where
  settles s := by rw [Run.run_bind, (hf _).settles, hm.settles]
  shelters h := by
    rcases Run.passes_bind_iff.mp h with hFirst | ⟨rest, rfl, hSecond⟩
    · exact hm.shelters hFirst
    · exact (hm.shelters (Run.passes_last _ _)).trans (hm.settles _) ((hf _).shelters hSecond)

theorem look {f : State N → Run N α} (hf : ∀ s, Sheltered own (f s)) :
    Sheltered own (Run.look f) where
  settles s := (hf s).settles s
  shelters h := (hf _).shelters (Run.passes_look_iff.mp h)

/-- One step that leaves loans alone and writes no lent object but that of `own`. -/
theorem atomic {f : State N → α × State N} (hLoans : ∀ s, (f s).2.loans = s.loans)
    (hGrows : ∀ s, s.blocks.length ≤ (f s).2.blocks.length)
    (hFrozen : ∀ s, ∀ block < s.blocks.length, some block ≠ own →
      (f s).2.contentOf block = s.contentOf block) : Sheltered own (Run.atomic f) where
  settles := hLoans
  shelters {s marks s'} h := by
    obtain ⟨rfl, rfl | rfl⟩ := Run.passes_atomic_iff.mp h
    · exact .refl own _
    · exact {
        loans := hLoans s
        suffix := (hLoans s).symm ▸ List.suffix_rfl
        coherent := fun hs => by rwa [State.Coherent, hLoans]
        grows := hGrows s
        frozen := fun block hlt hOwn _ => hFrozen s block hlt hOwn }

theorem aside {f : State N → α × State N} (hLoans : ∀ s, (f s).2.loans = s.loans)
    (hBlocks : ∀ s, (f s).2.blocks = s.blocks) : Sheltered own (Run.atomic f) :=
  atomic hLoans (fun s => Nat.le_of_eq (congrArg List.length (hBlocks s)).symm)
    fun s block _ _ => State.contentOf_congr (hBlocks s) block

theorem announce {mark : Mark N} {f : State N → State N}
    (hMark : ∀ loans, openLoans loans [mark] = loans) (hLoans : ∀ s, (f s).loans = s.loans)
    (hBlocks : ∀ s, (f s).blocks = s.blocks) : Sheltered own (Run.announce mark f) where
  settles := hLoans
  shelters {s marks s'} h := by
    rcases Run.passes_announce_iff.mp h with ⟨rfl, rfl⟩ | ⟨rfl, rfl⟩
    · exact .refl own _
    · exact {
        loans := (hLoans s).trans (hMark _).symm
        suffix := (hLoans s).symm ▸ List.suffix_rfl
        coherent := fun hs => by rwa [State.Coherent, hLoans]
        grows := Nat.le_of_eq (congrArg List.length (hBlocks s)).symm
        frozen := fun block _ _ _ => State.contentOf_congr (hBlocks s) block }

variable {t : N.ObjectType} {block : Nat}

/-- A loan shelters if what runs under it does, with `inner` for the block it may write. -/
theorem lending {exclusive : Bool} {inner : Option Nat}
    {f : Handle N t → Run N (Except BridgeError α)} (hf : ∀ h, Sheltered inner (f h))
    (hOwn : ∀ s : State N, s.mayLend block exclusive = true →
      ∀ b, some b ≠ own → s.isLent b = true → some b ≠ inner) :
    Sheltered own (Access.lending t block exclusive f) := by
  constructor
  · intro s
    cases hLend : s.lendable t block exclusive with
    | error e => rw [(Access.lending_refused hLend).1]
    | ok g =>
      rw [Access.run_lending hLend, State.endLoan, (hf g).settles]
      rfl
  · intro s marks s' hp
    cases hLend : s.lendable t block exclusive with
    | error e =>
      rw [Access.lending, Run.passes_look_iff, hLend] at hp
      exact (done own _).shelters hp
    | ok g =>
      have hMay := (State.lendable_eq_ok_iff.mp hLend).2
      have hInside {marks s'} (hp : (f g).Passes (s.lend block exclusive) marks s') :
          Shelters own s (.lent ⟨block, exclusive⟩ :: marks) s' :=
        .lend hMay (hOwn s hMay) ((hf g).shelters hp)
      rcases (Access.passes_lending_iff hLend).mp hp with ⟨rfl, rfl⟩ | ⟨rest, rfl, hInner⟩ | ⟨rfl, rfl⟩
      · exact .refl own _
      · exact hInside hInner
      · rw [Access.trace_lending hLend, Access.run_lending hLend]
        exact (hInside (Run.passes_last _ _)).endLoan ((hf g).settles _)

theorem lendingShared {f : Handle N t → Run N (Except BridgeError α)}
    (hf : ∀ h, Sheltered own (f h)) : Sheltered own (Access.lending t block false f) :=
  lending hf fun _ _ _ hb _ => hb

/-- Under an exclusive loan the block itself may be written: it was not lent before. -/
theorem lendingExclusive {f : Handle N t → Run N (Except BridgeError α)}
    (hf : ∀ h, Sheltered (some block) (f h)) : Sheltered own (Access.lending t block true f) := by
  refine lending hf fun s hMay b _ hLent => ?_
  rintro ⟨⟩
  rw [State.mayLend_exclusive_iff.mp hMay] at hLent
  cases hLent

theorem mono {m : Run N α} (h : Sheltered none m) : Sheltered own m where
  settles := h.settles
  shelters hp :=
    have hAll := h.shelters hp
    { hAll with
      frozen := fun block hlt _ hLent => hAll.frozen block hlt (Option.some_ne_none _) hLent }

theorem setHandle (g : Handle N t) :
    Sheltered (some block) (Run.modify fun s : State N => s.setHandle t block g) :=
  atomic (fun _ => rfl) (fun s => Nat.le_of_eq (by simp [State.setHandle])) fun s b _ hb =>
    State.contentOf_setHandle_of_ne fun he => hb (congrArg some he)

theorem destroy (g : Handle N t) (o : N.Payload t) :
    Sheltered (some block)
      (Run.modify fun s : State N => (s.setHandle t block g).bury t g o true) :=
  atomic (fun _ => rfl) (fun s => Nat.le_of_eq (by simp [State.setHandle, State.bury, State.emit]))
    fun s b _ hb => State.contentOf_setHandle_of_ne fun he => hb (congrArg some he)

theorem shared {f : N.Payload t → Run N α} (hf : ∀ o, Sheltered none (f o)) :
    Sheltered none (Access.shared t block f) := by
  refine lendingShared fun h => ?_
  split
  · exact done _ _
  · exact bind (hf _) fun a => done _ _

theorem exclusive {f : N.Payload t → Run N (α × N.Payload t)} (hf : ∀ o, Sheltered none (f o)) :
    Sheltered none (Access.exclusive t block f) := by
  refine lendingExclusive fun h => ?_
  split
  · exact done _ _
  · exact bind (hf _).mono fun r => bind (setHandle _) fun _ => done _ _

theorem release : Sheltered none (Access.release t block : Run N _) := by
  refine lendingExclusive fun h => ?_
  split
  · exact done _ _
  · exact bind (destroy _ _) fun _ => done _ _

theorem isLive : Sheltered none (Access.isLive t block : Run N _) := by
  refine bind (lendingShared fun h => done _ _) fun r => ?_
  split
  · exact done _ _
  · exact done _ _

end Sheltered

theorem composable_sheltered : Composable (N := N) fun _ m => Sheltered none m where
  pure := .done none
  bind := .bind
  look := .look
  assign _ _ := .aside (fun _ => rfl) fun _ => rfl
  lambda _ := .aside (fun _ => rfl) fun _ => rfl
  capture _ := .aside (fun _ => rfl) fun _ => rfl
  shared := .shared
  exclusive := .exclusive
  release _ _ := .release

theorem compositional_sheltered : Compositional (N := N) fun _ m => Sheltered none m where
  toComposable := composable_sheltered
  enter e args hCall := by
    refine composable_sheltered.enter hCall (fun b => ?_) (fun e args => ?_) (fun vs => ?_)
      (fun name error => ?_) e args
    all_goals exact .announce (fun _ => rfl) (fun _ => rfl) fun _ => rfl

end ScriptBridge
