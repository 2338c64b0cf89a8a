import ScriptBridge.Host.Access

/-!
# Loans and what they keep

A block may be lent any number of times shared or once exclusively. `openLoans` reads off the marks
of a computation which loans are in progress; it knows nothing of the state. `contentOf` is what a
loan is about: the handle in a block, with its object.
-/
namespace ScriptBridge
set_option autoImplicit false

variable {N : Natives}

/-- The loans in progress after some marks, innermost first, where `loans` were in progress before.
-/
def openLoans (loans : List Loan) : List (Mark N) → List Loan
  | [] => loans
  | .lent l :: marks => openLoans (l :: loans) marks
  | .returned :: marks => openLoans loans.tail marks
  | _ :: marks => openLoans loans marks

theorem openLoans_append (loans : List Loan) (first second : List (Mark N)) :
    openLoans loans (first ++ second) = openLoans (openLoans loans first) second := by
  induction first generalizing loans with
  | nil => rfl
  | cons mark first ih => cases mark <;> exact ih _

namespace State

def contentOf (s : State N) (block : Nat) : Option ((t : N.ObjectType) × Handle N t) :=
  (s.blocks[block]?).bind Block.content

/-- A block that is lent exclusively is not lent otherwise. -/
def Coherent (s : State N) : Prop :=
  s.loans.Pairwise fun l l' => l.block = l'.block → l.exclusive = false ∧ l'.exclusive = false

variable {s s' : State N} {t : N.ObjectType} {block : Nat} {exclusive : Bool}

theorem isLent_iff : s.isLent block = true ↔ ∃ l ∈ s.loans, l.block = block := by
  simp [isLent]

theorem isLentExclusively_iff :
    s.isLentExclusively block = true ↔ ∃ l ∈ s.loans, l.block = block ∧ l.exclusive = true := by
  simp [isLentExclusively]

theorem isLent_of_suffix (h : s.loans <:+ s'.loans) (hLent : s.isLent block = true) :
    s'.isLent block = true := by
  obtain ⟨l, hl, hb⟩ := isLent_iff.mp hLent
  exact isLent_iff.mpr ⟨l, h.subset hl, hb⟩

theorem isLent_of_isLentExclusively (h : s.isLentExclusively block = true) :
    s.isLent block = true := by
  obtain ⟨l, hl, hb, _⟩ := isLentExclusively_iff.mp h
  exact isLent_iff.mpr ⟨l, hl, hb⟩

theorem isLent_of_not_mayLend (h : s.mayLend block exclusive = false) : s.isLent block = true := by
  cases exclusive with
  | false => exact isLent_of_isLentExclusively (by simpa [mayLend] using h)
  | true => simpa [mayLend] using h

theorem mayLend_exclusive_iff : s.mayLend block true = true ↔ s.isLent block = false := by
  simp [mayLend]

theorem mayLend_shared_iff : s.mayLend block false = true ↔ s.isLentExclusively block = false := by
  simp [mayLend]

theorem coherent_lend (h : s.Coherent) (hMay : s.mayLend block exclusive = true) :
    (s.lend block exclusive).Coherent := by
  refine List.Pairwise.cons ?_ h
  rintro l hl (rfl : block = l.block)
  cases exclusive with
  | false =>
    refine ⟨rfl, Bool.eq_false_iff.mpr fun hExclusive => ?_⟩
    have hLent := isLentExclusively_iff.mpr ⟨l, hl, rfl, hExclusive⟩
    rw [mayLend_shared_iff.mp hMay] at hLent
    cases hLent
  | true =>
    have hLent := isLent_iff.mpr ⟨l, hl, rfl⟩
    rw [mayLend_exclusive_iff.mp hMay] at hLent
    cases hLent

theorem handle?_eq_some_iff {h : Handle N t} :
    s.handle? t block = some h ↔ s.contentOf block = some ⟨t, h⟩ := by
  simp only [handle?, contentOf, Option.bind_eq_some_iff, Block.handle?]
  refine exists_congr fun b => and_congr_right fun _ => ?_
  rcases b.content with _ | ⟨u, g⟩
  · simp
  · by_cases e : u = t
    · subst e
      simp
    · simp [e]

theorem lendable_eq_ok_iff {h : Handle N t} :
    s.lendable t block exclusive = .ok h ↔
      s.contentOf block = some ⟨t, h⟩ ∧ s.mayLend block exclusive = true := by
  rw [← handle?_eq_some_iff, lendable]
  cases s.handle? t block with
  | none => simp
  | some g =>
    cases s.mayLend block exclusive
    · simp
    · simp

theorem lt_length_of_contentOf {c : (t : N.ObjectType) × Handle N t}
    (h : s.contentOf block = some c) : block < s.blocks.length := by
  obtain ⟨b, hb, _⟩ := Option.bind_eq_some_iff.mp h
  exact (List.getElem?_eq_some_iff.mp hb).1

theorem contentOf_congr (h : s'.blocks = s.blocks) (block : Nat) :
    s'.contentOf block = s.contentOf block := by
  rw [contentOf, contentOf, h]

theorem contentOf_setHandle_of_ne {h : Handle N t} {other : Nat} (hne : other ≠ block) :
    (s.setHandle t block h).contentOf other = s.contentOf other := by
  simp [contentOf, setHandle, Ne.symm hne]

theorem contentOf_setHandle_self {h : Handle N t} (hlt : block < s.blocks.length) :
    (s.setHandle t block h).contentOf block = some ⟨t, h⟩ := by
  simp [contentOf, setHandle, hlt]

/-- Writing what is there already changes nothing. -/
theorem setHandle_of_contentOf {h : Handle N t} (hContent : s.contentOf block = some ⟨t, h⟩) :
    s.setHandle t block h = s := by
  obtain ⟨b, hBlock, hHandle⟩ := Option.bind_eq_some_iff.mp hContent
  have hSame : s.blocks.modify block (fun b => { b with content := some ⟨t, h⟩ }) = s.blocks := by
    refine List.ext_getElem? fun i => ?_
    rw [List.getElem?_modify]
    by_cases hi : block = i
    · subst hi
      rw [hBlock, ← hHandle]
      simp
    · simp [hi]
  rw [setHandle, hSame]

end State

end ScriptBridge
