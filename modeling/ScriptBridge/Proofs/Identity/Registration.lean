import ScriptBridge.Proofs.Host.Operation
import ScriptBridge.Proofs.Identity.Registry

/-!
# Sequences of registrations

Types are registered one call after another, and a call that is refused changes nothing. However
the calls are ordered, the registry stays a partial bijection that only grows, and what it knows in
the end are the identities that were accepted.
-/
namespace ScriptBridge
set_option autoImplicit false

variable {N : Natives} {s s' : State N} {t : N.ObjectType} {identifier : String}
  {i : Identity N.ObjectType} {r : Registry N.ObjectType} {calls : List (N.ObjectType × String)}

/-- Registers types one after another, whether or not the calls before succeeded. -/
def registerAll :
    List (N.ObjectType × String) → Run N (List (Except BridgeError (Identity N.ObjectType)))
  | [] => pure []
  | (t, identifier) :: calls => do
    let answer ← registerType t identifier
    let answers ← registerAll calls
    return answer :: answers

theorem registerType_refused {cause : Cause}
    (h : s.registry.register N.typeName t identifier = .error cause) :
    (registerType t identifier).run s = (.error { cause := cause }, s) := by
  rw [registerType, Run.run_atomic]
  simp only [h]

/-- A successful call leaves the registry of the registration; it changes nothing if the identity
was known. -/
theorem registerType_accepted (h : s.registry.register N.typeName t identifier = .ok (i, r)) :
    ∃ s', (registerType t identifier).run s = (.ok i, s') ∧ s'.registry = r ∧
      (s.registry.Knows i → s' = s) := by
  obtain ⟨rfl, hAdmits⟩ := Registry.admits_of_register h
  rw [registerType, Run.run_atomic]
  simp only [h]
  refine ⟨_, rfl, ?_, fun hKnown => ?_⟩
  · split <;> rfl
  · have hSome : (s.registry.identityOf? t).isNone = false := by
      rw [show s.registry.identityOf? t = _ from hKnown]
      rfl
    have hRule := Registry.registers_register s.registry N.typeName t identifier
    rw [h] at hRule
    rw [hSome, if_neg Bool.false_ne_true]
    cases hRule with
    | known => rfl
    | fresh hFree => exact absurd hKnown hFree.not_knows

namespace Registry.Same

variable {τ : Type} [DecidableEq τ] {r r' : Registry τ}

theorem insert (h : r.Same r') (i : Identity τ) : (r.insert i).Same (r'.insert i) where
  identities t := by rw [identityOf?_insert, identityOf?_insert, h.identities]
  owners identifier := by rw [ownerOf?_insert, ownerOf?_insert, h.owners]

/-- Registering looks at a registry only through its two maps. -/
theorem register (h : r.Same r') (typeName : τ → String) (t : τ) (identifier : String) :
    (∃ cause, r.register typeName t identifier = .error cause ∧
      r'.register typeName t identifier = .error cause) ∨
    ∃ i r₁ r₁', r.register typeName t identifier = .ok (i, r₁) ∧
      r'.register typeName t identifier = .ok (i, r₁') ∧ r₁.Same r₁' := by
  unfold Registry.register
  rw [← h.identities, ← h.owners]
  split
  · split
    · exact .inr ⟨_, _, _, rfl, rfl, h⟩
    · exact .inl ⟨_, rfl, rfl⟩
  · split
    · exact .inl ⟨_, rfl, rfl⟩
    · exact .inr ⟨_, _, _, rfl, rfl, h.insert _⟩

end Registry.Same

/-- What one call does to what is known. -/
theorem registerType_knows (s : State N) (t : N.ObjectType) (identifier : String) :
    let answer := (registerType t identifier).run s
    (∀ j, answer.2.registry.Knows j ↔ answer.1 = .ok j ∨ s.registry.Knows j) ∧
      (s.registry.Inverse → answer.2.registry.Inverse) ∧
      s.registry.Extends answer.2.registry := by
  cases h : s.registry.register N.typeName t identifier with
  | error cause =>
    rw [registerType_refused h]
    exact ⟨fun j => ⟨.inr, fun hj => hj.elim nofun id⟩, id, .refl _⟩
  | ok accepted =>
    obtain ⟨s', hRun, hRegistry, -⟩ := registerType_accepted h
    obtain ⟨-, hAdmits⟩ := Registry.admits_of_register h
    rw [hRun]
    dsimp only
    rw [hRegistry]
    refine ⟨fun j => ?_, hAdmits.inverse, hAdmits.grows⟩
    rw [hAdmits.knows_iff, Except.ok.injEq, eq_comm]

theorem registerType_same (h : s.registry.Same s'.registry) (t : N.ObjectType)
    (identifier : String) :
    ((registerType t identifier).run s).1 = ((registerType t identifier).run s').1 ∧
      ((registerType t identifier).run s).2.registry.Same
        ((registerType t identifier).run s').2.registry := by
  rcases h.register N.typeName t identifier with ⟨cause, h₁, h₂⟩ | ⟨i, r₁, r₂, h₁, h₂, hSame⟩
  · rw [registerType_refused h₁, registerType_refused h₂]
    exact ⟨rfl, h⟩
  · obtain ⟨s₁, hRun₁, hRegistry₁, -⟩ := registerType_accepted h₁
    obtain ⟨s₂, hRun₂, hRegistry₂, -⟩ := registerType_accepted h₂
    rw [hRun₁, hRun₂]
    refine ⟨rfl, ?_⟩
    rw [hRegistry₁, hRegistry₂]
    exact hSame

theorem run_registerAll_cons (t : N.ObjectType) (identifier : String)
    (calls : List (N.ObjectType × String)) (s : State N) :
    (registerAll ((t, identifier) :: calls)).run s =
      (((registerType t identifier).run s).1 ::
          ((registerAll calls).run ((registerType t identifier).run s).2).1,
        ((registerAll calls).run ((registerType t identifier).run s).2).2) := by
  rw [registerAll, Run.run_bind, Run.run_bind]
  rfl

theorem run_registerAll_append (first second : List (N.ObjectType × String)) (s : State N) :
    (registerAll (first ++ second)).run s =
      (((registerAll first).run s).1 ++ ((registerAll second).run ((registerAll first).run s).2).1,
        ((registerAll second).run ((registerAll first).run s).2).2) := by
  induction first generalizing s with
  | nil => rfl
  | cons call first ih =>
    obtain ⟨t, identifier⟩ := call
    rw [List.cons_append, run_registerAll_cons, ih, run_registerAll_cons, List.cons_append]

theorem length_registerAll (calls : List (N.ObjectType × String)) (s : State N) :
    ((registerAll calls).run s).1.length = calls.length := by
  induction calls generalizing s with
  | nil => rfl
  | cons call calls ih =>
    obtain ⟨t, identifier⟩ := call
    rw [run_registerAll_cons, List.length_cons, ih, List.length_cons]

theorem registerAll_knows (calls : List (N.ObjectType × String)) (s : State N) :
    let answers := (registerAll calls).run s
    (∀ j, answers.2.registry.Knows j ↔ .ok j ∈ answers.1 ∨ s.registry.Knows j) ∧
      (s.registry.Inverse → answers.2.registry.Inverse) ∧
      s.registry.Extends answers.2.registry := by
  induction calls generalizing s with
  | nil => exact ⟨fun j => ⟨.inr, fun hj => hj.elim nofun id⟩, id, .refl _⟩
  | cons call calls ih =>
    obtain ⟨t, identifier⟩ := call
    rw [run_registerAll_cons]
    obtain ⟨hFirst, hInverse, hGrows⟩ := registerType_knows s t identifier
    obtain ⟨hRest, hInverse', hGrows'⟩ := ih ((registerType t identifier).run s).2
    refine ⟨fun j => ?_, fun hs => hInverse' (hInverse hs), hGrows.trans hGrows'⟩
    rw [hRest, hFirst, List.mem_cons, eq_comm (a := Except.ok j), or_left_comm, or_assoc]

theorem inverse_registerAll (h : s.registry = {}) (calls : List (N.ObjectType × String)) :
    ((registerAll calls).run s).2.registry.Inverse :=
  (registerAll_knows calls s).2.1 (h ▸ Registry.Inverse.empty)

/-- From an empty registry on, what is known is what was accepted. -/
theorem knows_registerAll_iff (h : s.registry = {}) (calls : List (N.ObjectType × String))
    (i : Identity N.ObjectType) :
    ((registerAll calls).run s).2.registry.Knows i ↔ .ok i ∈ ((registerAll calls).run s).1 := by
  rw [(registerAll_knows calls s).1, h, or_iff_left (Registry.not_knows_empty i)]

theorem registerAll_same (h : s.registry.Same s'.registry)
    (calls : List (N.ObjectType × String)) :
    ((registerAll calls).run s).1 = ((registerAll calls).run s').1 ∧
      ((registerAll calls).run s).2.registry.Same ((registerAll calls).run s').2.registry := by
  induction calls generalizing s s' with
  | nil => exact ⟨rfl, h⟩
  | cons call calls ih =>
    obtain ⟨t, identifier⟩ := call
    obtain ⟨hAnswer, hSame⟩ := registerType_same h t identifier
    obtain ⟨hAnswers, hLast⟩ := ih hSame
    rw [run_registerAll_cons, run_registerAll_cons, hAnswer, hAnswers]
    exact ⟨rfl, hLast⟩

namespace Registry

/-- Read either way, no name stands for two things: the two maps are inverse to each other. -/
structure Bijective {τ : Type} [DecidableEq τ] (r : Registry τ) : Prop where
  inverse : ∀ t identifier, r.identifier? t = some identifier ↔
    ∃ i, r.identityOf? t = some i ∧ r.ownerOf? identifier = some i
  type_unique : ∀ t u identifier, r.identifier? t = some identifier →
    r.identifier? u = some identifier → t = u
  identifier_unique : ∀ a b i j, r.ownerOf? a = some i → r.ownerOf? b = some j →
    i.type = j.type → a = b

theorem Inverse.bijective {τ : Type} [DecidableEq τ] {r : Registry τ} (h : r.Inverse) :
    r.Bijective where
  inverse t identifier := by
    rw [identifier?_eq_some_iff]
    constructor
    · intro hKnown
      exact ⟨_, hKnown, (h _).mp hKnown⟩
    · rintro ⟨i, hType, hOwner⟩
      obtain ⟨rfl, hKnown⟩ := identityOf?_eq_some_iff.mp hType
      obtain rfl := identifier_of_ownerOf? hOwner
      exact hKnown
  type_unique t u identifier ht hu := by
    have ht := identifier?_eq_some_iff.mp ht
    have hu := identifier?_eq_some_iff.mp hu
    exact congrArg Identity.type (h.eq_of_identifier ht hu rfl)
  identifier_unique a b i j hi hj he := by
    obtain ⟨rfl, hKnown⟩ := h.ownerOf?_eq_some_iff.mp hi
    obtain ⟨rfl, hKnown'⟩ := h.ownerOf?_eq_some_iff.mp hj
    exact congrArg Identity.identifier (hKnown.eq_of_type hKnown' he)

/-- Why a registration is refused: the type has another identifier, or else the identifier has an
owner. -/
inductive Refuses {τ : Type} [DecidableEq τ] (r : Registry τ) (typeName : τ → String) (t : τ)
    (identifier : String) : Cause → Prop where
  | duplicate {existing : String} (h : r.identifier? t = some existing)
      (hne : existing ≠ identifier) :
      Refuses r typeName t identifier (.duplicateType (typeName t) existing identifier)
  | taken {owner : Identity τ} (h : r.identifier? t = none)
      (hOwner : r.ownerOf? identifier = some owner) :
      Refuses r typeName t identifier (.identifierTaken identifier (typeName owner.type))

theorem refuses_of_register {τ : Type} [DecidableEq τ] {r : Registry τ} {typeName : τ → String}
    {t : τ} {identifier : String} {cause : Cause}
    (h : r.register typeName t identifier = .error cause) :
    r.Refuses typeName t identifier cause := by
  have hRule := registers_register r typeName t identifier
  rw [h] at hRule
  cases hRule with
  | duplicate hKnown hne => exact .duplicate (identifier?_eq_some_iff.mpr hKnown) hne
  | taken hType hOwner => exact .taken (congrArg (Option.map Identity.identifier) hType) hOwner

theorem Refuses.not_allowed {τ : Type} [DecidableEq τ] {r : Registry τ} {typeName : τ → String}
    {t : τ} {identifier : String} {cause : Cause} (h : r.Refuses typeName t identifier cause) :
    ¬ (r.Free ⟨t, identifier⟩ ∨ r.Knows ⟨t, identifier⟩) := by
  rintro (hFree | hKnown)
  · cases h with
    | duplicate h => simp [identifier?, hFree.type] at h
    | taken _ hOwner => simp [hFree.identifier] at hOwner
  · have hKnown := identifier?_eq_some_iff.mpr hKnown
    cases h with
    | duplicate h hne =>
      rw [h] at hKnown
      exact hne (Option.some.inj hKnown)
    | taken h _ => simp [h] at hKnown

end Registry

/-- A call succeeds exactly if the identity is new or known. -/
theorem registerType_answers (s : State N) (t : N.ObjectType) (identifier : String) :
    let answer := (registerType t identifier).run s
    ((∃ i, answer.1 = .ok i) ↔
      s.registry.Free ⟨t, identifier⟩ ∨ s.registry.Knows ⟨t, identifier⟩) ∧
    (∀ i, answer.1 = .ok i → i = ⟨t, identifier⟩) ∧
    (s.registry.Knows ⟨t, identifier⟩ → answer.2 = s) ∧
    ∀ error, answer.1 = .error error → answer.2 = s ∧
      ∃ cause, error = { cause := cause } ∧ s.registry.Refuses N.typeName t identifier cause := by
  cases h : s.registry.register N.typeName t identifier with
  | error cause =>
    have hRefuses := Registry.refuses_of_register h
    rw [registerType_refused h]
    refine ⟨⟨nofun, fun hAllowed => absurd hAllowed hRefuses.not_allowed⟩, nofun, fun _ => rfl, ?_⟩
    rintro error ⟨⟩
    exact ⟨rfl, cause, rfl, hRefuses⟩
  | ok accepted =>
    obtain ⟨s', hRun, -, hSame⟩ := registerType_accepted h
    obtain ⟨he, hAdmits⟩ := Registry.admits_of_register h
    rw [hRun]
    refine ⟨⟨fun _ => he ▸ hAdmits.allowed, fun _ => ⟨_, rfl⟩⟩, ?_, fun hKnown => ?_, nofun⟩
    · rintro i ⟨⟩
      exact he
    · exact hSame (he ▸ hKnown)

/-- Of two accepted calls each would have been accepted in the other's place. -/
theorem registerType_swap {p q : N.ObjectType × String} {j : Identity N.ObjectType}
    (hs : s.registry.Inverse) (hp : ((registerType p.1 p.2).run s).1 = .ok i)
    (hq : ((registerType q.1 q.2).run ((registerType p.1 p.2).run s).2).1 = .ok j) :
    ((registerType q.1 q.2).run s).1 = .ok j ∧
      ((registerType p.1 p.2).run ((registerType q.1 q.2).run s).2).1 = .ok i := by
  have accepted {s : State N} {c : N.ObjectType × String}
      (h : s.registry.Free ⟨c.1, c.2⟩ ∨ s.registry.Knows ⟨c.1, c.2⟩) :
      ((registerType c.1 c.2).run s).1 = .ok ⟨c.1, c.2⟩ := by
    obtain ⟨hIff, hOk, -⟩ := registerType_answers s c.1 c.2
    obtain ⟨k, hk⟩ := hIff.mpr h
    exact hOk k hk ▸ hk
  obtain ⟨hpIff, hpOk, -⟩ := registerType_answers s p.1 p.2
  obtain ⟨hqIff, hqOk, -⟩ := registerType_answers ((registerType p.1 p.2).run s).2 q.1 q.2
  have hpAllowed := hpIff.mp ⟨i, hp⟩
  have hqAllowed := hqIff.mp ⟨j, hq⟩
  obtain ⟨hKnows, hInverse, hGrows⟩ := registerType_knows s p.1 p.2
  obtain rfl := hpOk i hp
  obtain rfl := hqOk j hq
  have hKnowsP (k : Identity N.ObjectType) :
      ((registerType p.1 p.2).run s).2.registry.Knows k ↔ k = ⟨p.1, p.2⟩ ∨ s.registry.Knows k := by
    rw [hKnows, hp, Except.ok.injEq, eq_comm]
  have hqBefore : s.registry.Free ⟨q.1, q.2⟩ ∨ s.registry.Knows ⟨q.1, q.2⟩ := by
    rcases hqAllowed with hFree | hKnown
    · refine .inl (hs.free_iff.mpr fun k hk => ?_)
      exact (hInverse hs).free_iff.mp hFree k (hGrows.knows hk)
    · rcases (hKnowsP _).mp hKnown with he | hKnown
      · rw [he]
        exact hpAllowed
      · exact .inr hKnown
  have hq' := accepted hqBefore
  obtain ⟨hKnows', hInverse', hGrows'⟩ := registerType_knows s q.1 q.2
  refine ⟨hq', accepted ?_⟩
  rcases hpAllowed with hFree | hKnown
  · by_cases he : (⟨q.1, q.2⟩ : Identity N.ObjectType) = ⟨p.1, p.2⟩
    · exact .inr ((hKnows' _).mpr (.inl (he ▸ hq')))
    · refine .inl ((hInverse' hs).free_iff.mpr fun k hk => ?_)
      rcases (hKnows' k).mp hk with hNew | hOld
      · -- what the second call adds clashes with the first nowhere: both are known at the end
        obtain rfl : (⟨q.1, q.2⟩ : Identity N.ObjectType) = k := Except.ok.inj (hq'.symm.trans hNew)
        have hBoth := (hKnowsP ⟨p.1, p.2⟩).mpr (.inl rfl)
        rcases hqAllowed with hqFree | hqKnown
        · obtain ⟨hType, hIdentifier⟩ := (hInverse hs).free_iff.mp hqFree _ hBoth
          exact ⟨hType.symm, hIdentifier.symm⟩
        · exact ⟨fun hType => he (hqKnown.eq_of_type hBoth hType),
            fun hIdentifier => he ((hInverse hs).eq_of_identifier hqKnown hBoth hIdentifier)⟩
      · exact hs.free_iff.mp hFree k hOld
  · exact .inr (hGrows'.knows hKnown)

theorem registerAll_swap {p q : N.ObjectType × String} {j : Identity N.ObjectType}
    (hs : s.registry.Inverse) (hp : ((registerType p.1 p.2).run s).1 = .ok i)
    (hq : ((registerType q.1 q.2).run ((registerType p.1 p.2).run s).2).1 = .ok j)
    (later : List (N.ObjectType × String)) :
    ∃ after, ((registerAll (p :: q :: later)).run s).1 = .ok i :: .ok j :: after ∧
      ((registerAll (q :: p :: later)).run s).1 = .ok j :: .ok i :: after ∧
      ((registerAll (p :: q :: later)).run s).2.registry.Same
        ((registerAll (q :: p :: later)).run s).2.registry := by
  obtain ⟨hq', hp'⟩ := registerType_swap hs hp hq
  have hFirst : ((registerAll [p, q]).run s).1 = [.ok i, .ok j] := by
    rw [run_registerAll_cons, run_registerAll_cons, hp, hq]
    rfl
  have hSecond : ((registerAll [q, p]).run s).1 = [.ok j, .ok i] := by
    rw [run_registerAll_cons, run_registerAll_cons, hq', hp']
    rfl
  have hSame : ((registerAll [p, q]).run s).2.registry.Same
      ((registerAll [q, p]).run s).2.registry := by
    obtain ⟨hKnows, hInverse, -⟩ := registerAll_knows [p, q] s
    obtain ⟨hKnows', hInverse', -⟩ := registerAll_knows [q, p] s
    refine .of_knows (hInverse hs) (hInverse' hs) fun k => ?_
    rw [hKnows, hKnows', hFirst, hSecond]
    exact or_congr_left (List.Perm.swap _ _ []).mem_iff
  obtain ⟨hAnswers, hLast⟩ := registerAll_same hSame later
  have hSplit (a b : N.ObjectType × String) := run_registerAll_append [a, b] later s
  simp only [List.cons_append, List.nil_append] at hSplit
  rw [hSplit, hSplit, hFirst, hSecond, ← hAnswers]
  exact ⟨_, rfl, rfl, hLast⟩

/-- Whatever calls are made, in whatever order: the registry is a partial bijection, both its maps
show the accepted identities and no others, and nothing in it is ever changed or taken away. A call
succeeds exactly if its type and its identifier are free or stand for each other already; otherwise
it changes nothing and says which of the two is in the way. So the registry in the end is told by
the accepted identities alone, and accepted calls next to each other can be swapped. -/
theorem registry_stable_bijection (hEmpty : s.registry = {})
    (calls : List (N.ObjectType × String)) :
    let answers := ((registerAll calls).run s).1
    let last := ((registerAll calls).run s).2
    last.registry.Bijective ∧
    (∀ i, last.registry.Knows i ↔ .ok i ∈ answers) ∧
    (∀ identifier i, last.registry.ownerOf? identifier = some i ↔
      i.identifier = identifier ∧ .ok i ∈ answers) ∧
    (∀ earlier later, calls = earlier ++ later →
      ((registerAll earlier).run s).2.registry.Extends last.registry) ∧
    (∀ t identifier,
      let next := (registerType t identifier).run last
      ((∃ i, next.1 = .ok i) ↔
        last.registry.Free ⟨t, identifier⟩ ∨ last.registry.Knows ⟨t, identifier⟩) ∧
      (∀ i, next.1 = .ok i → i = ⟨t, identifier⟩) ∧
      (last.registry.Knows ⟨t, identifier⟩ → next.2 = last) ∧
      ∀ error, next.1 = .error error → next.2 = last ∧
        ∃ cause, error = { cause := cause } ∧ last.registry.Refuses N.typeName t identifier cause) ∧
    (∀ (s' : State N) calls', s'.registry = {} →
      (∀ i, .ok i ∈ answers ↔ .ok i ∈ ((registerAll calls').run s').1) →
      last.registry.Same ((registerAll calls').run s').2.registry) ∧
    ∀ earlier p q later i j, calls = earlier ++ p :: q :: later →
      answers[earlier.length]? = some (.ok i) → answers[earlier.length + 1]? = some (.ok j) →
      ∃ before after, before.length = earlier.length ∧
        answers = before ++ .ok i :: .ok j :: after ∧
        ((registerAll (earlier ++ q :: p :: later)).run s).1 = before ++ .ok j :: .ok i :: after ∧
        last.registry.Same ((registerAll (earlier ++ q :: p :: later)).run s).2.registry := by
  have hInverse := inverse_registerAll hEmpty calls
  have hKnown := knows_registerAll_iff hEmpty calls
  refine ⟨hInverse.bijective, hKnown, fun identifier i => ?_, ?_,
    fun t identifier => registerType_answers _ _ _, ?_, ?_⟩
  · rw [hInverse.ownerOf?_eq_some_iff, hKnown]
  · rintro earlier later rfl
    rw [run_registerAll_append]
    exact (registerAll_knows later _).2.2
  · intro s' calls' hEmpty' hAccepted
    refine .of_knows hInverse (inverse_registerAll hEmpty' calls') fun i => ?_
    rw [hKnown, knows_registerAll_iff hEmpty', hAccepted]
  · rintro earlier p q later i j rfl hp hq
    simp only [run_registerAll_append, ← length_registerAll earlier s] at hp hq ⊢
    rw [List.getElem?_append_right (Nat.le_refl _), Nat.sub_self, run_registerAll_cons] at hp
    rw [List.getElem?_append_right (Nat.le_succ _), Nat.succ_sub (Nat.le_refl _), Nat.sub_self,
      run_registerAll_cons, run_registerAll_cons] at hq
    obtain ⟨after, hAnswers, hSwapped, hSame⟩ := registerAll_swap
      (inverse_registerAll hEmpty earlier) (Option.some.inj hp) (Option.some.inj hq) later
    refine ⟨_, after, rfl, ?_, ?_, hSame⟩
    · rw [hAnswers]
    · rw [hSwapped]

open Sample in
theorem registry_stable_bijection_conflict :
    let s : State sampleNatives := Host.fresh [] {} ({} : Captured)
    let calls : List (ObjectType × String) :=
      [(.account, "Account"), (.sensor, "Account"), (.sensor, "Sensor"), (.account, "Other")]
    let answers := ((registerAll (N := sampleNatives) calls).run s).1
    let last := ((registerAll (N := sampleNatives) calls).run s).2
    s.registry = {} ∧ last.registry.Bijective ∧
      answers =
        [.ok ⟨.account, "Account"⟩,
          .error { cause := .identifierTaken "Account" (ObjectType.typeName .account) },
          .ok ⟨.sensor, "Sensor"⟩,
          .error { cause := .duplicateType (ObjectType.typeName .account) "Account" "Other" }] ∧
      last.registry.Knows ⟨.account, "Account"⟩ ∧ last.registry.Knows ⟨.sensor, "Sensor"⟩ := by
  intro s calls answers last
  obtain ⟨hBijective, hKnown, -⟩ := registry_stable_bijection (s := s) rfl calls
  have hFirst : answers[0]? = some (.ok ⟨.account, "Account"⟩) := rfl
  have hThird : answers[2]? = some (.ok ⟨.sensor, "Sensor"⟩) := rfl
  exact ⟨rfl, hBijective, rfl, (hKnown _).mpr (List.mem_of_getElem? hFirst),
    (hKnown _).mpr (List.mem_of_getElem? hThird)⟩

end ScriptBridge
