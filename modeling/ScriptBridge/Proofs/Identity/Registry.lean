import ScriptBridge.Object.Registry

/-!
# Registries as partial bijections

What a registry knows is a set of identities, in which no type and no identifier stands twice. Its
two maps are two views of that set. A registration adds one identity to it or nothing, and succeeds
if the set allows the identity.
-/
namespace ScriptBridge.Registry
set_option autoImplicit false

variable {τ : Type} [DecidableEq τ] {r r' : Registry τ} {t u : τ} {identifier : String}
  {i j : Identity τ}

theorem type_of_identityOf? (h : r.identityOf? t = some i) : i.type = t := by
  simpa using List.find?_some h

omit [DecidableEq τ] in
theorem identifier_of_ownerOf? (h : r.ownerOf? identifier = some i) : i.identifier = identifier := by
  simpa using List.find?_some h

theorem identityOf?_insert (r : Registry τ) (i : Identity τ) (t : τ) :
    (r.insert i).identityOf? t = if i.type = t then some i else r.identityOf? t := by
  rw [identityOf?, insert, List.find?_cons]
  by_cases h : i.type = t <;> simp [h, identityOf?]

omit [DecidableEq τ] in
theorem ownerOf?_insert (r : Registry τ) (i : Identity τ) (identifier : String) :
    (r.insert i).ownerOf? identifier =
      if i.identifier = identifier then some i else r.ownerOf? identifier := by
  rw [ownerOf?, insert, List.find?_cons]
  by_cases h : i.identifier = identifier <;> simp [h, ownerOf?]

def Knows (r : Registry τ) (i : Identity τ) : Prop := r.identityOf? i.type = some i

theorem identityOf?_eq_some_iff : r.identityOf? t = some i ↔ i.type = t ∧ r.Knows i := by
  constructor
  · intro h
    obtain rfl := type_of_identityOf? h
    exact ⟨rfl, h⟩
  · rintro ⟨rfl, h⟩
    exact h

theorem identifier?_eq_some_iff :
    r.identifier? t = some identifier ↔ r.Knows ⟨t, identifier⟩ := by
  rw [identifier?, Option.map_eq_some_iff]
  constructor
  · rintro ⟨⟨u, name⟩, h, rfl⟩
    obtain ⟨rfl, hKnown⟩ := identityOf?_eq_some_iff.mp h
    exact hKnown
  · intro h
    exact ⟨_, h, rfl⟩

theorem Knows.eq_of_type (hi : r.Knows i) (hj : r.Knows j) (h : i.type = j.type) : i = j := by
  rw [Knows, h, hj] at hi
  exact (Option.some.inj hi).symm

/-- Both maps show the same identities. -/
def Inverse (r : Registry τ) : Prop := ∀ i, r.Knows i ↔ r.ownerOf? i.identifier = some i

namespace Inverse

theorem ownerOf?_eq_some_iff (h : r.Inverse) :
    r.ownerOf? identifier = some i ↔ i.identifier = identifier ∧ r.Knows i := by
  constructor
  · intro hOwner
    obtain rfl := identifier_of_ownerOf? hOwner
    exact ⟨rfl, (h i).mpr hOwner⟩
  · rintro ⟨rfl, hKnown⟩
    exact (h i).mp hKnown

theorem eq_of_identifier (h : r.Inverse) (hi : r.Knows i) (hj : r.Knows j)
    (he : i.identifier = j.identifier) : i = j := by
  have hi := (h i).mp hi
  rw [he, (h j).mp hj] at hi
  exact (Option.some.inj hi).symm

theorem empty : ({} : Registry τ).Inverse := fun i => by simp [Knows, identityOf?, ownerOf?]

end Inverse

theorem not_knows_empty (i : Identity τ) : ¬ ({} : Registry τ).Knows i := by
  simp [Knows, identityOf?]

/-- Neither the type nor the identifier of `i` is in use. -/
structure Free (r : Registry τ) (i : Identity τ) : Prop where
  type : r.identityOf? i.type = none
  identifier : r.ownerOf? i.identifier = none

theorem Inverse.free_iff (h : r.Inverse) :
    r.Free i ↔ ∀ j, r.Knows j → j.type ≠ i.type ∧ j.identifier ≠ i.identifier := by
  constructor
  · intro hFree j hj
    constructor
    · intro he
      rw [Knows, he, hFree.type] at hj
      cases hj
    · intro he
      have hOwner := (h j).mp hj
      rw [he, hFree.identifier] at hOwner
      cases hOwner
  · intro hOthers
    constructor
    · refine Option.eq_none_iff_forall_ne_some.mpr fun j hType => ?_
      obtain ⟨he, hj⟩ := identityOf?_eq_some_iff.mp hType
      exact (hOthers j hj).1 he
    · refine Option.eq_none_iff_forall_ne_some.mpr fun j hOwner => ?_
      obtain ⟨he, hj⟩ := h.ownerOf?_eq_some_iff.mp hOwner
      exact (hOthers j hj).2 he

theorem Free.not_knows (h : r.Free i) : ¬ r.Knows i := by
  intro hKnown
  rw [Knows, h.type] at hKnown
  cases hKnown

theorem knows_insert_iff (h : r.Free i) : (r.insert i).Knows j ↔ j = i ∨ r.Knows j := by
  rw [Knows, identityOf?_insert]
  by_cases he : i.type = j.type
  · rw [if_pos he]
    constructor
    · intro hj
      exact .inl (Option.some.inj hj).symm
    · rintro (rfl | hj)
      · rfl
      · rw [Knows, ← he, h.type] at hj
        cases hj
  · rw [if_neg he]
    constructor
    · exact .inr
    · rintro (rfl | hj)
      · exact absurd rfl he
      · exact hj

theorem Inverse.insert (hInverse : r.Inverse) (h : r.Free i) : (r.insert i).Inverse := by
  intro j
  rw [knows_insert_iff h, ownerOf?_insert]
  by_cases he : i.identifier = j.identifier
  · rw [if_pos he]
    constructor
    · rintro (rfl | hj)
      · rfl
      · exact absurd he.symm (hInverse.free_iff.mp h j hj).2
    · intro hi
      exact .inl (Option.some.inj hi).symm
  · rw [if_neg he]
    constructor
    · rintro (rfl | hj)
      · exact absurd rfl he
      · exact (hInverse j).mp hj
    · intro hj
      exact .inr ((hInverse j).mpr hj)

/-- Nothing that `r` shows is another or absent in `r'`. -/
structure Extends (r r' : Registry τ) : Prop where
  identities : ∀ t i, r.identityOf? t = some i → r'.identityOf? t = some i
  owners : ∀ identifier i, r.ownerOf? identifier = some i → r'.ownerOf? identifier = some i

theorem Extends.refl (r : Registry τ) : r.Extends r := ⟨fun _ _ h => h, fun _ _ h => h⟩

theorem Extends.trans {r₁ r₂ r₃ : Registry τ} (h : r₁.Extends r₂) (h' : r₂.Extends r₃) :
    r₁.Extends r₃ :=
  ⟨fun _ _ hi => h'.identities _ _ (h.identities _ _ hi),
    fun _ _ hi => h'.owners _ _ (h.owners _ _ hi)⟩

theorem Extends.isSome (h : r.Extends r') (ht : (r.identityOf? t).isSome = true) :
    (r'.identityOf? t).isSome = true := by
  obtain ⟨i, hi⟩ := Option.isSome_iff_exists.mp ht
  rw [h.identities t i hi]
  rfl

theorem Extends.knows (h : r.Extends r') (hi : r.Knows i) : r'.Knows i := h.identities _ _ hi

theorem Free.extends_insert (h : r.Free i) : r.Extends (r.insert i) where
  identities t j hj := by
    rw [identityOf?_insert, if_neg, hj]
    rintro rfl
    rw [h.type] at hj
    cases hj
  owners identifier j hj := by
    rw [ownerOf?_insert, if_neg, hj]
    rintro rfl
    rw [h.identifier] at hj
    cases hj

/-- The same identities under every type and under every identifier. -/
structure Same (r r' : Registry τ) : Prop where
  identities : ∀ t, r.identityOf? t = r'.identityOf? t
  owners : ∀ identifier, r.ownerOf? identifier = r'.ownerOf? identifier

theorem Same.of_knows (hr : r.Inverse) (hr' : r'.Inverse) (h : ∀ i, r.Knows i ↔ r'.Knows i) :
    r.Same r' where
  identities t := Option.ext fun i => by
    rw [identityOf?_eq_some_iff, identityOf?_eq_some_iff, h]
  owners identifier := Option.ext fun i => by
    rw [hr.ownerOf?_eq_some_iff, hr'.ownerOf?_eq_some_iff, h]

/-- What a registration answers, and the registry it leaves. -/
inductive Registers (r : Registry τ) (typeName : τ → String) (i : Identity τ) :
    Except Cause (Identity τ × Registry τ) → Prop where
  | known (h : r.Knows i) : Registers r typeName i (.ok (i, r))
  | fresh (h : r.Free i) : Registers r typeName i (.ok (i, r.insert i))
  | duplicate {existing : String} (h : r.Knows ⟨i.type, existing⟩) (hne : existing ≠ i.identifier) :
      Registers r typeName i (.error (.duplicateType (typeName i.type) existing i.identifier))
  | taken {owner : Identity τ} (hType : r.identityOf? i.type = none)
      (hOwner : r.ownerOf? i.identifier = some owner) :
      Registers r typeName i (.error (.identifierTaken i.identifier (typeName owner.type)))

theorem registers_register (r : Registry τ) (typeName : τ → String) (t : τ) (identifier : String) :
    Registers r typeName ⟨t, identifier⟩ (r.register typeName t identifier) := by
  unfold register
  split
  · rename_i known hType
    obtain ⟨rfl, hKnown⟩ := identityOf?_eq_some_iff.mp hType
    split
    · rename_i he
      subst he
      exact .known (i := known) hKnown
    · rename_i hne
      exact .duplicate hKnown hne
  · rename_i hType
    split
    · rename_i owner hOwner
      exact .taken hType hOwner
    · rename_i hOwner
      exact .fresh ⟨hType, hOwner⟩

/-- What a successful registration leaves. -/
structure Admits (r : Registry τ) (i : Identity τ) (r' : Registry τ) : Prop where
  allowed : r.Free i ∨ r.Knows i
  knows_iff : ∀ j, r'.Knows j ↔ j = i ∨ r.Knows j
  inverse : r.Inverse → r'.Inverse
  grows : r.Extends r'

theorem admits_of_register {typeName : τ → String}
    (h : r.register typeName t identifier = .ok (i, r')) :
    i = ⟨t, identifier⟩ ∧ r.Admits i r' := by
  have hRule := registers_register r typeName t identifier
  rw [h] at hRule
  cases hRule with
  | known hKnown =>
    refine ⟨rfl, .inr hKnown, fun j => ?_, id, .refl r⟩
    exact ⟨.inr, fun hj => hj.elim (fun he => he ▸ hKnown) id⟩
  | fresh hFree =>
    exact ⟨rfl, .inl hFree, fun j => knows_insert_iff hFree, fun hr => hr.insert hFree,
      hFree.extends_insert⟩

end ScriptBridge.Registry
