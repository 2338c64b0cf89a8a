import ScriptBridge.Host.Frame

/-!
# Argument lists

What it is for a list of script values to decode to an argument list, and to fail first at one
place, said without the order in which a frame decodes; and that a frame finds exactly this.
-/
namespace ScriptBridge
set_option autoImplicit false

section Except

variable {α β : Type} {e : BridgeError}

@[simp] theorem ok_bind (a : α) (f : α → Except BridgeError β) : (Except.ok a >>= f) = f a := rfl

@[simp] theorem error_bind (f : α → Except BridgeError β) :
    (Except.error e >>= f) = Except.error e := rfl

@[simp] theorem pure_eq_ok (a : α) : (pure a : Except BridgeError α) = .ok a := rfl

theorem bind_eq_ok_iff {x : Except BridgeError α} {f : α → Except BridgeError β} {b : β} :
    (x >>= f) = .ok b ↔ ∃ a, x = .ok a ∧ f a = .ok b := by
  cases x with
  | error e => simp
  | ok a => simp

end Except

variable {τ : Type} {codec : CodecConfig} {ids : Identities τ}

/-- The script values decode, one by one, to the arguments. -/
def DecodesTo (codec : CodecConfig) (ids : Identities τ) :
    (ts : List (NativeType τ)) → List Value → Args ts → Prop
  | [], vs, _ => vs = []
  | _ :: _, [], _ => False
  | t :: ts, v :: vs, (a, as) => Codec.decode codec ids t v = .ok a ∧ DecodesTo codec ids ts vs as

/-- The value at `i`, counted from zero, does not decode at its type `t`, and each before it does.
-/
structure LeftmostUndecodable (codec : CodecConfig) (ids : Identities τ)
    (ts : List (NativeType τ)) (vs : List Value) (i : Nat) (t : NativeType τ) (found : String) :
    Prop where
  type : ts[i]? = some t
  fails : ∃ v, vs[i]? = some v ∧ Codec.decode codec ids t v = .error found
  before : ∀ j < i, ∀ t' v', ts[j]? = some t' → vs[j]? = some v' →
    ∃ a, Codec.decode codec ids t' v' = .ok a

namespace Frame

variable {f : Frame} {before vs : List Value} {v : Value} {ts : List (NativeType τ)}

theorem value?_append (h : f.args = before ++ v :: vs) : f.value? (before.length + 1) = some v := by
  simp [value?, h]

theorem decode_of_ok {t : NativeType τ} {a : t.Native} (h : f.args = before ++ v :: vs)
    (hDecode : Codec.decode f.codec ids t v = .ok a) :
    f.decode ids t (before.length + 1) = .ok a := by
  rw [decode, value?_append h, Option.getD_some, hDecode]

theorem decode_of_error {t : NativeType τ} {found : String} (h : f.args = before ++ v :: vs)
    (hDecode : Codec.decode f.codec ids t v = .error found) :
    f.decode ids t (before.length + 1) =
      .error (.typeMismatch f.codec (before.length + 1) t.kind found) := by
  rw [decode, value?_append h, Option.getD_some, hDecode]

theorem decodeArgs_cons {t : NativeType τ} {first : Nat} {a : t.Native}
    (h : f.decode ids t first = .ok a) :
    f.decodeArgs ids first (t :: ts) = (f.decodeArgs ids (first + 1) ts).map fun as => (a, as) := by
  rw [decodeArgs, h]
  cases f.decodeArgs ids (first + 1) ts <;> rfl

theorem decodeArgs_cons_error {t : NativeType τ} {first : Nat} {e : BridgeError}
    (h : f.decode ids t first = .error e) : f.decodeArgs ids first (t :: ts) = .error e := by
  rw [decodeArgs, h]
  rfl

/-- A frame decodes the values from a position on, or stops at the leftmost that does not decode. -/
theorem decodeArgs_cases (h : f.args = before ++ vs) (hLength : vs.length = ts.length) :
    (∃ as, f.decodeArgs ids (before.length + 1) ts = .ok as ∧ DecodesTo f.codec ids ts vs as) ∨
    ∃ i t found, LeftmostUndecodable f.codec ids ts vs i t found ∧
      f.decodeArgs ids (before.length + 1) ts =
        .error (.typeMismatch f.codec (before.length + 1 + i) t.kind found) := by
  -- the values that are decoded already move to the ones before
  induction ts generalizing before vs with
  | nil => exact .inl ⟨(), rfl, List.length_eq_zero_iff.mp hLength⟩
  | cons t ts ih =>
    obtain _ | ⟨v, vs⟩ := vs
    · cases hLength
    · have hRest : f.args = (before ++ [v]) ++ vs := by rw [h, List.append_assoc]; rfl
      have hFirst : (before ++ [v]).length + 1 = before.length + 1 + 1 := by simp
      cases hDecode : Codec.decode f.codec ids t v with
      | error found =>
        refine .inr ⟨0, t, found, ⟨rfl, ⟨v, rfl, hDecode⟩, nofun⟩, ?_⟩
        exact decodeArgs_cons_error (decode_of_error h hDecode)
      | ok a =>
        have hHead := @decodeArgs_cons _ ids f ts _ _ _ (decode_of_ok h hDecode)
        rcases ih hRest (Nat.succ.inj hLength) with ⟨as, hOk, hAs⟩ | ⟨i, u, found, hLeast, hError⟩
        · refine .inl ⟨(a, as), ?_, hDecode, hAs⟩
          rw [hHead, ← hFirst, hOk]
          rfl
        · refine .inr ⟨i + 1, u, found, ⟨hLeast.type, hLeast.fails, ?_⟩, ?_⟩
          · intro j hj t' v' ht' hv'
            cases j with
            | zero =>
              cases ht'
              cases hv'
              exact ⟨a, hDecode⟩
            | succ j => exact hLeast.before j (Nat.lt_of_succ_lt_succ hj) t' v' ht' hv'
          · rw [hHead, ← hFirst, hError]
            simp only [Except.map, hFirst]
            congr 2
            omega

end Frame

namespace LeftmostUndecodable

variable {ts : List (NativeType τ)} {vs : List Value} {i j : Nat} {t u : NativeType τ}
  {found other : String}

theorem not_lt (h : LeftmostUndecodable codec ids ts vs i t found)
    (h' : LeftmostUndecodable codec ids ts vs j u other) : ¬ i < j := by
  intro hlt
  obtain ⟨v, hv, hError⟩ := h.fails
  obtain ⟨a, hOk⟩ := h'.before i hlt t v h.type hv
  rw [hOk] at hError
  cases hError

theorem unique (h : LeftmostUndecodable codec ids ts vs i t found)
    (h' : LeftmostUndecodable codec ids ts vs j u other) : i = j ∧ t = u ∧ found = other := by
  obtain rfl : i = j :=
    Nat.le_antisymm (Nat.le_of_not_lt (h'.not_lt h)) (Nat.le_of_not_lt (h.not_lt h'))
  obtain rfl : t = u := Option.some.inj (h.type.symm.trans h'.type)
  obtain ⟨v, hv, hError⟩ := h.fails
  obtain ⟨v', hv', hError'⟩ := h'.fails
  obtain rfl : v = v' := Option.some.inj (hv.symm.trans hv')
  exact ⟨rfl, rfl, Except.error.inj (hError.symm.trans hError')⟩

end LeftmostUndecodable

namespace DecodesTo

variable {ts : List (NativeType τ)} {vs : List Value} {as : Args ts}

theorem length_eq (h : DecodesTo codec ids ts vs as) : vs.length = ts.length := by
  induction ts generalizing vs with
  | nil => exact List.length_eq_zero_iff.mpr h
  | cons t ts ih =>
    obtain _ | ⟨v, vs⟩ := vs
    · cases h
    · rw [List.length_cons, List.length_cons, ih h.2]

theorem unique {bs : Args ts} (h : DecodesTo codec ids ts vs as) (h' : DecodesTo codec ids ts vs bs) :
    as = bs := by
  induction ts generalizing vs with
  | nil => rfl
  | cons t ts ih =>
    obtain _ | ⟨v, vs⟩ := vs
    · cases h
    · exact Prod.ext (Except.ok.inj (h.1.symm.trans h'.1)) (ih h.2 h'.2)

theorem get (h : DecodesTo codec ids ts vs as) {i : Nat} {t : NativeType τ} {v : Value}
    (ht : ts[i]? = some t) (hv : vs[i]? = some v) : ∃ a, Codec.decode codec ids t v = .ok a := by
  induction ts generalizing vs i with
  | nil => cases ht
  | cons u ts ih =>
    obtain _ | ⟨w, vs⟩ := vs
    · cases hv
    · cases i with
      | zero =>
        cases ht
        cases hv
        exact ⟨_, h.1⟩
      | succ i => exact ih h.2 ht hv

theorem not_leftmost (h : DecodesTo codec ids ts vs as) {i : Nat} {t : NativeType τ}
    {found : String} : ¬ LeftmostUndecodable codec ids ts vs i t found := by
  intro hLeast
  obtain ⟨v, hv, hError⟩ := hLeast.fails
  obtain ⟨a, hOk⟩ := h.get hLeast.type hv
  rw [hOk] at hError
  cases hError

end DecodesTo

namespace Frame

variable {f : Frame} {before vs : List Value} {ts : List (NativeType τ)}

theorem decodeArgs_eq_ok_iff {as : Args ts} (h : f.args = before ++ vs)
    (hLength : vs.length = ts.length) :
    f.decodeArgs ids (before.length + 1) ts = .ok as ↔ DecodesTo f.codec ids ts vs as := by
  rcases decodeArgs_cases h hLength with
    ⟨bs, hOk, hBs⟩ | ⟨i, t, found, hLeast, hError⟩
  · rw [hOk]
    constructor
    · rintro ⟨⟩
      exact hBs
    · intro hAs
      rw [hAs.unique hBs]
  · rw [hError]
    constructor
    · nofun
    · intro hAs
      exact absurd hLeast hAs.not_leftmost

theorem decodeArgs_eq_error_iff {e : BridgeError} (h : f.args = before ++ vs)
    (hLength : vs.length = ts.length) :
    f.decodeArgs ids (before.length + 1) ts = .error e ↔
      ∃ i t found, LeftmostUndecodable f.codec ids ts vs i t found ∧
        .typeMismatch f.codec (before.length + 1 + i) t.kind found = e := by
  rcases decodeArgs_cases h hLength with
    ⟨bs, hOk, hBs⟩ | ⟨i, t, found, hLeast, hError⟩
  · rw [hOk]
    constructor
    · nofun
    · rintro ⟨i, t, found, hLeast, -⟩
      exact absurd hLeast hBs.not_leftmost
  · rw [hError]
    constructor
    · rintro ⟨⟩
      exact ⟨i, t, found, hLeast, rfl⟩
    · rintro ⟨j, u, other, hLeast', rfl⟩
      obtain ⟨rfl, rfl, rfl⟩ := hLeast.unique hLeast'
      rfl

end Frame

theorem decodesTo_or_leftmost (codec : CodecConfig) (ids : Identities τ)
    {ts : List (NativeType τ)} {vs : List Value} (h : vs.length = ts.length) :
    (∃ as, DecodesTo codec ids ts vs as) ∨
      ∃ i t found, LeftmostUndecodable codec ids ts vs i t found := by
  have hArgs : ({ codec := codec, args := vs } : Frame).args = [] ++ vs := rfl
  rcases Frame.decodeArgs_cases hArgs h with
    ⟨as, -, hAs⟩ | ⟨i, t, found, hLeast, -⟩
  · exact .inl ⟨as, hAs⟩
  · exact .inr ⟨i, t, found, hLeast⟩

end ScriptBridge
