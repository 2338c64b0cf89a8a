import ScriptBridge.Proofs.Codec.Integer
import ScriptBridge.Proofs.Gates.Outcome
import ScriptBridge.Proofs.Identity.Stamps

/-!
# To scripts and back

A native value is encoded to a script value that decodes to it, whatever the settings. The unsigned
integers beyond those of scripts are refused, and nothing else is; no such integer is ever decoded,
so what came from a script can always go back.
-/
namespace ScriptBridge
set_option autoImplicit false

section Types

variable {τ : Type}

namespace NativeType

/-- Types that have a script value for each of their values, unrounded, and never nil. -/
inductive Plain : NativeType τ → Prop where
  | integer (t : IntegerType) : Plain (.integer t)
  | float : Plain (.float .double)
  | boolean : Plain .boolean
  | text : Plain .text
  | view : Plain .view
  | object (t : τ) : Plain (.object t)

/-- An option is only told from nil if what it may hold never is nil. -/
inductive Faithful : NativeType τ → Prop where
  | plain {t : NativeType τ} (h : t.Plain) : Faithful t
  | option {t : NativeType τ} (h : t.Plain) : Faithful (.option t)

end NativeType

/-- The native value is, or holds, the unsigned integer `n`, which is beyond those of scripts. -/
inductive Oversized : (t : NativeType τ) → t.Native → Int → Prop where
  | unsigned {size : IntegerSize} {n : Bounded (.unsigned size)}
      (h : Int64.maxValue.toInt < n.val) : Oversized (.integer (.unsigned size)) n n.val
  | option {t : NativeType τ} {a : t.Native} {n : Int} (h : Oversized t a n) :
      Oversized (.option t) (some a) n

namespace Codec

variable {t : NativeType τ} {a : t.Native} {v : Value}

theorem encode_oversized {n : Int} (h : Oversized t a n) : encode t a = .error (.outOfRange n) := by
  induction h with
  | unsigned h => rw [encode, int64?_eq_none_iff.mpr (.inr h)]
  | option h ih => exact ih

theorem encode_plain (ht : t.Plain) (h : ∀ n, ¬ Oversized t a n) :
    ∃ v, encode t a = .ok v ∧ v ≠ .nil := by
  cases ht with
  | integer t =>
    cases hInt : int64? a.val with
    | some i => exact ⟨.integer i, by rw [encode, hInt], nofun⟩
    | none =>
      have hLeast := Int.le_trans t.minValue_le_least a.least_le
      have hBeyond : Int64.maxValue.toInt < a.val := by
        have := int64?_eq_none_iff.mp hInt
        omega
      cases t with
      | signed size =>
        have := Int.le_trans a.le_greatest (IntegerType.greatest_le_maxValue size)
        omega
      | unsigned size => exact absurd (.unsigned hBeyond) (h a.val)
  | _ => exact ⟨_, rfl, nofun⟩

theorem encode_faithful (ht : t.Faithful) (h : ∀ n, ¬ Oversized t a n) :
    ∃ v, encode t a = .ok v := by
  cases ht with
  | plain ht =>
    obtain ⟨v, hv, -⟩ := encode_plain ht h
    exact ⟨v, hv⟩
  | option ht =>
    cases a with
    | none => exact ⟨.nil, rfl⟩
    | some a =>
      obtain ⟨v, hv, -⟩ := encode_plain ht fun n hn => h n (.option hn)
      exact ⟨v, hv⟩

variable {codec : CodecConfig} {ids : Identities τ}

theorem decode_option_of_ne_nil (hv : v ≠ .nil) :
    decode codec ids (.option t) v = (decode codec ids t v).map some := by
  cases v with
  | nil => exact absurd rfl hv
  | _ => rfl

theorem decode_option_eq_ok_iff {r : Option t.Native} :
    decode codec ids (.option t) v = .ok r ↔
      (v = .nil ∧ r = none) ∨ (v ≠ .nil ∧ ∃ a, decode codec ids t v = .ok a ∧ r = some a) := by
  by_cases hv : v = .nil
  · subst hv
    have hNil : decode codec ids (.option t) .nil = .ok none := rfl
    rw [hNil]
    constructor
    · rintro ⟨⟩
      exact .inl ⟨rfl, rfl⟩
    · rintro (⟨-, rfl⟩ | ⟨hne, -⟩)
      · rfl
      · exact absurd rfl hne
  · rw [decode_option_of_ne_nil hv]
    cases hDecode : decode codec ids t v with
    | error found => simp [Except.map, hv]
    | ok a => simp [Except.map, hv, eq_comm]

theorem decode_option_eq_error_iff {found : String} :
    decode codec ids (.option t) v = .error found ↔
      v ≠ .nil ∧ decode codec ids t v = .error found := by
  by_cases hv : v = .nil
  · subst hv
    exact ⟨nofun, fun h => absurd rfl h.1⟩
  · rw [decode_option_of_ne_nil hv]
    cases decode codec ids t v with
    | error e => simp [Except.map, hv]
    | ok a => simp [Except.map]

theorem decode_integer_le {u : IntegerType} {n : Bounded u}
    (h : decode codec ids (.integer u) v = .ok n) : n.val ≤ Int64.maxValue.toInt := by
  rw [decode] at h
  split at h
  · cases h
  · rename_i i hWhole
    split at h
    · rename_i m hBounded
      cases h
      rw [Bounded.ofInt?_eq_some_iff.mp hBounded]
      exact i.toInt_le
    · cases h

/-- What holds of all that decodes at plain types, of nothing, and of an option if of what it holds,
holds of all that decodes at faithful types. -/
theorem decoded_induction {P : (t : NativeType τ) → t.Native → Prop}
    (plain : ∀ (t : NativeType τ) (a : t.Native), t.Plain → decode codec ids t v = .ok a → P t a)
    (none : ∀ t : NativeType τ, v = .nil → P (.option t) none)
    (some : ∀ (t : NativeType τ) (a : t.Native), P t a → P (.option t) (some a))
    (ht : t.Faithful) (h : decode codec ids t v = .ok a) : P t a := by
  cases ht with
  | plain ht => exact plain t a ht h
  | @option t ht =>
    rcases decode_option_eq_ok_iff.mp h with ⟨hNil, rfl⟩ | ⟨-, a, hDecode, rfl⟩
    · exact none t hNil
    · exact some t a (plain t a ht hDecode)

/-- A decoded integer is one that scripts have, since it was one of theirs. -/
theorem not_oversized_of_decode (ht : t.Faithful) (h : decode codec ids t v = .ok a) :
    ∀ n, ¬ Oversized t a n := by
  refine decoded_induction (P := fun t a => ∀ n, ¬ Oversized t a n) ?plain ?none ?some ht h
  case plain =>
    rintro t a ht h n (hn | hn)
    · exact Int.not_lt.mpr (decode_integer_le h) hn
    · cases ht
  case none =>
    rintro t hNil n ⟨⟩
  case some =>
    rintro t a ih n (_ | hn)
    exact ih n hn

end Codec

end Types

variable {N : Natives}

/-- What a native value refers to, if it refers to an object, is stamped as its type says. -/
def State.Vouches (s : State N) : (t : NativeType N.ObjectType) → t.Native → Prop
  | .object t, r => s.Checked t (.userdata r.block) r.block
  | .option t, some a => s.Vouches t a
  | _, _ => True

namespace Codec

variable {codec : CodecConfig} {s : State N} {t : NativeType N.ObjectType} {a : t.Native} {v : Value}

theorem decode_encode_plain (ht : t.Plain) (hs : s.Vouches t a) (h : encode t a = .ok v) :
    decode codec s.identities t v = .ok a := by
  cases ht with
  | integer t =>
    rw [encode] at h
    split at h
    · rename_i i hInt
      cases h
      have hBounded : Bounded.ofInt? t i.toInt = some a :=
        Bounded.ofInt?_eq_some_iff.mpr (int64?_eq_some_iff.mp hInt).symm
      rw [decode, wholeNumber?]
      simp only [hBounded]
    · cases h
  | text =>
    cases h
    simp only [decode, Value.ofText, text, textOf, fromUTF8?_toUTF8]
  | view =>
    cases h
    simp only [decode, Value.ofText, textOf, fromUTF8?_toUTF8, Except.map]
  | object t =>
    cases h
    exact (State.decode_eq_ok_iff codec).mpr hs
  | _ =>
    cases h
    rfl

theorem decode_encode (ht : t.Faithful) (hs : s.Vouches t a) (h : encode t a = .ok v) :
    decode codec s.identities t v = .ok a := by
  cases ht with
  | plain ht => exact decode_encode_plain ht hs h
  | option ht =>
    refine decode_option_eq_ok_iff.mpr ?_
    cases a with
    | none =>
      cases h
      exact .inl ⟨rfl, rfl⟩
    | some a =>
      have h : encode _ a = .ok v := h
      have hDecode : decode codec s.identities _ v = .ok a := decode_encode_plain ht hs h
      refine .inr ⟨?_, a, hDecode, rfl⟩
      -- nil would be read as no value, but no value of a plain type is encoded as nil
      rintro rfl
      obtain ⟨w, hw, hNotNil⟩ := encode_plain ht (not_oversized_of_decode (.plain ht) hDecode)
      rw [h] at hw
      exact hNotNil (Except.ok.inj hw).symm

theorem vouches_of_decode (ht : t.Faithful) (h : decode codec s.identities t v = .ok a) :
    s.Vouches t a := by
  refine decoded_induction (P := fun t a => s.Vouches t a) ?plain ?none ?some ht h
  case plain =>
    intro t a ht h
    cases ht with
    | object t =>
      obtain ⟨identifier, hIdentifier, hStamped⟩ := (State.decode_eq_ok_iff codec).mp h
      obtain ⟨rfl, -⟩ := Identities.stamped_eq_ok_iff.mp hStamped
      exact ⟨identifier, hIdentifier, hStamped⟩
    | _ => exact True.intro
  case none => exact fun _ _ => True.intro
  case some => exact fun _ _ ih => ih

theorem encode_of_decode (ht : t.Faithful) (h : decode codec s.identities t v = .ok a) :
    ∃ w, encode t a = .ok w ∧ decode codec s.identities t w = .ok a := by
  obtain ⟨w, hw⟩ := encode_faithful ht (not_oversized_of_decode ht h)
  exact ⟨w, hw, decode_encode ht (vouches_of_decode ht h) hw⟩

theorem toUTF8_of_textOf {bytes : ByteArray} {text : String} (h : textOf bytes = .ok text) :
    text.toUTF8 = bytes := by
  unfold textOf String.fromUTF8? at h
  split at h
  · rename_i hText
    split at hText
    · cases h
      cases hText
      rfl
    · cases hText
  · cases h

/-- Text that came as a string goes back as the same bytes. -/
theorem encode_decode_string (ht : t.Faithful) {bytes : ByteArray}
    (h : decode codec s.identities t (.string bytes) = .ok a) :
    t.kind = .string ∨ t.kind = .stringView → encode t a = .ok (.string bytes) := by
  refine decoded_induction (P := fun t a => t.kind = .string ∨ t.kind = .stringView →
    encode t a = .ok (.string bytes)) ?plain ?none ?some ht h
  case plain =>
    intro t a ht h hKind
    cases ht with
    | text => rw [encode, Value.ofText, toUTF8_of_textOf h]
    | view =>
      rw [decode] at h
      cases hText : textOf bytes with
      | error found =>
        rw [hText] at h
        cases h
      | ok text =>
        rw [hText] at h
        cases h
        rw [encode, Value.ofText, toUTF8_of_textOf hText]
    | _ => rcases hKind with hKind | hKind <;> cases hKind
  case none => rintro t ⟨⟩
  case some => exact fun _ _ ih => ih

end Codec

def Callable.identity (shape : FreeShape) (t : NativeType N.ObjectType) : Callable N :=
  ⟨[t], .value t, .free shape fun as => .done as.1⟩

section Identity

variable {call : Caller N} {codec : CodecConfig} {s : State N} {t : NativeType N.ObjectType}
  {shape : FreeShape} {name : String} {v : Value}

theorem run_identity_of_decode {a : t.Native} {w : Value}
    (hDecode : Codec.decode codec s.identities t v = .ok a) (hEncode : Codec.encode t a = .ok w) :
    (EntryPoint.enter call ⟨name, .identity shape t, codec⟩ [v]).run s = (.ok [w], s.countCall) := by
  have hRule : GateRule ⟨name, .identity shape t, codec⟩ s.countCall [v] (.ok (none, (a, ()))) :=
    .freeBody rfl ⟨hDecode, rfl⟩
  rw [EntryPoint.run_enter_of_evaluate (Callable.run_evaluate_free rfl hRule.verdict_eq)]
  change (EntryPoint.answer _ (Frame.pushResult _ (.value t) a)).run _ = _
  rw [Frame.pushResult_eq, ReturnType.encode, hEncode]
  rfl

theorem run_identity_of_error {found : String}
    (hDecode : Codec.decode codec s.identities t v = .error found) :
    ((EntryPoint.enter call ⟨name, .identity shape t, codec⟩ [v]).run s).1 =
      .error ((BridgeError.typeMismatch codec 1 t.kind found).inFunction name) := by
  have hLeast : LeftmostUndecodable codec s.identities [t] [v] 0 t found :=
    ⟨rfl, ⟨v, rfl, hDecode⟩, nofun⟩
  have hRule : GateRule ⟨name, .identity shape t, codec⟩ s [v] _ := .freeArgument rfl rfl hLeast
  rw [(EntryPoint.enter_refused call hRule.verdict_eq).1]

end Identity

/-- Whatever the settings, a native value goes to scripts and comes back as it was, unless it is an
unsigned integer beyond theirs, which is refused by name. A value that was decoded is never refused,
and a string that was decoded as text goes back as the same bytes; so a callable that gives its
argument back fails for arguments that do not decode alone, and is idempotent. -/
theorem codec_round_trip (codec : CodecConfig) (s : State N) {t : NativeType N.ObjectType}
    (ht : t.Faithful) :
    (∀ a : t.Native, s.Vouches t a →
      (∀ n, Oversized t a n → Codec.encode t a = .error (.outOfRange n)) ∧
      ((∀ n, ¬ Oversized t a n) →
        ∃ v, Codec.encode t a = .ok v ∧ Codec.decode codec s.identities t v = .ok a)) ∧
    (∀ (v : Value) (a : t.Native), Codec.decode codec s.identities t v = .ok a →
      (∃ w, Codec.encode t a = .ok w ∧ Codec.decode codec s.identities t w = .ok a) ∧
      (t.kind = .string ∨ t.kind = .stringView → ∀ bytes, v = .string bytes →
        Codec.encode t a = .ok (.string bytes))) ∧
    ∀ (call : Caller N) (name : String) (shape : FreeShape) (v : Value),
      let e : EntryPoint N := ⟨name, .identity shape t, codec⟩
      let once := (e.enter call [v]).run s
      (∃ a w, Codec.decode codec s.identities t v = .ok a ∧ Codec.encode t a = .ok w ∧
        once.1 = .ok [w] ∧ ((e.enter call [w]).run once.2).1 = .ok [w]) ∨
        ∃ found, Codec.decode codec s.identities t v = .error found ∧
          once.1 = .error ((BridgeError.typeMismatch codec 1 t.kind found).inFunction name) := by
  refine ⟨fun a hs => ⟨fun n => Codec.encode_oversized, fun hn => ?_⟩, fun v a h => ⟨?_, ?_⟩,
    fun call name shape v => ?_⟩
  · obtain ⟨v, hv⟩ := Codec.encode_faithful ht hn
    exact ⟨v, hv, Codec.decode_encode ht hs hv⟩
  · exact Codec.encode_of_decode ht h
  · rintro hKind bytes rfl
    exact Codec.encode_decode_string ht h hKind
  · cases hDecode : Codec.decode codec s.identities t v with
    | error found => exact .inr ⟨found, rfl, run_identity_of_error hDecode⟩
    | ok a =>
      obtain ⟨w, hEncode, hAgain⟩ := Codec.encode_of_decode ht hDecode
      refine .inl ⟨a, w, rfl, hEncode, ?_⟩
      rw [run_identity_of_decode hDecode hEncode]
      -- counting a call changes nothing that decoding looks at
      have hAgain : Codec.decode codec s.countCall.identities t w = .ok a := hAgain
      rw [run_identity_of_decode hAgain hEncode]
      exact ⟨rfl, rfl⟩

theorem codec_round_trip_account :
    let s := Sample.accountHost "deposit" Sample.deposit
    let account : Sample.Param := .option (.object .account)
    let wide : Sample.Param := .option (.integer (.unsigned .bits64))
    let beyond : Bounded (.unsigned .bits64) := ⟨9223372036854775808, by decide, by decide⟩
    account.Faithful ∧ wide.Faithful ∧ s.Vouches account (some ⟨0⟩) ∧
      (∃ v, Codec.encode account (some ⟨0⟩) = .ok v ∧
        Codec.decode {} s.identities account v = .ok (some ⟨0⟩)) ∧
      Oversized wide (some beyond) beyond.val ∧
      Codec.encode wide (some beyond) = .error (.outOfRange beyond.val) := by
  intro s account wide beyond
  have hAccount : account.Faithful := .option (.object _)
  have hWide : wide.Faithful := .option (.integer _)
  have hVouches : s.Vouches account (some ⟨0⟩) :=
    ⟨"Account", rfl, Identities.stamped_eq_ok_iff.mpr ⟨rfl, State.stamp?_of_text rfl⟩⟩
  have hOversized : Oversized wide (some beyond) beyond.val := .option (.unsigned (by decide))
  have hNot (n : Int) : ¬ Oversized (.option (.object Sample.ObjectType.account)) (some ⟨0⟩) n := by
    rintro (_ | hn)
    cases hn
  obtain ⟨hThere, -⟩ := codec_round_trip {} s hAccount
  obtain ⟨hRefused, -⟩ := codec_round_trip {} s hWide
  exact ⟨hAccount, hWide, hVouches, (hThere _ hVouches).2 hNot, hOversized,
    (hRefused (some beyond) True.intro).1 _ hOversized⟩

end ScriptBridge
