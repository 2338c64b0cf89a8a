import ScriptBridge.Proofs.Codec.RoundTrip
import ScriptBridge.Proofs.Gates.Alike

/-!
# Wider settings

The settings of the codec are ordered field by field. The order is that of what they accept: under
wider settings more script values decode, and those that decoded before decode to the same. So a
call that gets through to its body under some settings gets through under all wider ones, on the
same arguments.
-/
namespace ScriptBridge
set_option autoImplicit false

/-- Cutting a fraction off accepts more numbers than refusing it. -/
instance : LE IntegerCoercion := ⟨fun c c' => c = .truncate → c' = .truncate⟩

instance : LE CodecConfig where
  le c c' := c.integerCoercion ≤ c'.integerCoercion ∧ c.numberToString ≤ c'.numberToString ∧
    c.stringToNumber ≤ c'.stringToNumber

theorem Binary.truncate?_of_toInt? {w : Width} {x : Binary w} {i : Int} (h : x.toInt? = some i) :
    x.truncate? = some i := by
  unfold toInt? at h
  split at h
  · rename_i hWhole
    simp only [Bool.and_eq_true, beq_iff_eq] at hWhole
    obtain ⟨hFinite, hMod⟩ := hWhole
    rw [truncate?, if_pos hFinite, Int.tdiv_eq_ediv_of_dvd (Int.dvd_of_emod_eq_zero hMod)]
    exact h
  · cases h

namespace Codec

variable {codec wider : CodecConfig} {τ : Type} {ids : Identities τ} {t : NativeType τ} {v : Value}

theorem floatToInteger?_mono {c c' : IntegerCoercion} (h : c ≤ c') {x : Binary64} {i : Int64}
    (hx : floatToInteger? c x = some i) : floatToInteger? c' x = some i := by
  cases c with
  | truncate =>
    obtain rfl : c' = .truncate := h rfl
    exact hx
  | exact =>
    cases c' with
    | exact => exact hx
    | truncate =>
      obtain ⟨n, hn, hi⟩ := Option.bind_eq_some_iff.mp hx
      exact Option.bind_eq_some_iff.mpr ⟨n, Binary.truncate?_of_toInt? hn, hi⟩

theorem wholeNumber?_mono (h : codec ≤ wider) {i : Int64} (hv : wholeNumber? codec v = some i) :
    wholeNumber? wider v = some i := by
  obtain ⟨hCoercion, -, hStrings⟩ := h
  cases v with
  | integer j => exact hv
  | number x => exact floatToInteger?_mono hCoercion hv
  | string bytes =>
    simp only [wholeNumber?] at hv ⊢
    split at hv
    · rename_i hRead
      rw [if_pos (hStrings hRead)]
      -- a numeral that is a whole number is taken as it is; only other ones are coerced
      cases hWhole : (Value.string bytes).coerceInteger? with
      | some j =>
        rw [hWhole] at hv
        exact hv
      | none =>
        rw [hWhole] at hv
        obtain ⟨x, hx, hi⟩ := Option.bind_eq_some_iff.mp hv
        exact Option.bind_eq_some_iff.mpr ⟨x, hx, floatToInteger?_mono hCoercion hi⟩
    · cases hv
  | _ => cases hv

theorem float?_mono (h : codec ≤ wider) {x : Binary64} (hv : float? codec v = some x) :
    float? wider v = some x := by
  cases v with
  | string bytes =>
    simp only [float?] at hv ⊢
    split at hv
    · rename_i hRead
      rw [if_pos (h.2.2 hRead)]
      exact hv
    · cases hv
  | _ => exact hv

theorem text_mono (h : codec ≤ wider) {s : String} (hv : text codec v = .ok s) :
    text wider v = .ok s := by
  by_cases hWritten : codec.numberToString = true
  · have hAlike : text wider v = text codec v := by
      unfold text
      rw [hWritten, h.2.1 hWritten]
    exact hAlike.trans hv
  · cases v with
    | string bytes => exact hv
    | _ =>
      unfold text at hv
      rw [if_neg hWritten] at hv
      cases hv

/-- What decodes, decodes under wider settings to the same. -/
theorem decode_mono (h : codec ≤ wider) {a : t.Native} (hv : decode codec ids t v = .ok a) :
    decode wider ids t v = .ok a := by
  induction t generalizing v with
  | integer t =>
    rw [decode] at hv ⊢
    cases hWhole : wholeNumber? codec v with
    | none =>
      rw [hWhole] at hv
      cases hv
    | some i =>
      rw [hWhole] at hv
      rw [wholeNumber?_mono h hWhole]
      exact hv
  | float w =>
    rw [decode] at hv ⊢
    cases hFloat : float? codec v with
    | none =>
      rw [hFloat] at hv
      cases hv
    | some x =>
      rw [hFloat] at hv
      rw [float?_mono h hFloat]
      exact hv
  | text => exact text_mono h hv
  | option t ih =>
    refine decode_option_eq_ok_iff.mpr ?_
    rcases decode_option_eq_ok_iff.mp hv with hNil | ⟨hNotNil, b, hDecode, hSome⟩
    · exact .inl hNil
    · exact .inr ⟨hNotNil, b, ih hDecode, hSome⟩
  | _ => exact hv

end Codec

namespace Frame

variable {τ : Type} {ids : Identities τ} {f : Frame} {wider : CodecConfig}

def under (f : Frame) (codec : CodecConfig) : Frame := { f with codec := codec }

theorem decode_eq_ok_iff {t : NativeType τ} {position : Nat} {a : t.Native} :
    f.decode ids t position = .ok a ↔
      Codec.decode f.codec ids t ((f.value? position).getD .nil) = .ok a := by
  unfold decode
  split <;> simp [*]

theorem decode_mono (h : f.codec ≤ wider) {t : NativeType τ} {position : Nat} {a : t.Native}
    (hDecode : f.decode ids t position = .ok a) :
    (f.under wider).decode ids t position = .ok a :=
  decode_eq_ok_iff.mpr (Codec.decode_mono h (decode_eq_ok_iff.mp hDecode))

theorem decodeArgs_mono (h : f.codec ≤ wider) {ts : List (NativeType τ)} {first : Nat}
    {as : Args ts} (hArgs : f.decodeArgs ids first ts = .ok as) :
    (f.under wider).decodeArgs ids first ts = .ok as := by
  induction ts generalizing first with
  | nil => exact hArgs
  | cons t ts ih =>
    obtain ⟨a, hFirst, hRest⟩ := bind_eq_ok_iff.mp hArgs
    obtain ⟨rest, hRest, hAll⟩ := bind_eq_ok_iff.mp hRest
    refine bind_eq_ok_iff.mpr ⟨a, decode_mono h hFirst, ?_⟩
    exact bind_eq_ok_iff.mpr ⟨rest, ih hRest, hAll⟩

end Frame

variable {N : Natives} {call : Caller N} {s : State N}

namespace Callable

variable {c : Callable N} {f g : Frame} {r : Option Nat} {as : Args c.params}

/-- Only the arguments are read under the settings: counting them and the check of the receiver do
not depend on them. -/
theorem verdict_mono {wider : CodecConfig} (h : f.codec ≤ wider)
    (hAdmitted : c.verdict s f = .ok (r, as)) : c.verdict s (f.under wider) = .ok (r, as) := by
  cases hBody : c.body with
  | free shape body =>
    obtain ⟨rfl, hGates⟩ := admitted_free hBody hAdmitted
    obtain ⟨_, hCount, hArgs⟩ := bind_eq_ok_iff.mp hGates
    have hCount : (f.under wider).checkArity c.params.length = .ok () := hCount
    simp only [verdict, hBody, hCount, Frame.decodeArgs_mono h hArgs, ok_bind]
    rfl
  | shared owner body =>
    obtain ⟨block, o, rfl, hGates, hObject, hArgs⟩ := admitted_shared hBody hAdmitted
    have hGates : (do
        (f.under wider).checkArity (c.params.length + 1)
        (f.under wider).receiver s.identities owner 1) = .ok block := hGates
    simp only [verdict, hBody, hGates, hObject, Frame.decodeArgs_mono h hArgs, ok_bind]
    rfl
  | exclusive owner body =>
    obtain ⟨block, o, rfl, hGates, hObject⟩ := admitted_exclusive hBody hAdmitted
    obtain ⟨_, hCount, hGates⟩ := bind_eq_ok_iff.mp hGates
    obtain ⟨b, hReceiver, hGates⟩ := bind_eq_ok_iff.mp hGates
    obtain ⟨bs, hArgs, hBoth⟩ := bind_eq_ok_iff.mp hGates
    cases hBoth
    have hCount : (f.under wider).checkArity (c.params.length + 1) = .ok () := hCount
    have hReceiver : (f.under wider).receiver s.identities owner 1 = .ok block := hReceiver
    simp only [verdict, hBody, hCount, hReceiver, hObject, Frame.decodeArgs_mono h hArgs, ok_bind,
      pure_eq_ok]

/-- A body sees nothing of the frame but what it is let through with. -/
theorem run_evaluate_congr (hf : c.verdict s f = .ok (r, as)) (hg : c.verdict s g = .ok (r, as)) :
    (c.evaluate call f).run s = (c.evaluate call g).run s := by
  cases hBody : c.body with
  | free shape body => rw [run_evaluate_free hBody hf, run_evaluate_free hBody hg]
  | shared owner body =>
    obtain ⟨block, o, rfl, -, hObject, -⟩ := admitted_shared hBody hf
    rw [run_evaluate_shared hBody hf hObject, run_evaluate_shared hBody hg hObject]
  | exclusive owner body =>
    obtain ⟨block, o, rfl, -, hObject⟩ := admitted_exclusive hBody hf
    obtain ⟨h, hLend, hShown⟩ := State.objectFor_eq_ok_iff.mp hObject
    rw [run_evaluate_exclusive hBody hf hLend hShown, run_evaluate_exclusive hBody hg hLend hShown]

end Callable

namespace EntryPoint

variable {e : EntryPoint N} {args : List Value}

def under (e : EntryPoint N) (codec : CodecConfig) : EntryPoint N := { e with codec := codec }

/-- Results are pushed alike under all settings. -/
theorem run_answer_under (codec : CodecConfig) (a : e.callable.returns.Native) :
    ((e.under codec).answer (((e.under codec).frame args).pushResult e.callable.returns a)).run s =
      (e.answer ((e.frame args).pushResult e.callable.returns a)).run s := by
  rw [Frame.pushResult_eq, Frame.pushResult_eq]
  cases e.callable.returns.encode a <;> rfl

/-- Settings that let a call through to the same end with it alike. -/
theorem run_enter_under {wider : CodecConfig} {r : Option Nat} {as : Args e.callable.params}
    (hCall : ∀ g vs, Quiet 1 (call g vs)) (h : e.codec ≤ wider)
    (hAdmitted : e.callable.verdict s (e.frame args) = .ok (r, as)) :
    ((e.under wider).enter call args).run s = (e.enter call args).run s := by
  have hCounted : e.callable.verdict s.countCall (e.frame args) = .ok (r, as) := hAdmitted
  have hWider := Callable.verdict_mono h hCounted
  obtain ⟨⟨a, hResult⟩, -⟩ := Callable.evaluate_admitted hCall hCounted
  have hRun : (e.callable.evaluate call (e.frame args)).run s.countCall =
    (.ok a, ((e.callable.evaluate call (e.frame args)).run s.countCall).2) := Prod.ext hResult rfl
  have hRunWider : ((e.under wider).callable.evaluate call ((e.under wider).frame args)).run
      s.countCall = _ := (Callable.run_evaluate_congr hWider hCounted).trans hRun
  have hEnter : ((e.under wider).enter call args).run s = _ := run_enter_of_evaluate hRunWider
  rw [run_enter_of_evaluate hRun, hEnter]
  exact run_answer_under wider a

end EntryPoint

/-- Wider settings accept more and change nothing of what was accepted before: a value that decodes,
decodes to the same, whatever the type, and a call whose body runs, runs it on the same receiver and
arguments and ends as it did. -/
theorem wider_settings_accept {codec wider : CodecConfig} (h : codec ≤ wider) :
    (∀ {τ : Type} (ids : Identities τ) (t : NativeType τ) (v : Value) (a : t.Native),
      Codec.decode codec ids t v = .ok a → Codec.decode wider ids t v = .ok a) ∧
    ∀ (s : State N) (name : String) (c : Callable N) (depth : Nat) (args : List Value)
      (r : Option Nat) (as : Args c.params),
      let call := EntryPoint.enter (callWith depth) ⟨name, c, codec⟩ args
      let widened := EntryPoint.enter (callWith depth) ⟨name, c, wider⟩ args
      ownBodies (call.trace s) = [⟨c, r, as⟩] →
        ownBodies (widened.trace s) = [⟨c, r, as⟩] ∧ widened.run s = call.run s := by
  refine ⟨fun ids t v a => Codec.decode_mono h, fun s name c depth args r as => ?_⟩
  intro call widened hBodies
  let e : EntryPoint N := ⟨name, c, codec⟩
  have hQuiet := callWith_quiet (N := N) depth
  cases hVerdict : c.verdict s (e.frame args) with
  | error err =>
    have hNone := (EntryPoint.enter_refused (e := e) (callWith depth) hVerdict).2
    rw [hBodies] at hNone
    cases hNone
  | ok admitted =>
    obtain ⟨r', as'⟩ := admitted
    have hRan := (EntryPoint.enter_admitted (e := e) hQuiet hVerdict).2
    rw [hBodies] at hRan
    cases hRan
    have hWider : c.verdict s ((e.under wider).frame args) = .ok (r, as) :=
      Callable.verdict_mono h hVerdict
    exact ⟨(EntryPoint.enter_admitted (e := e.under wider) hQuiet hWider).2,
      EntryPoint.run_enter_under (e := e) hQuiet h hVerdict⟩

theorem wider_settings_accept_deposit :
    let s := Sample.accountHost "deposit" Sample.deposit
    let wider : CodecConfig := { integerCoercion := .truncate, stringToNumber := true }
    let args : List Value := [.userdata 0, .integer 3]
    let call := EntryPoint.enter (callWith 0) ⟨"deposit", Sample.deposit, {}⟩ args
    let widened := EntryPoint.enter (callWith 0) ⟨"deposit", Sample.deposit, wider⟩ args
    ({} : CodecConfig) ≤ wider ∧
      (call.run s).1 = .ok [.integer 8] ∧ widened.run s = call.run s := by
  intro s wider args call widened
  have h : ({} : CodecConfig) ≤ wider := ⟨nofun, by decide, by decide⟩
  obtain ⟨-, hCalls⟩ := wider_settings_accept (N := sampleNatives) h
  exact ⟨h, rfl, (hCalls s "deposit" Sample.deposit 0 args (some 0) _ rfl).2⟩

end ScriptBridge
