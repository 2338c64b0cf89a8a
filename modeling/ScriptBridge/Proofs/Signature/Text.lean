import Mathlib.Data.List.TakeWhile
import ScriptBridge.Proofs.Host.Refusal
import ScriptBridge.Sample.Callables

/-!
# What the text of a signature tells

The text of a signature has the names that scripts have for kinds, so it tells two signatures apart
exactly if they differ for scripts. Views and owned text are strings to them: a callable that is
refused for a view in the place of text is shown with the signature that was requested.
-/
namespace ScriptBridge
set_option autoImplicit false

namespace Kind

/-- All kinds but those that codecs of users add. -/
def IsBuiltIn : Kind → Prop
  | custom _ => False
  | _ => True

instance : DecidablePred IsBuiltIn
  | custom _ => isFalse id
  | integer | number | boolean | stringView | string | object | void => isTrue True.intro

/-- The kind as scripts see it: a view is a string like any other. -/
def inScripts : Kind → Kind
  | stringView => string
  | k => k

variable {a b : Kind}

theorem isAlpha_of_mem_scriptName (h : a.IsBuiltIn) :
    ∀ c ∈ a.scriptName.toList, c.isAlpha = true := by
  cases a with
  | custom name => exact h.elim
  | _ => exact List.all_eq_true.mp (by decide)

theorem scriptName_eq_iff (ha : a.IsBuiltIn) (hb : b.IsBuiltIn) :
    a.scriptName = b.scriptName ↔ a.inScripts = b.inScripts := by
  cases a with
  | custom name => exact ha.elim
  | _ =>
    cases b with
    | custom name => exact hb.elim
    | _ => decide

theorem scriptName_ne_nil (h : a.IsBuiltIn) : a.scriptName.toList ≠ [] := by
  cases a with
  | custom name => exact h.elim
  | _ => decide

end Kind

namespace Signature

/-- Of kinds that are built in alone. -/
structure IsBuiltIn (s : Signature) : Prop where
  params : ∀ k ∈ s.params, k.IsBuiltIn
  returns : s.returns.IsBuiltIn

/-- The signature as scripts see it. -/
def inScripts (s : Signature) : Signature := ⟨s.params.map Kind.inScripts, s.returns.inScripts⟩

/-- What follows a parameter in the text: the other ones and the result. -/
def afterParam (returns : Kind) : List Kind → List Char
  | [] => ") -> ".toList ++ returns.scriptName.toList
  | k :: ks => ", ".toList ++ (k.scriptName.toList ++ afterParam returns ks)

variable {k l r t : Kind} {ks ls : List Kind} {a b : Signature}

theorem toList_intercalate_cons :
    (", ".intercalate ((k :: ks).map Kind.scriptName)).toList ++ ") -> ".toList ++
      r.scriptName.toList = k.scriptName.toList ++ afterParam r ks := by
  rw [String.toList_intercalate]
  induction ks generalizing k with
  | nil => simp [afterParam]
  | cons l ks ih =>
    have hRest := ih (k := l)
    simp only [List.map_cons, List.intercalate_cons_cons, List.append_assoc] at hRest ⊢
    rw [hRest, afterParam]

theorem toList_text_nil :
    (text ⟨[], r⟩).toList = '(' :: afterParam r [] := by
  simp [text, afterParam]

theorem toList_text_cons :
    (text ⟨k :: ks, r⟩).toList = '(' :: (k.scriptName.toList ++ afterParam r ks) := by
  rw [← toList_intercalate_cons]
  simp only [text, String.toList_append]
  rfl

/-- Words end where the letters do. -/
theorem words_append_inj {u v x y : List Char} (hu : ∀ c ∈ u, c.isAlpha = true)
    (hv : ∀ c ∈ v, c.isAlpha = true) (hx : x.takeWhile Char.isAlpha = [])
    (hy : y.takeWhile Char.isAlpha = []) (h : u ++ x = v ++ y) : u = v ∧ x = y := by
  have hWord : u = v := by
    have hTake := congrArg (List.takeWhile Char.isAlpha) h
    rwa [List.takeWhile_append_of_pos hu, List.takeWhile_append_of_pos hv, hx, hy,
      List.append_nil, List.append_nil] at hTake
  subst hWord
  exact ⟨rfl, List.append_cancel_left h⟩

theorem takeWhile_afterParam : (afterParam r ks).takeWhile Char.isAlpha = [] := by
  cases ks <;> rfl

theorem afterParam_inj (hk : ∀ k ∈ ks, k.IsBuiltIn) (hl : ∀ l ∈ ls, l.IsBuiltIn)
    (h : afterParam r ks = afterParam t ls) :
    ks.map Kind.scriptName = ls.map Kind.scriptName ∧ r.scriptName = t.scriptName := by
  induction ks generalizing ls with
  | nil =>
    cases ls with
    | nil => exact ⟨rfl, String.toList_injective (List.append_cancel_left h)⟩
    | cons l ls => exact absurd (List.cons.inj h).1 (by decide)
  | cons k ks ih =>
    cases ls with
    | nil => exact absurd (List.cons.inj h).1 (by decide)
    | cons l ls =>
      have hkWord := Kind.isAlpha_of_mem_scriptName (hk k List.mem_cons_self)
      have hlWord := Kind.isAlpha_of_mem_scriptName (hl l List.mem_cons_self)
      obtain ⟨hWord, hRest⟩ := words_append_inj hkWord hlWord takeWhile_afterParam
        takeWhile_afterParam (List.append_cancel_left h)
      obtain ⟨hNames, hReturns⟩ := ih (fun k hk' => hk k (List.mem_cons_of_mem _ hk'))
        (fun l hl' => hl l (List.mem_cons_of_mem _ hl')) hRest
      refine ⟨?_, hReturns⟩
      rw [List.map_cons, List.map_cons, hNames, String.toList_injective hWord]

/-- A parameter list that is not empty begins with a letter, where the empty one is closed. -/
theorem word_ne_afterParam (h : k.IsBuiltIn) :
    afterParam r [] ≠ k.scriptName.toList ++ afterParam t ls := by
  intro hSame
  cases hName : k.scriptName.toList with
  | nil => exact Kind.scriptName_ne_nil h hName
  | cons c cs =>
    have hAlpha : c.isAlpha = true :=
      Kind.isAlpha_of_mem_scriptName h c (hName ▸ List.mem_cons_self)
    rw [hName] at hSame
    rw [← (List.cons.inj hSame).1] at hAlpha
    exact absurd hAlpha (by decide)

theorem names_of_text_eq (ha : a.IsBuiltIn) (hb : b.IsBuiltIn) (h : a.text = b.text) :
    a.params.map Kind.scriptName = b.params.map Kind.scriptName ∧
      a.returns.scriptName = b.returns.scriptName := by
  have hChars := congrArg String.toList h
  obtain ⟨ks, r⟩ := a
  obtain ⟨ls, t⟩ := b
  cases ks with
  | nil =>
    cases ls with
    | nil =>
      rw [toList_text_nil, toList_text_nil] at hChars
      exact afterParam_inj ha.params hb.params (List.cons.inj hChars).2
    | cons l ls =>
      rw [toList_text_nil, toList_text_cons] at hChars
      exact absurd (List.cons.inj hChars).2 (word_ne_afterParam (hb.params l List.mem_cons_self))
  | cons k ks =>
    cases ls with
    | nil =>
      rw [toList_text_cons, toList_text_nil] at hChars
      exact absurd (List.cons.inj hChars).2.symm
        (word_ne_afterParam (ha.params k List.mem_cons_self))
    | cons l ls =>
      rw [toList_text_cons, toList_text_cons] at hChars
      -- one separator more makes both of them lists of further parameters
      refine afterParam_inj ha.params hb.params ?_
      rw [afterParam, afterParam, (List.cons.inj hChars).2]

theorem map_scriptName_eq_iff (hk : ∀ k ∈ ks, k.IsBuiltIn) (hl : ∀ l ∈ ls, l.IsBuiltIn) :
    ks.map Kind.scriptName = ls.map Kind.scriptName ↔
      ks.map Kind.inScripts = ls.map Kind.inScripts := by
  induction ks generalizing ls with
  | nil => rw [List.map_nil, List.map_nil, List.nil_eq, List.nil_eq, List.map_eq_nil_iff,
      List.map_eq_nil_iff]
  | cons k ks ih =>
    cases ls with
    | nil => simp
    | cons l ls =>
      have hHead := Kind.scriptName_eq_iff (hk k List.mem_cons_self) (hl l List.mem_cons_self)
      have hTail := ih (fun k hk' => hk k (List.mem_cons_of_mem _ hk'))
        (fun l hl' => hl l (List.mem_cons_of_mem _ hl'))
      rw [List.map_cons, List.map_cons, List.map_cons, List.map_cons, List.cons.injEq,
        List.cons.injEq, hHead, hTail]

theorem text_eq_iff (ha : a.IsBuiltIn) (hb : b.IsBuiltIn) :
    a.text = b.text ↔ a.inScripts = b.inScripts := by
  have hParams := map_scriptName_eq_iff ha.params hb.params
  have hReturns := Kind.scriptName_eq_iff ha.returns hb.returns
  rw [inScripts, inScripts, Signature.mk.injEq, ← hParams, ← hReturns]
  constructor
  · exact names_of_text_eq ha hb
  · rintro ⟨hNames, hName⟩
    rw [text, text, hNames, hName]

end Signature

/-- The texts of two signatures of built-in kinds differ exactly if the signatures differ for
scripts, which know views and text as strings alike. So a callable that is refused for its signature
is refused with two texts that differ, unless the request differs in views and text alone. -/
theorem mismatch_told_but_for_views {N : Natives} :
    (∀ a b : Signature, a.IsBuiltIn → b.IsBuiltIn →
      (a.text = b.text ↔ a.inScripts = b.inScripts)) ∧
    ∀ (codec : CodecConfig) (name : String) (c : Callable N) (requested : Signature) (s : State N),
      c.signature.IsBuiltIn → requested.IsBuiltIn → c.signature ≠ requested →
      ∃ expected found,
        (bindWithSignature codec name c requested).run s =
          (.error { cause := .signatureMismatch expected found, function := some name }, s) ∧
        (expected = found ↔ requested.inScripts = c.signature.inScripts) := by
  refine ⟨fun a b => Signature.text_eq_iff, ?_⟩
  intro codec name c requested s hFound hRequested hDiffer
  refine ⟨requested.text, c.signature.text, ?_, Signature.text_eq_iff hRequested hFound⟩
  rw [bindWithSignature, if_neg hDiffer]
  rfl

/-- The length of a view, requested with text for the view and, once more, without a parameter. -/
theorem mismatch_told_but_for_views_length :
    let s := Sample.accountHost "deposit" Sample.deposit
    let text : Signature := ⟨[.string], .integer⟩
    let none : Signature := ⟨[], .integer⟩
    Sample.viewLength.signature.IsBuiltIn ∧ text.IsBuiltIn ∧ none.IsBuiltIn ∧
      Sample.viewLength.signature ≠ text ∧ Sample.viewLength.signature ≠ none ∧
      (text.text = Sample.viewLength.signature.text) ∧
      ∃ expected found,
        (bindWithSignature {} "view_len" Sample.viewLength none).run s =
          (.error { cause := .signatureMismatch expected found, function := some "view_len" }, s) ∧
        expected ≠ found := by
  intro s text none
  have hFound : Sample.viewLength.signature.IsBuiltIn := ⟨by decide, True.intro⟩
  have hText : text.IsBuiltIn := ⟨by decide, True.intro⟩
  have hNone : none.IsBuiltIn := ⟨nofun, True.intro⟩
  have hDiffer : Sample.viewLength.signature ≠ none := by decide
  obtain ⟨hAlike, hRefused⟩ := mismatch_told_but_for_views (N := sampleNatives)
  obtain ⟨expected, found, hRun, hTold⟩ :=
    hRefused {} "view_len" Sample.viewLength none s hFound hNone hDiffer
  refine ⟨hFound, hText, hNone, by decide, hDiffer, (hAlike _ _ hText hFound).mpr rfl, expected,
    found, hRun, fun hSame => ?_⟩
  exact absurd (hTold.mp hSame) (by decide)

/-- Text is requested where a view is bound: the error shows the same text twice. -/
theorem mismatch_hidden_by_view :
    let s := Sample.accountHost "deposit" Sample.deposit
    let requested : Signature := ⟨[.string], .integer⟩
    requested.IsBuiltIn ∧ Sample.viewLength.signature.IsBuiltIn ∧
      Sample.viewLength.signature ≠ requested ∧
      (bindWithSignature {} "view_len" Sample.viewLength requested).run s =
        (.error
          { cause := .signatureMismatch "(string) -> integer" "(string) -> integer"
            function := some "view_len" }, s) := by
  refine ⟨⟨by decide, True.intro⟩, ⟨by decide, True.intro⟩, by decide, ?_⟩
  rfl

end ScriptBridge
