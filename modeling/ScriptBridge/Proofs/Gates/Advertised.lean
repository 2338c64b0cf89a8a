import ScriptBridge.Proofs.Gates.Entry

/-!
# What a signature tells

The signature of a callable is computed from its types alone. Calls keep to it: the errors of the
gates give counts, positions and kinds as the signature has them, a call that succeeds pushes as
many values as the signature says, and one that fails leaves its frame as it was.
-/
namespace ScriptBridge
set_option autoImplicit false

@[simp] theorem NativeType.resultCount_kind {τ : Type} (t : NativeType τ) :
    t.kind.resultCount = 1 := by
  induction t with
  | option t ih => exact ih
  | _ => rfl

theorem ReturnType.length_of_encode {τ : Type} {r : ReturnType τ} {a : r.Native} {vs : List Value}
    (h : r.encode a = .ok vs) : vs.length = r.kind.resultCount := by
  induction r with
  | nothing =>
    cases h
    rfl
  | value t =>
    rw [encode] at h
    cases hEncode : Codec.encode t a with
    | error e =>
      rw [hEncode] at h
      cases h
    | ok v =>
      rw [hEncode] at h
      cases h
      exact t.resultCount_kind.symm
  | fallible r ih =>
    cases a with
    | ok a => exact ih h
    | error message => cases h

namespace Callable

variable {N : Natives} {c : Callable N} {s : State N} {owner : N.ObjectType} {i : Nat}
  {t : NativeType N.ObjectType}

/-- What the signature says of the causes that calls fail with. -/
def Accounts (c : Callable N) : Cause → Prop
  | .arity expected _ => expected = c.signature.params.length
  | .typeMismatch index expected _ =>
    1 ≤ index ∧ index ≤ c.arity ∧ c.signature.params[index - 1]? = some expected
  | .receiverType .. => c.isMember = true ∧ c.signature.params[0]? = some .object
  | _ => True

/-- An invocation on `f` that ends so keeps to the signature: it has pushed the results that it
counts and the signature tells, or its error is accounted for and the frame is as it was. -/
def KeepsTo (c : Callable N) (f : Frame) : Except BridgeError Nat × Frame → Prop
  | (.ok count, after) => count = c.signature.returns.resultCount ∧
      ∃ vs : List Value, vs.length = count ∧ after = { f with results := f.results ++ vs }
  | (.error err, after) => c.Accounts err.cause ∧ after = f

theorem params_of_free (h : c.owner? = none) :
    c.signature.params = c.params.map NativeType.kind := by
  rw [signature, h]

theorem params_of_member (h : c.owner? = some owner) :
    c.signature.params = .object :: c.params.map NativeType.kind := by
  rw [signature, h]

theorem accounts_of_ofBody {cause : Cause} (h : cause.OfBody) : c.Accounts cause := by
  cases cause with
  | native message => exact True.intro
  | outOfRange value => exact True.intro
  | _ => exact h.elim

theorem accounts_count (hOwner : c.owner? = some owner) (found : Nat) :
    c.Accounts (.arity (c.params.length + 1) found) := by
  change _ = _
  rw [params_of_member hOwner, List.length_cons, List.length_map]

theorem accounts_position {index : Nat} {found : String} {expected : Kind}
    (h : c.signature.params[index]? = some expected) :
    c.Accounts (.typeMismatch (index + 1) expected found) :=
  ⟨Nat.le_add_left 1 index, (List.getElem?_eq_some_iff.mp h).1, h⟩

theorem accounts_argument {found : String} (hOwner : c.owner? = some owner)
    (h : c.params[i]? = some t) : c.Accounts (.typeMismatch (i + 2) t.kind found) := by
  -- the receiver is in front of the parameters
  refine accounts_position ?_
  rw [params_of_member hOwner, List.getElem?_cons_succ, List.getElem?_map, h, Option.map_some]

theorem keepsTo_pushResult (f : Frame) (a : c.returns.Native) :
    c.KeepsTo f (f.pushResult c.returns a) := by
  rw [Frame.pushResult_eq]
  cases hEncode : c.returns.encode a with
  | ok vs => exact ⟨ReturnType.length_of_encode hEncode, vs, rfl, rfl⟩
  | error err => exact ⟨accounts_of_ofBody (ReturnType.ofBody_of_encode_error hEncode), rfl⟩

theorem verdict_of_unregistered (hOwner : c.owner? = some owner)
    (hNone : s.registry.identityOf? owner = none) (f : Frame) :
    c.verdict s f = .error (.arity (c.params.length + 1) f.args.length) ∨
      c.verdict s f = .error (.unregisteredType (N.typeName owner)) := by
  by_cases hCount : f.args.length = c.params.length + 1
  · have hIdentifier : s.identities.identifier? owner = none := by
      change s.registry.identifier? owner = none
      rw [Registry.identifier?, hNone]
      rfl
    have hReceiver : f.receiver s.identities owner 1 =
        .error (.unregisteredType (N.typeName owner)) := by
      rw [Frame.receiver, hIdentifier]
      rfl
    right
    rcases body_of_member hOwner with ⟨run, hBody⟩ | ⟨run, hBody⟩
    · simp only [verdict, hBody, Frame.checkArity_of_eq hCount, hReceiver, ok_bind, error_bind]
    · simp only [verdict, hBody, Frame.checkArity_of_eq hCount, hReceiver, ok_bind, error_bind]
  · left
    rcases body_of_member hOwner with ⟨run, hBody⟩ | ⟨run, hBody⟩
    · simp only [verdict, hBody, Frame.checkArity_of_ne hCount, error_bind]
    · simp only [verdict, hBody, Frame.checkArity_of_ne hCount, error_bind]

end Callable

theorem GateRule.accounts {N : Natives} {e : EntryPoint N} {s : State N} {args : List Value}
    {err : BridgeError} (h : GateRule e s args (.error err)) : e.callable.Accounts err.cause := by
  cases h with
  | freeCount hFree _ =>
    change _ = _
    rw [Callable.params_of_free hFree, List.length_map]
  | freeArgument hFree _ hLeast =>
    refine Callable.accounts_position ?_
    rw [Callable.params_of_free hFree, List.getElem?_map, hLeast.type, Option.map_some]
  | count hOwner _ => exact Callable.accounts_count hOwner _
  | receiver hOwner =>
    refine ⟨Option.isSome_iff_exists.mpr ⟨_, hOwner⟩, ?_⟩
    rw [Callable.params_of_member hOwner, List.getElem?_cons_zero]
  | sharedArgument hOn _ hLeast => exact Callable.accounts_argument hOn.member.1 hLeast.type
  | exclusiveArgument hOn hLeast => exact Callable.accounts_argument hOn.member.1 hLeast.type
  | _ => exact True.intro

namespace EntryPoint

variable {N : Natives} {e : EntryPoint N} {s : State N} {args : List Value} {err : BridgeError}

/-- The rules of the gates leave out members of a type without an identity. -/
theorem gateRule_or_unregistered (h : e.callable.verdict s (e.frame args) = .error err) :
    GateRule e s args (.error err) ∨ ∃ owner, e.callable.owner? = some owner ∧
      (err = .arity (e.callable.params.length + 1) args.length ∨
        err = .unregisteredType (N.typeName owner)) := by
  have hOfRule (hOwner : ∀ t, e.callable.owner? = some t →
      (s.registry.identityOf? t).isSome = true) : GateRule e s args (.error err) := by
    obtain ⟨answer, hRule⟩ := GateRule.exists_of_identity args hOwner
    obtain rfl := h.symm.trans hRule.verdict_eq
    exact hRule
  cases hOwner : e.callable.owner? with
  | none => exact .inl (hOfRule fun t ht => by cases hOwner.symm.trans ht)
  | some owner =>
    cases hIdentity : s.registry.identityOf? owner with
    | some identity =>
      refine .inl (hOfRule fun t ht => ?_)
      obtain rfl := Option.some.inj (hOwner.symm.trans ht)
      exact Option.isSome_iff_exists.mpr ⟨identity, hIdentity⟩
    | none =>
      refine .inr ⟨owner, rfl, ?_⟩
      rcases Callable.verdict_of_unregistered hOwner hIdentity (e.frame args) with hArity | hType
      · exact .inl (Except.error.inj (h.symm.trans hArity))
      · exact .inr (Except.error.inj (h.symm.trans hType))

theorem accounts_of_verdict (h : e.callable.verdict s (e.frame args) = .error err) :
    e.callable.Accounts err.cause := by
  rcases gateRule_or_unregistered h with hRule | ⟨owner, hOwner, rfl | rfl⟩
  · exact hRule.accounts
  · exact Callable.accounts_count hOwner _
  · exact True.intro

theorem invoke_keepsTo (e : EntryPoint N) (s : State N) (args : List Value) (depth : Nat) :
    e.callable.KeepsTo (e.frame args)
      ((e.callable.invoke (callWith depth) (e.frame args)).run s).1 := by
  rw [Callable.run_invoke]
  cases hVerdict : e.callable.verdict s (e.frame args) with
  | error err =>
    rw [(Callable.evaluate_refused (callWith depth) hVerdict).1]
    exact ⟨accounts_of_verdict hVerdict, rfl⟩
  | ok admitted =>
    obtain ⟨⟨a, hResult⟩, -⟩ := Callable.evaluate_admitted (callWith_quiet depth) hVerdict
    rw [hResult]
    exact Callable.keepsTo_pushResult _ a

theorem enter_keepsTo (e : EntryPoint N) (s : State N) (args : List Value) (depth : Nat) :
    match ((e.enter (callWith depth) args).run s).1 with
    | .ok vs => vs.length = e.callable.signature.returns.resultCount
    | .error err => e.callable.Accounts err.cause := by
  have hKeeps := e.invoke_keepsTo s.countCall args depth
  rw [run_enter]
  generalize (e.callable.invoke (callWith depth) (e.frame args)).run s.countCall = last at hKeeps ⊢
  rcases last with ⟨⟨outcome, after⟩, s'⟩
  cases outcome with
  | error err =>
    change e.callable.Accounts (err.inFunction e.name).cause
    rw [BridgeError.cause_inFunction]
    exact hKeeps.1
  | ok count =>
    obtain ⟨hCount, vs, hLength, rfl⟩ := hKeeps
    exact hLength.trans hCount

end EntryPoint

/-- Every invocation keeps to the signature of the callable. The counts, positions and kinds in its
errors are those of the signature. It ends with as many results as the signature says and as it
counts itself, or fails and leaves the frame as it was, with nothing pushed. Calls through entry
points keep to it as well. -/
theorem signature_honoured {N : Natives} (c : Callable N) (s : State N) (codec : CodecConfig)
    (args : List Value) (name : String) (depth : Nat) :
    let f : Frame := { codec := codec, args := args }
    let ended := ((c.invoke (callWith depth) f).run s).1
    c.arity = c.signature.params.length ∧
    (match ended.1 with
      | .ok count =>
        ended.2.results.length = count ∧ count = c.signature.returns.resultCount
      | .error err => ended.2 = f ∧ c.Accounts err.cause) ∧
    match ((EntryPoint.enter (callWith depth) ⟨name, c, codec⟩ args).run s).1 with
    | .ok vs => vs.length = c.signature.returns.resultCount
    | .error err => c.Accounts err.cause := by
  intro f ended
  have hKeeps : c.KeepsTo f ended := EntryPoint.invoke_keepsTo ⟨name, c, codec⟩ s args depth
  refine ⟨rfl, ?_, EntryPoint.enter_keepsTo ⟨name, c, codec⟩ s args depth⟩
  rcases ended with ⟨outcome, after⟩
  cases outcome with
  | error err => exact ⟨hKeeps.2, hKeeps.1⟩
  | ok count =>
    obtain ⟨hCount, vs, hLength, rfl⟩ := hKeeps
    exact ⟨hLength, hCount⟩

end ScriptBridge
