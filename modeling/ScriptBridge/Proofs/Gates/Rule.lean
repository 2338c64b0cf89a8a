import ScriptBridge.Proofs.Gates.Verdict

/-!
# The rules of the gates

Which verdict a call gets, as rules that speak of the arguments alone: how many there are, what the
first one is stamped, what the loans allow and how each value decodes. No two rules meet, and for a
callable whose owner has an identifier one of them always applies.
-/
namespace ScriptBridge
set_option autoImplicit false

/-- A value that is no userdata stamped `expected`, and what it is told to be. -/
inductive NotStamped {τ : Type} (ids : Identities τ) (expected : String) : Value → String → Prop where
  | otherStamp {block : Nat} {stamp : String} (hStamp : ids.stamp? block = some stamp)
      (hne : stamp ≠ expected) : NotStamped ids expected (.userdata block) stamp
  | noStamp {block : Nat} (hStamp : ids.stamp? block = none) :
      NotStamped ids expected (.userdata block) "userdata"
  | noUserdata {v : Value} (hv : ∀ block, v ≠ .userdata block) : NotStamped ids expected v v.typeName

namespace Identities

variable {τ : Type} {ids : Identities τ} {expected found : String} {v : Value} {block : Nat}

theorem stamped_eq_ok_iff :
    ids.stamped expected v = .ok block ↔
      v = .userdata block ∧ ids.stamp? block = some expected := by
  constructor
  · intro h
    unfold stamped at h
    split at h
    · split at h
      · rename_i stamp hStamp
        split at h
        · rename_i he
          cases h
          exact ⟨rfl, he ▸ hStamp⟩
        · cases h
      · cases h
    · cases h
  · rintro ⟨rfl, hStamp⟩
    simp [stamped, hStamp]

theorem stamped_eq_error_iff :
    ids.stamped expected v = .error found ↔ NotStamped ids expected v found := by
  constructor
  · intro h
    unfold stamped at h
    split at h
    · split at h
      · rename_i stamp hStamp
        split at h
        · cases h
        · rename_i hne
          cases h
          exact .otherStamp hStamp hne
      · rename_i hStamp
        cases h
        exact .noStamp hStamp
    · rename_i hv
      cases h
      exact .noUserdata hv
  · intro h
    cases h with
    | otherStamp hStamp hne => simp [stamped, hStamp, hne]
    | noStamp hStamp => simp [stamped, hStamp]
    | noUserdata hv =>
      unfold stamped
      split
      · exact absurd rfl (hv _)
      · rfl

end Identities

variable {N : Natives}

/-- A call of a member of `owner`, which only reads its receiver or changes it: the first argument
is stamped as an object of the type, and there is one more for each parameter. -/
structure OnReceiver (e : EntryPoint N) (s : State N) (args : List Value) (onlyReads : Bool)
    (owner : N.ObjectType) (block : Nat) (vs : List Value) : Prop where
  member : e.callable.owner? = some owner ∧ e.callable.shape = .member onlyReads
  args : args = .userdata block :: vs
  count : vs.length = e.callable.params.length
  stamped : ∃ identifier, s.registry.identifier? owner = some identifier ∧
    s.identities.stamp? block = some identifier

/-- The verdict on a call: the error of the first gate that stops it, or the receiver and the
arguments that the body runs on. A member that only reads its receiver opens it before the other
arguments are decoded, a member that changes it after. -/
inductive GateRule (e : EntryPoint N) (s : State N) (args : List Value) :
    Except BridgeError (Option Nat × Args e.callable.params) → Prop where
  | freeCount (hFree : e.callable.owner? = none)
      (hCount : args.length ≠ e.callable.params.length) :
      GateRule e s args (.error (.arity e.callable.params.length args.length))
  | freeArgument {i : Nat} {t : NativeType N.ObjectType} {found : String}
      (hFree : e.callable.owner? = none) (hCount : args.length = e.callable.params.length)
      (hLeast : LeftmostUndecodable e.codec s.identities e.callable.params args i t found) :
      GateRule e s args (.error (.typeMismatch e.codec (i + 1) t.kind found))
  | freeBody {as : Args e.callable.params} (hFree : e.callable.owner? = none)
      (hAs : DecodesTo e.codec s.identities e.callable.params args as) :
      GateRule e s args (.ok (none, as))
  | count {owner : N.ObjectType} (hOwner : e.callable.owner? = some owner)
      (hCount : args.length ≠ e.callable.params.length + 1) :
      GateRule e s args (.error (.arity (e.callable.params.length + 1) args.length))
  | receiver {owner : N.ObjectType} {identifier found : String} {v : Value}
      (hOwner : e.callable.owner? = some owner)
      (hCount : args.length = e.callable.params.length + 1) (hv : args[0]? = some v)
      (hIdentifier : s.registry.identifier? owner = some identifier)
      (hNot : NotStamped s.identities identifier v found) :
      GateRule e s args (.error (.receiver identifier found))
  | sharedBorrow {owner : N.ObjectType} {block : Nat} {vs : List Value} {failure : RuntimeError}
      (hOn : OnReceiver e s args true owner block vs)
      (hLend : s.lendable owner block false = .error failure) :
      GateRule e s args (.error (.runtime failure.text))
  | sharedReclaimed {owner : N.ObjectType} {block : Nat} {vs : List Value} {h : Handle N owner}
      (hOn : OnReceiver e s args true owner block vs)
      (hLend : s.lendable owner block false = .ok h) (hGone : h.object = none) :
      GateRule e s args (.error (.reclaimed h.identifier))
  | sharedArgument {owner : N.ObjectType} {block : Nat} {vs : List Value} {o : N.Payload owner}
      {i : Nat} {t : NativeType N.ObjectType} {found : String}
      (hOn : OnReceiver e s args true owner block vs) (hObject : s.objectFor owner block false = .ok o)
      (hLeast : LeftmostUndecodable e.codec s.identities e.callable.params vs i t found) :
      GateRule e s args (.error (.typeMismatch e.codec (i + 2) t.kind found))
  | sharedBody {owner : N.ObjectType} {block : Nat} {vs : List Value} {o : N.Payload owner}
      {as : Args e.callable.params}
      (hOn : OnReceiver e s args true owner block vs) (hObject : s.objectFor owner block false = .ok o)
      (hAs : DecodesTo e.codec s.identities e.callable.params vs as) :
      GateRule e s args (.ok (some block, as))
  | exclusiveArgument {owner : N.ObjectType} {block : Nat} {vs : List Value}
      {i : Nat} {t : NativeType N.ObjectType} {found : String}
      (hOn : OnReceiver e s args false owner block vs)
      (hLeast : LeftmostUndecodable e.codec s.identities e.callable.params vs i t found) :
      GateRule e s args (.error (.typeMismatch e.codec (i + 2) t.kind found))
  | exclusiveBorrow {owner : N.ObjectType} {block : Nat} {vs : List Value} {failure : RuntimeError}
      {as : Args e.callable.params}
      (hOn : OnReceiver e s args false owner block vs)
      (hAs : DecodesTo e.codec s.identities e.callable.params vs as)
      (hLend : s.lendable owner block true = .error failure) :
      GateRule e s args (.error (.runtime failure.text))
  | exclusiveReclaimed {owner : N.ObjectType} {block : Nat} {vs : List Value} {h : Handle N owner}
      {as : Args e.callable.params}
      (hOn : OnReceiver e s args false owner block vs)
      (hAs : DecodesTo e.codec s.identities e.callable.params vs as)
      (hLend : s.lendable owner block true = .ok h) (hGone : h.object = none) :
      GateRule e s args (.error (.reclaimed h.identifier))
  | exclusiveBody {owner : N.ObjectType} {block : Nat} {vs : List Value} {o : N.Payload owner}
      {as : Args e.callable.params}
      (hOn : OnReceiver e s args false owner block vs)
      (hAs : DecodesTo e.codec s.identities e.callable.params vs as)
      (hObject : s.objectFor owner block true = .ok o) :
      GateRule e s args (.ok (some block, as))

namespace Frame

variable {f : Frame} {τ : Type} {ids : Identities τ}

theorem checkArity_of_eq {n : Nat} (h : f.args.length = n) : f.checkArity n = .ok () := by
  rw [checkArity, if_pos h]

theorem checkArity_of_ne {n : Nat} (h : f.args.length ≠ n) :
    f.checkArity n = .error (.arity n f.args.length) := by
  rw [checkArity, if_neg h]

theorem receiver_eq {t : τ} {identifier : String} {v : Value}
    (hIdentifier : ids.identifier? t = some identifier) (hv : f.args[0]? = some v) :
    f.receiver ids t 1 =
      match ids.stamped identifier v with
      | .ok block => .ok block
      | .error found => .error (.receiver identifier found) := by
  rw [receiver, hIdentifier, value?, hv]
  rfl

end Frame

namespace Callable

variable {c : Callable N} {owner : N.ObjectType}

theorem body_of_free (h : c.owner? = none) : ∃ shape run, c.body = .free shape run := by
  cases hBody : c.body with
  | free shape run => exact ⟨shape, run, rfl⟩
  | shared t run => simp [owner?, hBody] at h
  | exclusive t run => simp [owner?, hBody] at h

theorem body_of_member (h : c.owner? = some owner) :
    (∃ run, c.body = .shared owner run) ∨ ∃ run, c.body = .exclusive owner run := by
  cases hBody : c.body with
  | free shape run => simp [owner?, hBody] at h
  | shared t run =>
    obtain rfl : t = owner := by simpa [owner?, hBody] using h
    exact .inl ⟨run, rfl⟩
  | exclusive t run =>
    obtain rfl : t = owner := by simpa [owner?, hBody] using h
    exact .inr ⟨run, rfl⟩

end Callable

namespace OnReceiver

variable {e : EntryPoint N} {s : State N} {args vs : List Value} {owner : N.ObjectType} {block : Nat}

theorem shared (h : OnReceiver e s args true owner block vs) :
    ∃ run, e.callable.body = .shared owner run := by
  obtain ⟨hOwner, hShape⟩ := h.member
  rcases Callable.body_of_member hOwner with hBody | ⟨run, hBody⟩
  · exact hBody
  · simp [Callable.shape, hBody] at hShape

theorem exclusive (h : OnReceiver e s args false owner block vs) :
    ∃ run, e.callable.body = .exclusive owner run := by
  obtain ⟨hOwner, hShape⟩ := h.member
  rcases Callable.body_of_member hOwner with ⟨run, hBody⟩ | hBody
  · simp [Callable.shape, hBody] at hShape
  · exact hBody

variable {onlyReads : Bool}

theorem checkArity (h : OnReceiver e s args onlyReads owner block vs) :
    (e.frame args).checkArity (e.callable.params.length + 1) = .ok () := by
  refine Frame.checkArity_of_eq ?_
  rw [EntryPoint.frame, h.args, List.length_cons, h.count]

theorem receiver (h : OnReceiver e s args onlyReads owner block vs) :
    (e.frame args).receiver s.identities owner 1 = .ok block := by
  obtain ⟨identifier, hIdentifier, hStamp⟩ := h.stamped
  have hv : (e.frame args).args[0]? = some (.userdata block) := by
    rw [EntryPoint.frame, h.args]
    rfl
  rw [Frame.receiver_eq hIdentifier hv, Identities.stamped_eq_ok_iff.mpr ⟨rfl, hStamp⟩]

theorem decodeArgs_eq_ok_iff (h : OnReceiver e s args onlyReads owner block vs)
    {as : Args e.callable.params} :
    (e.frame args).decodeArgs s.identities 2 e.callable.params = .ok as ↔
      DecodesTo e.codec s.identities e.callable.params vs as := by
  have hArgs : (e.frame args).args = [.userdata block] ++ vs := h.args
  exact Frame.decodeArgs_eq_ok_iff hArgs h.count

theorem decodeArgs_eq_error_iff (h : OnReceiver e s args onlyReads owner block vs)
    {err : BridgeError} :
    (e.frame args).decodeArgs s.identities 2 e.callable.params = .error err ↔
      ∃ i t found, LeftmostUndecodable e.codec s.identities e.callable.params vs i t found ∧
        .typeMismatch e.codec (2 + i) t.kind found = err := by
  have hArgs : (e.frame args).args = [.userdata block] ++ vs := h.args
  exact Frame.decodeArgs_eq_error_iff hArgs h.count

end OnReceiver

namespace GateRule

variable {e : EntryPoint N} {s : State N} {args : List Value}
  {answer : Except BridgeError (Option Nat × Args e.callable.params)}

theorem verdict_eq (h : GateRule e s args answer) :
    e.callable.verdict s (e.frame args) = answer := by
  cases h with
  | freeCount hFree hCount =>
    obtain ⟨shape, run, hBody⟩ := Callable.body_of_free hFree
    simp only [Callable.verdict, hBody]
    rw [Frame.checkArity_of_ne hCount]
    rfl
  | @freeArgument i t found hFree hCount hLeast =>
    obtain ⟨shape, run, hBody⟩ := Callable.body_of_free hFree
    have hArgs : (e.frame args).args = [] ++ args := rfl
    have hDecode := (Frame.decodeArgs_eq_error_iff hArgs hCount).mpr ⟨i, t, found, hLeast, rfl⟩
    rw [List.length_nil, Nat.zero_add, Nat.add_comm] at hDecode
    simp only [Callable.verdict, hBody]
    rw [Frame.checkArity_of_eq hCount, ok_bind, hDecode]
    rfl
  | freeBody hFree hAs =>
    obtain ⟨shape, run, hBody⟩ := Callable.body_of_free hFree
    have hArgs : (e.frame args).args = [] ++ args := rfl
    have hDecode := (Frame.decodeArgs_eq_ok_iff hArgs hAs.length_eq).mpr hAs
    rw [List.length_nil, Nat.zero_add] at hDecode
    simp only [Callable.verdict, hBody]
    rw [Frame.checkArity_of_eq hAs.length_eq, ok_bind, hDecode]
    rfl
  | count hOwner hCount =>
    have hCheck := Frame.checkArity_of_ne (f := e.frame args) hCount
    rcases Callable.body_of_member hOwner with ⟨run, hBody⟩ | ⟨run, hBody⟩
    · simp only [Callable.verdict, hBody, hCheck, error_bind]
      rfl
    · simp only [Callable.verdict, hBody, hCheck, error_bind]
      rfl
  | receiver hOwner hCount hv hIdentifier hNot =>
    have hCheck := Frame.checkArity_of_eq (f := e.frame args) hCount
    have hIdentifier' : s.identities.identifier? _ = some _ := hIdentifier
    have hReceiver := Frame.receiver_eq (f := e.frame args) hIdentifier' hv
    rw [Identities.stamped_eq_error_iff.mpr hNot] at hReceiver
    rcases Callable.body_of_member hOwner with ⟨run, hBody⟩ | ⟨run, hBody⟩
    · simp only [Callable.verdict, hBody, hCheck, hReceiver, ok_bind, error_bind]
    · simp only [Callable.verdict, hBody, hCheck, hReceiver, ok_bind, error_bind]
  | sharedBorrow hOn hLend =>
    obtain ⟨run, hBody⟩ := hOn.shared
    have hObject := State.objectFor_eq_error_iff.mpr (.inl ⟨_, hLend, rfl⟩)
    simp only [Callable.verdict, hBody, hOn.checkArity, hOn.receiver, hObject, ok_bind, error_bind,
      State.ofRuntime_of_refused hLend]
  | sharedReclaimed hOn hLend hGone =>
    obtain ⟨run, hBody⟩ := hOn.shared
    have hObject := State.objectFor_eq_error_iff.mpr (.inr ⟨_, hLend, hGone, rfl⟩)
    simp only [Callable.verdict, hBody, hOn.checkArity, hOn.receiver, hObject, ok_bind, error_bind]
  | @sharedArgument owner block vs o i t found hOn hObject hLeast =>
    obtain ⟨run, hBody⟩ := hOn.shared
    have hDecode := hOn.decodeArgs_eq_error_iff.mpr ⟨i, t, found, hLeast, rfl⟩
    simp only [Callable.verdict, hBody, hOn.checkArity, hOn.receiver, hObject, hDecode, ok_bind,
      error_bind, Nat.add_comm 2 i]
  | sharedBody hOn hObject hAs =>
    obtain ⟨run, hBody⟩ := hOn.shared
    simp only [Callable.verdict, hBody, hOn.checkArity, hOn.receiver, hObject,
      hOn.decodeArgs_eq_ok_iff.mpr hAs, ok_bind, pure_eq_ok]
  | @exclusiveArgument owner block vs i t found hOn hLeast =>
    obtain ⟨run, hBody⟩ := hOn.exclusive
    have hDecode := hOn.decodeArgs_eq_error_iff.mpr ⟨i, t, found, hLeast, rfl⟩
    simp only [Callable.verdict, hBody, hOn.checkArity, hOn.receiver, hDecode, ok_bind, error_bind,
      Nat.add_comm 2 i]
  | exclusiveBorrow hOn hAs hLend =>
    obtain ⟨run, hBody⟩ := hOn.exclusive
    have hObject := State.objectFor_eq_error_iff.mpr (.inl ⟨_, hLend, rfl⟩)
    simp only [Callable.verdict, hBody, hOn.checkArity, hOn.receiver,
      hOn.decodeArgs_eq_ok_iff.mpr hAs, hObject, ok_bind, error_bind, pure_eq_ok,
      State.ofRuntime_of_refused hLend]
  | exclusiveReclaimed hOn hAs hLend hGone =>
    obtain ⟨run, hBody⟩ := hOn.exclusive
    have hObject := State.objectFor_eq_error_iff.mpr (.inr ⟨_, hLend, hGone, rfl⟩)
    simp only [Callable.verdict, hBody, hOn.checkArity, hOn.receiver,
      hOn.decodeArgs_eq_ok_iff.mpr hAs, hObject, ok_bind, error_bind, pure_eq_ok]
  | exclusiveBody hOn hAs hObject =>
    obtain ⟨run, hBody⟩ := hOn.exclusive
    simp only [Callable.verdict, hBody, hOn.checkArity, hOn.receiver,
      hOn.decodeArgs_eq_ok_iff.mpr hAs, hObject, ok_bind, pure_eq_ok]

theorem unique {other : Except BridgeError (Option Nat × Args e.callable.params)}
    (h : GateRule e s args answer) (h' : GateRule e s args other) : answer = other :=
  h.verdict_eq.symm.trans h'.verdict_eq

theorem exists_shared {owner : N.ObjectType} {block : Nat} {vs : List Value}
    (hOn : OnReceiver e s args true owner block vs) : ∃ answer, GateRule e s args answer := by
  cases hLend : s.lendable owner block false with
  | error failure => exact ⟨_, .sharedBorrow hOn hLend⟩
  | ok h =>
    cases hObject : h.object with
    | none => exact ⟨_, .sharedReclaimed hOn hLend hObject⟩
    | some o =>
      have hShown := State.objectFor_eq_ok_iff.mpr ⟨h, hLend, hObject⟩
      rcases decodesTo_or_leftmost e.codec s.identities hOn.count with
        ⟨as, hAs⟩ | ⟨i, t, found, hLeast⟩
      · exact ⟨_, .sharedBody hOn hShown hAs⟩
      · exact ⟨_, .sharedArgument hOn hShown hLeast⟩

theorem exists_exclusive {owner : N.ObjectType} {block : Nat} {vs : List Value}
    (hOn : OnReceiver e s args false owner block vs) : ∃ answer, GateRule e s args answer := by
  rcases decodesTo_or_leftmost e.codec s.identities hOn.count with
    ⟨as, hAs⟩ | ⟨i, t, found, hLeast⟩
  · cases hLend : s.lendable owner block true with
    | error failure => exact ⟨_, .exclusiveBorrow hOn hAs hLend⟩
    | ok h =>
      cases hObject : h.object with
      | none => exact ⟨_, .exclusiveReclaimed hOn hAs hLend hObject⟩
      | some o =>
        exact ⟨_, .exclusiveBody hOn hAs (State.objectFor_eq_ok_iff.mpr ⟨h, hLend, hObject⟩)⟩
  · exact ⟨_, .exclusiveArgument hOn hLeast⟩

/-- A rule applies to every call, if the owner of the callable has an identifier. -/
theorem exists_of_identity (args : List Value)
    (hOwner : ∀ t, e.callable.owner? = some t → (s.registry.identityOf? t).isSome = true) :
    ∃ answer, GateRule e s args answer := by
  cases hMember : e.callable.owner? with
  | none =>
    by_cases hCount : args.length = e.callable.params.length
    · rcases decodesTo_or_leftmost e.codec s.identities hCount with
        ⟨as, hAs⟩ | ⟨i, t, found, hLeast⟩
      · exact ⟨_, .freeBody hMember hAs⟩
      · exact ⟨_, .freeArgument hMember hCount hLeast⟩
    · exact ⟨_, .freeCount hMember hCount⟩
  | some owner =>
    by_cases hCount : args.length = e.callable.params.length + 1
    · obtain _ | ⟨v, vs⟩ := args
      · cases hCount
      · obtain ⟨identity, hIdentity⟩ := Option.isSome_iff_exists.mp (hOwner owner hMember)
        have hIdentifier : s.registry.identifier? owner = some identity.identifier := by
          rw [Registry.identifier?, hIdentity]
          rfl
        have hVs : vs.length = e.callable.params.length := Nat.succ.inj hCount
        cases hStamped : s.identities.stamped identity.identifier v with
        | error found =>
          exact ⟨_, .receiver hMember hCount rfl hIdentifier
            (Identities.stamped_eq_error_iff.mp hStamped)⟩
        | ok block =>
          obtain ⟨rfl, hStamp⟩ := Identities.stamped_eq_ok_iff.mp hStamped
          rcases Callable.body_of_member hMember with ⟨run, hBody⟩ | ⟨run, hBody⟩
          · have hShape : e.callable.shape = .member true := by rw [Callable.shape, hBody]
            exact exists_shared ⟨⟨hMember, hShape⟩, rfl, hVs, ⟨_, hIdentifier, hStamp⟩⟩
          · have hShape : e.callable.shape = .member false := by rw [Callable.shape, hBody]
            exact exists_exclusive ⟨⟨hMember, hShape⟩, rfl, hVs, ⟨_, hIdentifier, hStamp⟩⟩
    · exact ⟨_, .count hMember hCount⟩

end GateRule

end ScriptBridge
