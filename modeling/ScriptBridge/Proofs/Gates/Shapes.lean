import ScriptBridge.Proofs.Gates.Alike
import ScriptBridge.Proofs.Loans.Avoids
import ScriptBridge.Proofs.Script.Route

/-!
# One body in every shape

A body that is bound as a free-standing callable ends alike in every free shape. Bound as a member
that ignores its receiver, by either kind of reference, it ends as the free one does on the arguments
behind the receiver: positions and counts in errors are one larger, and all else is the same.
-/
namespace ScriptBridge
set_option autoImplicit false

variable {N : Natives}

section Shapes

variable {params : List (NativeType N.ObjectType)} {returns : ReturnType N.ObjectType}
  {owner : N.ObjectType} {block : Nat} {s : State N} {f : Args params → Program N returns.Native}
  {codec : CodecConfig} {name name' : String} {xs : List Value} {shape shape' : FreeShape}
  {onlyReads : Bool} {call call' : Caller N}

abbrev Callable.freeStanding (shape : FreeShape) (f : Args params → Program N returns.Native) :
    Callable N :=
  ⟨params, returns, .free shape f⟩

/-- The member that ignores its receiver and runs the body. -/
abbrev Callable.ignoring (owner : N.ObjectType) (onlyReads : Bool)
    (f : Args params → Program N returns.Native) : Callable N where
  params := params
  returns := returns
  body :=
    if onlyReads then .shared owner fun _ as => f as
    else .exclusive owner fun o as => do return (← f as, o)

/-- A handle to an object of the type which is there, stamped so, and not lent. -/
structure State.Ready (s : State N) (owner : N.ObjectType) (block : Nat) : Prop where
  live : ∃ (g : Handle N owner) (o : N.Payload owner),
    s.contentOf block = some ⟨owner, g⟩ ∧ g.object = some o
  unlent : s.isLent block = false
  stamped : s.Checked owner (.userdata block) block

theorem State.Ready.lendable (h : s.Ready owner block) :
    ∃ g o, s.contentOf block = some ⟨owner, g⟩ ∧ g.object = some o ∧
      ∀ mode, s.lendable owner block mode = .ok g := by
  obtain ⟨g, o, hContent, hObject⟩ := h.live
  refine ⟨g, o, hContent, hObject, fun mode => State.lendable_eq_ok_iff.mpr ⟨hContent, ?_⟩⟩
  cases hMay : s.mayLend block mode with
  | true => rfl
  | false =>
    have hLent := State.isLent_of_not_mayLend hMay
    rw [h.unlent] at hLent
    cases hLent

theorem State.Ready.onReceiver (h : s.Ready owner block) (hCount : xs.length = params.length) :
    OnReceiver ⟨name, .ignoring owner onlyReads f, codec⟩ s (.userdata block :: xs) onlyReads owner
      block xs where
  member := by cases onlyReads <;> exact ⟨rfl, rfl⟩
  args := rfl
  count := hCount
  stamped := by
    obtain ⟨identifier, hIdentifier, hStamped⟩ := h.stamped
    exact ⟨identifier, hIdentifier, (Identities.stamped_eq_ok_iff.mp hStamped).2⟩

/-- The gates of the member stop a call where those of the free callable do, and let it through on
the same arguments otherwise. -/
theorem verdicts_of_ready (hs : s.Ready owner block) (codec : CodecConfig)
    (f : Args params → Program N returns.Native) (shape : FreeShape) (name : String)
    (onlyReads : Bool) (name' : String) (xs : List Value) :
    let e : EntryPoint N := ⟨name, .freeStanding shape f, codec⟩
    let e' : EntryPoint N := ⟨name', .ignoring owner onlyReads f, codec⟩
    (∃ err err', e.callable.verdict s (e.frame xs) = .error err ∧
      e'.callable.verdict s (e'.frame (.userdata block :: xs)) = .error err' ∧
      err'.cause = err.cause.shifted 1 ∧ err'.hints = err.hints) ∨
    ∃ as : Args params, DecodesTo codec s.identities params xs as ∧
      e.callable.verdict s (e.frame xs) = .ok (none, as) ∧
      e'.callable.verdict s (e'.frame (.userdata block :: xs)) = .ok (some block, as) := by
  intro e e'
  obtain ⟨g, o, -, hObject, hLend⟩ := hs.lendable
  have hShown (mode : Bool) : s.objectFor owner block mode = .ok o :=
    State.objectFor_eq_ok_iff.mpr ⟨g, hLend mode, hObject⟩
  have hFree : e.callable.owner? = none := rfl
  by_cases hCount : xs.length = params.length
  · have hOn : OnReceiver e' s (.userdata block :: xs) onlyReads owner block xs :=
      hs.onReceiver hCount
    rcases decodesTo_or_leftmost codec s.identities hCount with ⟨as, hAs⟩ | ⟨i, t, found, hLeast⟩
    · refine .inr ⟨as, hAs, (GateRule.freeBody hFree hAs).verdict_eq, ?_⟩
      -- the handle opens whether or not the arguments have been decoded by then
      cases onlyReads with
      | true => exact (GateRule.sharedBody hOn (hShown _) hAs).verdict_eq
      | false => exact (GateRule.exclusiveBody hOn hAs (hShown _)).verdict_eq
    · refine .inl ⟨_, .typeMismatch codec (i + 2) t.kind found,
        (GateRule.freeArgument hFree hCount hLeast).verdict_eq, ?_, rfl, rfl⟩
      cases onlyReads with
      | true => exact (GateRule.sharedArgument hOn (hShown _) hLeast).verdict_eq
      | false => exact (GateRule.exclusiveArgument hOn hLeast).verdict_eq
  · have hOwner : e'.callable.owner? = some owner := by cases onlyReads <;> rfl
    have hLonger : (Value.userdata block :: xs).length ≠ e'.callable.params.length + 1 :=
      fun h => hCount (Nat.succ.inj h)
    exact .inl ⟨_, _, (GateRule.freeCount hFree hCount).verdict_eq,
      (GateRule.count hOwner hLonger).verdict_eq, rfl, rfl⟩

theorem run_evaluate_freeStanding {as : Args params} {frame : Frame}
    (hAvoids : (f as).Avoids block s)
    (hVerdict : (Callable.freeStanding shape f).verdict s frame = .ok (none, as)) (call : Caller N) :
    ((Callable.freeStanding shape f).evaluate call frame).run s.countCall =
      let last := ((f as).run Caller.unused).run s
      (.ok last.1, last.2.under s.loans s.countCall.counters) := by
  have hCounted : (Callable.freeStanding shape f).verdict s.countCall frame = .ok (none, as) := hVerdict
  have hRun : ((f as).run call).run s.countCall = _ :=
    hAvoids.run_matches (.refl block s.loans) call s.countCall.counters
  rw [Callable.run_evaluate_free rfl hCounted, hRun]

theorem run_evaluate_ignoring {as : Args params} {frame : Frame} (hs : s.Ready owner block)
    (hAvoids : (f as).Avoids block s)
    (hVerdict : (Callable.ignoring owner onlyReads f).verdict s frame = .ok (some block, as))
    (call : Caller N) :
    ((Callable.ignoring owner onlyReads f).evaluate call frame).run s.countCall =
      let last := ((f as).run Caller.unused).run s
      (.ok last.1, last.2.under s.loans s.countCall.counters) := by
  obtain ⟨g, o, hContent, hObject, hLend⟩ := hs.lendable
  have hCounted : (Callable.ignoring owner onlyReads f).verdict s.countCall frame =
    .ok (some block, as) := hVerdict
  have hLendCounted (mode : Bool) : s.countCall.lendable owner block mode = .ok g := hLend mode
  let last := ((f as).run Caller.unused).run s
  let inside (mode : Bool) := last.2.under (⟨block, mode⟩ :: s.loans) s.countCall.counters
  have hRun (call : Caller N) (mode : Bool) :
      ((f as).run call).run (s.countCall.lend block mode) = (last.1, inside mode) :=
    hAvoids.run_matches (.lent block mode s.loans) call s.countCall.counters
  cases onlyReads with
  | true =>
    have hShown := State.objectFor_eq_ok_iff.mpr ⟨g, hLendCounted false, hObject⟩
    rw [Callable.run_evaluate_shared rfl hCounted hShown, hRun]
    rfl
  | false =>
    have hBody : ((do return (← f as, o) : Program N _).run call).run (s.countCall.lend block true) =
        ((last.1, o), inside true) := by
      rw [Program.run_bind, hRun]
      rfl
    -- no body writes what is lent, so the object that is put back is the one in place
    have hSheltered := composable_sheltered.program Caller.unused_sheltered (f as)
    have hFrozen := (hSheltered.shelters (Run.passes_last _ (s.countCall.lend block true))).frozen
      block (State.lt_length_of_contentOf hContent) nofun
      (State.isLent_iff.mpr ⟨⟨block, true⟩, List.mem_cons_self, rfl⟩)
    rw [hRun] at hFrozen
    have hKept : (inside true).setHandle owner block g = inside true :=
      State.setHandle_of_contentOf (hFrozen.trans hContent)
    have hPutBack : { g with object := some o } = g := by rw [← hObject]
    rw [Callable.run_evaluate_exclusive rfl hCounted (hLendCounted true) hObject, hBody]
    dsimp only
    rw [hPutBack, hKept]
    rfl

/-- A ready handle in front of the arguments makes no difference but to positions and counts. -/
theorem ignoring_endAlike (hs : s.Ready owner block)
    (hAvoids : ∀ as, DecodesTo codec s.identities params xs as → (f as).Avoids block s)
    (call call' : Caller N) (shape : FreeShape) (onlyReads : Bool) (name name' : String) :
    EndAlike 1
      ((EntryPoint.enter call ⟨name, .freeStanding shape f, codec⟩ xs).run s)
      ((EntryPoint.enter call' ⟨name', .ignoring owner onlyReads f, codec⟩
        (.userdata block :: xs)).run s) := by
  rcases verdicts_of_ready hs codec f shape name onlyReads name' xs with
    ⟨err, err', hFree, hMember, hCause, hHints⟩ | ⟨as, hAs, hFree, hMember⟩
  · rw [(EntryPoint.enter_refused call hFree).1, (EntryPoint.enter_refused call' hMember).1]
    exact endAlike_refused hCause hHints name name'
  · rw [EntryPoint.run_enter_of_evaluate (run_evaluate_freeStanding (hAvoids as hAs) hFree call),
      EntryPoint.run_enter_of_evaluate (run_evaluate_ignoring hs (hAvoids as hAs) hMember call')]
    refine endAlike_pushResult ?_ returns _
    rfl

theorem run_enter_freeStanding (f : Args params → Program N returns.Native) (codec : CodecConfig)
    (s : State N) (xs : List Value) (call : Caller N) (shape shape' : FreeShape)
    (name name' : String) :
    ∃ outcome s',
      (EntryPoint.enter call ⟨name, .freeStanding shape f, codec⟩ xs).run s =
        (EntryPoint.answer ⟨name, .freeStanding shape f, codec⟩ outcome).run s' ∧
      (EntryPoint.enter call ⟨name', .freeStanding shape' f, codec⟩ xs).run s =
        (EntryPoint.answer ⟨name', .freeStanding shape' f, codec⟩ outcome).run s' := by
  let e : EntryPoint N := ⟨name, .freeStanding shape f, codec⟩
  let e' : EntryPoint N := ⟨name', .freeStanding shape' f, codec⟩
  have hSame : (e'.callable.evaluate call (e'.frame xs)).run s.countCall =
      (e.callable.evaluate call (e.frame xs)).run s.countCall := by
    -- the verdict does not look at the shape
    cases hVerdict : e.callable.verdict s.countCall (e.frame xs) with
    | error err =>
      have hVerdict' : e'.callable.verdict s.countCall (e'.frame xs) = .error err := hVerdict
      rw [(Callable.evaluate_refused call hVerdict).1, (Callable.evaluate_refused call hVerdict').1]
    | ok admitted =>
      have hVerdict' : e'.callable.verdict s.countCall (e'.frame xs) = .ok admitted := hVerdict
      rw [Callable.run_evaluate_free rfl hVerdict, Callable.run_evaluate_free rfl hVerdict']
  refine ⟨_, _, EntryPoint.run_enter e xs, (EntryPoint.run_enter e' xs).trans ?_⟩
  rw [Callable.run_invoke, Callable.run_invoke, hSame]
  rfl

end Shapes

/-- One body in all shapes. The free shapes end alike for every body, state and argument list, and
in the very same state if they are bound under one name. For a body that calls no script function and
leaves the handle alone, so do the members that ignore their receiver and run it, on any ready handle
and the same arguments behind it: only positions and counts in errors are one larger. Scripts may
find the member as a global, in a namespace or as a method of the handle. -/
theorem shapes_transparent {N : Natives} {params : List (NativeType N.ObjectType)}
    {returns : ReturnType N.ObjectType} (f : Args params → Program N returns.Native)
    (codec : CodecConfig) (s : State N) (xs : List Value) :
    let free (call : Caller N) (shape : FreeShape) (name : String) :=
      (EntryPoint.enter call ⟨name, .freeStanding shape f, codec⟩ xs).run s
    (∀ call shape shape' name name',
      EndAlike 0 (free call shape name) (free call shape' name') ∧
        (name = name' → free call shape name = free call shape' name')) ∧
    ∀ owner block, s.Ready owner block →
      (∀ as, DecodesTo codec s.identities params xs as → (f as).Avoids block s) →
      ∀ call shape name onlyReads name',
        let member : EntryPoint N := ⟨name', .ignoring owner onlyReads f, codec⟩
        (∀ call', EndAlike 1 (free call shape name)
          ((member.enter call' (.userdata block :: xs)).run s)) ∧
        ∀ route : Route, route.Leads s block member → ∀ depth,
          EndAlike 1 (free call shape name)
            ((Host.eval (depth + 1) [] [route.call block xs]).run s) := by
  intro free
  refine ⟨fun call shape shape' name name' => ?_,
    fun owner block hs hAvoids call shape name onlyReads name' => ⟨fun call' => ?_, ?_⟩⟩
  · obtain ⟨outcome, s', hOne, hOther⟩ :=
      run_enter_freeStanding f codec s xs call shape shape' name name'
    refine ⟨?_, ?_⟩
    · simp only [free, hOne, hOther]
      exact endAlike_answer outcome
    · rintro rfl
      simp only [free, hOne, hOther]
      exact congrArg (Run.run · s') (EntryPoint.answer_congr rfl outcome)
  · exact ignoring_endAlike hs hAvoids call call' shape onlyReads name name'
  · intro route hRoute depth
    rw [hRoute.run_eval]
    exact ignoring_endAlike hs hAvoids call _ shape onlyReads name name'

/-- A host with an account, which scripts can call the member on in every way. -/
def Sample.tallyHost (c : NativeCallable) : State sampleNatives :=
  { accountHost "tally" c with
    tables := [[("tally", .function 1), ("bank", .table 1)], [("tally", .function 1)]]
    methods := [("Account", [("tally", .function 1)])] }

theorem shapes_transparent_tally :
    let params : List Sample.Param := [Sample.long, .boolean]
    let returns : Sample.Return := .value Sample.long
    let f (as : Args params) : Sample.Code returns.Native := do
      Sample.countCall
      return if as.2.1 then as.1 else -as.1
    let tally : EntryPoint sampleNatives := ⟨"tally", .ignoring .account true f, {}⟩
    let s := Sample.tallyHost tally.callable
    let xs : List Value := [.integer 3, .boolean true]
    let free := (EntryPoint.enter (callWith 0) ⟨"tally", .freeStanding .closure f, {}⟩ xs).run s
    s.Ready .account 0 ∧
      (∀ as, DecodesTo {} s.identities params xs as → (f as).Avoids 0 s) ∧
      ∀ route ∈ [Route.global "tally", .field "bank" "tally", .method "tally"],
        route.Leads s 0 tally ∧ EndAlike 1 free ((Host.eval 1 [] [route.call 0 xs]).run s) := by
  intro params returns f tally s xs free
  have hReady : s.Ready .account 0 := {
    live := ⟨⟨"Account", 0, some ⟨"first", .wrap _ 5, "savings"⟩⟩, _, rfl, rfl⟩
    unlent := rfl
    stamped := ⟨"Account", rfl, Identities.stamped_eq_ok_iff.mpr ⟨rfl, State.stamp?_of_text rfl⟩⟩ }
  have hAvoids (as : Args params) (_ : DecodesTo {} s.identities params xs as) :
      (f as).Avoids 0 s := True.intro
  obtain ⟨-, hMembers⟩ := shapes_transparent f {} s xs
  obtain ⟨-, hRoutes⟩ :=
    hMembers .account 0 hReady hAvoids (callWith 0) .closure "tally" true "tally"
  refine ⟨hReady, hAvoids, fun route hRoute => ?_⟩
  have hLeads : route.Leads s 0 tally := by
    simp only [List.mem_cons, List.not_mem_nil, or_false] at hRoute
    rcases hRoute with rfl | rfl | rfl
    · exact ⟨1, rfl, rfl⟩
    · exact ⟨1, ⟨1, rfl, State.entry_ofText ..⟩, rfl⟩
    · have hMethods : s.methods.get? "Account" = some [("tally", .function 1)] := rfl
      exact ⟨1, ⟨rfl, State.member_of_stamp rfl hMethods "tally"⟩, rfl⟩
  exact ⟨hLeads, hRoutes route hLeads 0⟩

end ScriptBridge
