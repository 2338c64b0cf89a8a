import ScriptBridge.Proofs.Host.History
import ScriptBridge.Proofs.Host.Tables
import ScriptBridge.Proofs.Host.Wired
import ScriptBridge.Proofs.Objects.Destroyed
import ScriptBridge.Proofs.Script.Route

/-!
# Method lookup

Which function a script finds as an attribute of a handle: the stamp of the handle names a type, and
the function is the one that was bound for the attribute when a table was last attached to this
type. When the handle was made, what is in it, and the tables of other types have no part in it.
-/
namespace ScriptBridge
set_option autoImplicit false

variable {N : Natives} {α : Type}

/-- A table that was attached, the settings its entries were bound under, and the functions that
were made of them. -/
structure Attachment (N : Natives) where
  table : MethodTable N
  codec : CodecConfig
  methods : Names Value

/-- The attachment that an operation makes: it has built a table, and attaching succeeds. -/
def Operation.attachment? (s : State N) : Operation N → Option (Attachment N)
  | attach codec owner entries =>
    match MethodTable.build owner entries with
    | .error _ => none
    | .ok t =>
      match ((t.attach codec).run s).1 with
      | .error _ => none
      | .ok methods => some ⟨t, codec, methods⟩
  | _ => none

def attachments : List (Operation N) → State N → List (Attachment N)
  | [], _ => []
  | op :: rest, s => (op.attachment? s).toList ++ attachments rest (op.perform.run s).2

/-- The attachments made so far, the last one at the end. -/
def History.attachments (h : History N) : List (Attachment N) :=
  ScriptBridge.attachments h.operations h.opened

namespace State

variable {s s' : State N} {as : List (Attachment N)} {a : Attachment N} {identifier : String}

/-- The attachments to the type that is registered under the identifier. -/
def attachedTo (s : State N) (as : List (Attachment N)) (identifier : String) :
    List (Attachment N) :=
  as.filter fun a => s.registry.identifier? a.table.owner = some identifier

/-- The functions of an attachment are entry points for the entries of its table. -/
structure Binds (s : State N) (a : Attachment N) : Prop where
  unlisted : ∀ name, a.table.get? name = none → a.methods.get? name = none
  listed : ∀ name c, a.table.get? name = some c → ∃ id, a.methods.get? name = some (.function id) ∧
    s.functions[id]? = some (.entry ⟨name, c, a.codec⟩)

/-- The published method tables are the latest of those that were attached. -/
structure Publishes (s : State N) (as : List (Attachment N)) : Prop where
  latest : ∀ identifier, s.methods.get? identifier =
    (s.attachedTo as identifier).getLast?.map Attachment.methods
  known : ∀ a ∈ as, (s.registry.identityOf? a.table.owner).isSome = true
  bound : ∀ a ∈ as, s.Binds a

theorem getElem?_of_grown {i : Nat} {f : ScriptFunction N} (h : s.functions <+: s'.functions)
    (hf : s.functions[i]? = some f) : s'.functions[i]? = some f := by
  obtain ⟨rest, hRest⟩ := h
  rw [← hRest, List.getElem?_append_left (List.getElem?_eq_some_iff.mp hf).1, hf]

theorem Binds.grow (h : s.Binds a) (hFunctions : s.functions <+: s'.functions) : s'.Binds a where
  unlisted := h.unlisted
  listed name c hListed := by
    obtain ⟨id, hMethod, he⟩ := h.listed name c hListed
    exact ⟨id, hMethod, getElem?_of_grown hFunctions he⟩

/-- No table has been published since, and nothing that tables rest on is gone. -/
structure Later (s s' : State N) : Prop where
  methods : s'.methods = s.methods
  registry : s.registry.Extends s'.registry
  functions : s.functions <+: s'.functions

namespace Later

theorem aside (hMethods : s'.methods = s.methods) (hRegistry : s'.registry = s.registry)
    (hFunctions : s'.functions = s.functions) : s.Later s' :=
  ⟨hMethods, hRegistry ▸ .refl _, hFunctions ▸ List.prefix_refl _⟩

theorem refl (s : State N) : s.Later s := aside rfl rfl rfl

theorem added {fs : List (ScriptFunction N)} (hMethods : s'.methods = s.methods)
    (hRegistry : s'.registry = s.registry) (hFunctions : s'.functions = s.functions ++ fs) :
    s.Later s' :=
  ⟨hMethods, hRegistry ▸ .refl _, hFunctions ▸ List.prefix_append _ _⟩

theorem trans {s₁ s₂ s₃ : State N} (h : s₁.Later s₂) (h' : s₂.Later s₃) : s₁.Later s₃ :=
  ⟨h'.methods.trans h.methods, h.registry.trans h'.registry, h.functions.trans h'.functions⟩

end Later

theorem identifier?_of_extends {r r' : Registry N.ObjectType} {t : N.ObjectType} (h : r.Extends r')
    (ht : (r.identityOf? t).isSome = true) : r'.identifier? t = r.identifier? t := by
  obtain ⟨i, hi⟩ := Option.isSome_iff_exists.mp ht
  rw [Registry.identifier?, Registry.identifier?, hi, h.identities t i hi]

namespace Publishes

theorem later (h : s.Publishes as) (hLater : s.Later s') : s'.Publishes as where
  latest identifier := by
    rw [hLater.methods, h.latest]
    congr 2
    refine List.filter_congr fun a ha => ?_
    rw [identifier?_of_extends hLater.registry (h.known a ha)]
  known a ha := hLater.registry.isSome (h.known a ha)
  bound a ha := (h.bound a ha).grow hLater.functions

/-- Of the type's attachments the new one is the last; those of other types are as they were. -/
theorem publish (h : s.Publishes as)
    (hIdentifier : s.registry.identifier? a.table.owner = some identifier) (hBinds : s.Binds a) :
    (s.publish identifier a.methods).Publishes (as ++ [a]) where
  latest other := by
    change (s.methods.put identifier a.methods).get? other =
      ((s.attachedTo (as ++ [a]) other).getLast?).map _
    rw [attachedTo, List.filter_append]
    by_cases he : other = identifier
    · subst he
      rw [Names.get?_put_self, List.filter_cons_of_pos (by simpa using hIdentifier),
        List.filter_nil, List.getLast?_concat, Option.map_some]
    · have hNot : ¬ s.registry.identifier? a.table.owner = some other := by
        rw [hIdentifier]
        exact fun hSome => he (Option.some.inj hSome).symm
      rw [Names.get?_put_of_ne _ _ he, List.filter_cons_of_neg (by simpa using hNot),
        List.filter_nil, List.append_nil]
      exact h.latest other
  known b hb := by
    rcases List.mem_append.mp hb with hOld | hNew
    · exact h.known b hOld
    · obtain rfl := List.mem_singleton.mp hNew
      exact Registry.isSome_identityOf? hIdentifier
  bound b hb := by
    rcases List.mem_append.mp hb with hOld | hNew
    · exact ⟨(h.bound b hOld).unlisted, (h.bound b hOld).listed⟩
    · obtain rfl := List.mem_singleton.mp hNew
      exact ⟨hBinds.unlisted, hBinds.listed⟩

end Publishes

/-- The entries of a table that was built are bound under consecutive numbers. -/
theorem binds_withEntries {t : MethodTable N} (ht : t.WellFormed) (codec : CodecConfig) :
    (s.withEntries codec t.entries).Binds
      ⟨t, codec, MethodTable.numbered s.functions.length [] t.entries⟩ where
  unlisted name hNone := by
    rw [MethodTable.get?_numbered_of_not_mem (Names.get?_eq_none_iff.mp hNone)]
    rfl
  listed name c hListed := by
    obtain ⟨i, hi⟩ := List.mem_iff_getElem?.mp (Names.mem_of_get? hListed)
    refine ⟨_, MethodTable.get?_numbered_of_mem ht.nodup hi, ?_⟩
    rw [functions_withEntries, List.getElem?_append_right (Nat.le_add_right _ _),
      Nat.add_sub_cancel_left, List.getElem?_map, hi, Option.map_some]

end State

section Unpublished

open State

/-- The computation publishes no table, wherever it is begun. -/
def Unpublished (m : Run N α) : Prop := ∀ s : State N, Keeps s.Later m

namespace Unpublished

theorem later {m : Run N α} (h : Unpublished m) {s s' : State N} {marks : List (Mark N)}
    (hp : m.Passes s marks s') : s.Later s' := h s s marks s' (.refl s) hp

theorem atomic {f : State N → α × State N} (hf : ∀ s : State N, s.Later (f s).2) :
    Unpublished (Run.atomic f) := fun _ => .atomic fun s h => h.trans (hf s)

theorem announce {mark : Mark N} {f : State N → State N} (hf : ∀ s : State N, s.Later (f s)) :
    Unpublished (Run.announce mark f) := fun _ => .announce fun s h => h.trans (hf s)

theorem stepwise : Stepwise (N := N) fun _ m => Unpublished m where
  pure a _ := .done a
  bind hm hf s := .bind (hm s) fun a => hf a s
  look hf s := .look fun s' => hf s' s
  assign _ _ := .atomic fun _ => .aside rfl rfl rfl
  lambda _ := .atomic fun _ => .added rfl rfl rfl
  capture _ := .atomic fun _ => .aside rfl rfl rfl
  lending hf s := .lending (fun _ h => h.trans (.aside rfl rfl rfl))
    (fun _ h => h.trans (.aside rfl rfl rfl)) fun h => hf h s
  write _ _ _ := .atomic fun _ => .aside rfl rfl rfl
  destroy _ _ _ _ := .atomic fun _ => .aside rfl rfl rfl

theorem compositional : Compositional (N := N) fun _ m => Unpublished m where
  toComposable := stepwise.composable
  enter e args hCall := by
    refine stepwise.composable.enter hCall (fun b => ?_) (fun e args => ?_) (fun vs => ?_)
      (fun name error => ?_) e args
    all_goals exact .announce fun _ => .aside rfl rfl rfl

theorem binding : Binding (N := N) fun _ m => Unpublished m where
  toCalling := compositional.calling
  bound codec name c := .atomic fun s => by
    split
    · exact .refl s
    · exact .added rfl rfl rfl
  space name := .atomic fun s => by
    split
    · exact .refl s
    · exact .aside rfl rfl rfl
    · exact .refl s
  entered _ _ _ := .atomic fun _ => .aside rfl rfl rfl
  typed t identifier := .atomic fun s => by
    split
    · exact .refl s
    · rename_i i r hr
      have hGrows := (Registry.admits_of_register hr).2.grows
      dsimp only
      split
      · exact ⟨rfl, hGrows, List.prefix_refl _⟩
      · exact ⟨rfl, hGrows, List.prefix_refl _⟩
  created t o := .atomic fun s => by
    dsimp only
    split
    · exact .aside rfl rfl rfl
    · exact .aside rfl rfl rfl
  table := .atomic fun _ => .aside rfl rfl rfl
  inert := .atomic fun _ => .added rfl rfl rfl
  unstamped := .atomic fun _ => .aside rfl rfl rfl

theorem finalize (s : State N) (block : Nat) : s.Later (s.finalize block) := by
  unfold State.finalize
  split
  · split
    · exact .aside rfl rfl rfl
    · exact .refl s
  · exact .refl s

end Unpublished

theorem Operation.unpublished {op : Operation N}
    (h : ∀ codec owner entries, op ≠ .attach codec owner entries) : Unpublished op.perform := by
  have hForeign (stamp : Value) : Unpublished (Run.addBlock (N := N) ⟨stamp, none⟩) :=
    .atomic fun _ => .aside rfl rfl rfl
  have hRestamped (block : Nat) (stamp : Value) :
      Unpublished (Literal.restamp (N := N) block stamp) := .atomic fun _ => .aside rfl rfl rfl
  refine Unpublished.binding.operation op (fun codec owner entries he => absurd he (h _ _ _))
    (fun l _ => Unpublished.binding.anyLiteral hForeign hRestamped l)
    (fun block stamp _ => hRestamped block stamp) fun held _ => .atomic fun s => ?_
  exact State.collect_induction held (.refl s) fun s' block hs =>
    hs.trans (Unpublished.finalize s' block)

end Unpublished

section Attach

variable {s s' : State N} {as : List (Attachment N)} {t : MethodTable N} {codec : CodecConfig}
  {marks : List (Mark N)}

theorem Run.passes_read_bind_iff {β : Type} {f : State N → α} {k : α → Run N β} :
    (Run.read f >>= k).Passes s marks s' ↔ (k (f s)).Passes s marks s' :=
  Run.passes_look_iff

theorem later_of_publish {identifier : String} {methods : Names Value} {k : Unit → Run N α}
    (hk : ∀ u, Unpublished (k u))
    (hp : (Run.modify (fun s => s.publish identifier methods) >>= k).Passes s marks s') :
    s' = s ∨ (s.publish identifier methods).Later s' := by
  rcases Run.passes_bind_iff.mp hp with hPublish | ⟨_, -, hRest⟩
  · obtain ⟨-, rfl | rfl⟩ := Run.passes_atomic_iff.mp hPublish
    · exact .inl rfl
    · exact .inr (.refl _)
  · exact .inr ((hk ()).later hRest)

theorem State.Publishes.withEntries (h : s.Publishes as) (codec : CodecConfig)
    (entries : List (String × Callable N)) : (s.withEntries codec entries).Publishes as :=
  h.later (.added (methods_withEntries codec entries) (registry_withEntries codec entries)
    (functions_withEntries codec entries))

theorem State.Publishes.attached {identifier : String} (h : s.Publishes as) (ht : t.WellFormed)
    (hIdentifier : s.registry.identifier? t.owner = some identifier) (codec : CodecConfig) :
    let methods := MethodTable.numbered s.functions.length [] t.entries
    ((s.withEntries codec t.entries).publish identifier methods).Publishes
      (as ++ [⟨t, codec, methods⟩]) := by
  refine (h.withEntries codec t.entries).publish ?_ (binds_withEntries ht codec)
  rw [registry_withEntries]
  exact hIdentifier

/-- While a table is attached, the ones before are published until it is, and it is from then on. -/
theorem publishes_of_attach {identifier : String} (h : s.Publishes as) (ht : t.WellFormed)
    (hIdentifier : s.registry.identifier? t.owner = some identifier)
    (hp : (t.attach codec).Passes s marks s') :
    s'.Publishes as ∨
    s'.Publishes (as ++ [⟨t, codec, MethodTable.numbered s.functions.length [] t.entries⟩]) := by
  rw [MethodTable.attach, Run.passes_read_bind_iff, hIdentifier] at hp
  have hOwner := Registry.isSome_identityOf? hIdentifier
  rcases Run.passes_bind_iff.mp hp with hBinding | ⟨_, -, hp⟩
  · exact .inl (h.later ((Unpublished.binding.bindEntries _ _ _).later hBinding))
  · rw [MethodTable.run_bindEntries (ht.bindable hOwner)] at hp
    have hTold (_ : Unit) : Unpublished (do
        Run.emit (.methodsAttached identifier t.size)
        return .ok (MethodTable.numbered s.functions.length [] t.entries) :
          Run N (Except BridgeError (Names Value))) :=
      Unpublished.stepwise.bind (.atomic fun _ => .aside rfl rfl rfl) fun _ =>
        Unpublished.stepwise.pure _
    rcases later_of_publish hTold hp with rfl | hLater
    · exact .inl (h.withEntries codec t.entries)
    · exact .inr ((h.attached ht hIdentifier codec).later hLater)

end Attach

namespace Operation

variable {s s' : State N} {as : List (Attachment N)} {op : Operation N} {marks : List (Mark N)}

/-- An operation publishes no table, or it attaches one to a registered type. -/
theorem attaches_or (op : Operation N) (s : State N) :
    (op.attachment? s = none ∧ ∀ marks s', op.perform.Passes s marks s' → s.Later s') ∨
    ∃ (t : MethodTable N) (codec : CodecConfig) (identifier : String), t.WellFormed ∧
      s.registry.identifier? t.owner = some identifier ∧ op.perform = (t.attach codec).forget ∧
      op.attachment? s = some ⟨t, codec, MethodTable.numbered s.functions.length [] t.entries⟩ := by
  cases op with
  | attach codec owner entries =>
    rw [perform, attachment?]
    cases hBuild : MethodTable.build owner entries with
    | error e =>
      refine .inl ⟨rfl, fun marks s' hp => ?_⟩
      obtain ⟨-, rfl⟩ := Run.passes_pure_iff.mp hp
      exact .refl _
    | ok t =>
      have ht := (MethodTable.of_build hBuild).2
      cases hIdentifier : s.registry.identifier? t.owner with
      | none =>
        dsimp only
        rw [MethodTable.run_attach_unregistered hIdentifier]
        refine .inl ⟨rfl, fun marks s' hp => ?_⟩
        have hp : (t.attach codec).Passes s marks s' := Run.passes_map_iff.mp hp
        rw [MethodTable.attach, Run.passes_read_bind_iff, hIdentifier] at hp
        obtain ⟨-, rfl⟩ := Run.passes_pure_iff.mp hp
        exact .refl _
      | some identifier =>
        dsimp only
        rw [MethodTable.run_attach_registered ht hIdentifier]
        exact .inr ⟨t, codec, identifier, ht, hIdentifier, rfl, rfl⟩
  | _ => exact .inl ⟨rfl, fun _ _ hp => (unpublished fun _ _ _ he => by cases he).later hp⟩

theorem publishes_passed (h : s.Publishes as) (hp : op.perform.Passes s marks s') :
    s'.Publishes as ∨ s'.Publishes (as ++ (op.attachment? s).toList) := by
  rcases op.attaches_or s with
    ⟨-, hLater⟩ | ⟨t, codec, identifier, ht, hIdentifier, hPerform, hSome⟩
  · exact .inl (h.later (hLater marks s' hp))
  · rw [hPerform] at hp
    rw [hSome]
    exact publishes_of_attach h ht hIdentifier (Run.passes_map_iff.mp hp)

theorem publishes_last (h : s.Publishes as) :
    (op.perform.run s).2.Publishes (as ++ (op.attachment? s).toList) := by
  rcases op.attaches_or s with
    ⟨hNone, hLater⟩ | ⟨t, codec, identifier, ht, hIdentifier, hPerform, hSome⟩
  · rw [hNone, Option.toList_none, List.append_nil]
    exact h.later (hLater _ _ (Run.passes_last op.perform s))
  · rw [hPerform, hSome, Run.forget, Run.run_bind, MethodTable.run_attach_registered ht hIdentifier]
    exact (h.attached ht hIdentifier codec).later (.aside rfl rfl rfl)

end Operation

theorem attachments_append (ops : List (Operation N)) (op : Operation N) (s : State N) :
    attachments (ops ++ [op]) s =
      attachments ops s ++ (op.attachment? ((performAll ops).run s).2).toList := by
  induction ops generalizing s with
  | nil => exact List.append_nil _
  | cons first rest ih =>
    rw [List.cons_append, attachments, ih, attachments, performAll, Run.run_bind, List.append_assoc]

theorem publishes_performAll {ops : List (Operation N)} {s : State N} {as : List (Attachment N)}
    (h : s.Publishes as) : ((performAll ops).run s).2.Publishes (as ++ attachments ops s) := by
  induction ops generalizing s as with
  | nil => exact (List.append_nil as).symm ▸ h
  | cons op rest ih =>
    rw [performAll, Run.run_bind, attachments, ← List.append_assoc]
    exact ih (Operation.publishes_last h)

theorem History.publishes_last (h : History N) : h.last.Publishes h.attachments := by
  have hOpened : h.opened.Publishes [] := by
    obtain ⟨opened, names, limit, hOpened⟩ := Host.opened_of_create h.created
    rw [hOpened]
    exact ⟨fun _ => rfl, fun _ ha => (nomatch ha), fun _ ha => (nomatch ha)⟩
  exact publishes_performAll hOpened

section Lookup

variable {s : State N} {as : List (Attachment N)} {identifier : String} {block : Nat} {key : Value}

/-- What scripts find under a key in the handles that are stamped with the identifier: what was
bound for the key by the latest attachment to the type, and nothing if the table does not list it.
-/
inductive State.Finds (s : State N) (as : List (Attachment N)) (identifier : String) (key : Value) :
    Value → Prop where
  | entry {a : Attachment N} {name : String} {c : Callable N} {id : Nat}
      (hLatest : (s.attachedTo as identifier).getLast? = some a) (hKey : key.text? = some name)
      (hListed : a.table.get? name = some c) (hMethod : a.methods.get? name = some (.function id))
      (he : s.functions[id]? = some (.entry ⟨name, c, a.codec⟩)) :
      Finds s as identifier key (.function id)
  | nothing
      (h : ∀ a name, (s.attachedTo as identifier).getLast? = some a → key.text? = some name →
        a.table.get? name = none) : Finds s as identifier key .nil

theorem State.Publishes.finds (h : s.Publishes as)
    (hStamp : (s.stampOf block).coerceText? = .ok (some identifier)) (key : Value) :
    ∃ v, s.member block key = .ok v ∧ s.Finds as identifier key v := by
  have hMember : s.member block key = .ok (((s.attachedTo as identifier).getLast?.map
      fun a => State.entry a.methods key).getD .nil) := by
    simp only [member, hStamp, h.latest]
    cases (s.attachedTo as identifier).getLast? <;> rfl
  refine ⟨_, hMember, ?_⟩
  cases hLatest : (s.attachedTo as identifier).getLast? with
  | none => exact .nothing fun a name ha => absurd (ha.symm.trans hLatest) (Option.some_ne_none a)
  | some a =>
    have hBinds := h.bound a (List.mem_filter.mp (List.mem_of_getLast? hLatest)).1
    change s.Finds as identifier key (State.entry a.methods key)
    rw [State.entry]
    cases hKey : key.text? with
    | none =>
      exact .nothing fun b name _ hName => absurd (hName.symm.trans hKey) (Option.some_ne_none name)
    | some name =>
      cases hListed : a.table.get? name with
      | none =>
        dsimp only
        rw [hBinds.unlisted name hListed]
        refine .nothing fun b other hb hOther => ?_
        obtain rfl := Option.some.inj (hLatest.symm.trans hb)
        obtain rfl := Option.some.inj (hKey.symm.trans hOther)
        exact hListed
      | some c =>
        obtain ⟨id, hMethod, he⟩ := hBinds.listed name c hListed
        dsimp only
        rw [hMethod]
        exact .entry hLatest hKey hListed hMethod he

/-- What calling a method comes to, by what its arguments come to: entering what the latest table
lists under the name, on the handle and the arguments, or an error if it lists nothing. -/
inductive State.CallsMethod (s : State N) (as : List (Attachment N)) (identifier : String)
    (block : Nat) (name : String) (depth : Nat) :
    Except Value (List Value) × State N → Except Value (List Value) × State N → Prop where
  | entered {a : Attachment N} {c : Callable N} {vs : List Value} {s' : State N}
      (hLatest : (s.attachedTo as identifier).getLast? = some a)
      (hListed : a.table.get? name = some c) :
      CallsMethod s as identifier block name depth (.ok vs, s')
        (let e : EntryPoint N := ⟨name, c, a.codec⟩
        let r := (e.enter (callWith depth) (.userdata block :: vs)).run s'
        (r.1.mapError fun error => .error (.callback "" (.bridge error)), r.2))
  | missing {vs : List Value} {s' : State N}
      (h : ∀ a, (s.attachedTo as identifier).getLast? = some a → a.table.get? name = none) :
      CallsMethod s as identifier block name depth (.ok vs, s')
        (.error (.ofText s!"attempt to call a nil value (method '{name}')"), s')
  | unreached {error : Value} {s' : State N} :
      CallsMethod s as identifier block name depth (.error error, s') (.error error, s')

theorem later_of_evalArgs (depth : Nat) (args : List (Expr Value)) :
    s.Later ((evalArgs (callWith depth) args).run.run s).2 :=
  (Unpublished.stepwise.composable.evalArgs (Unpublished.compositional.callWith _) args).later
    (Run.passes_last _ s)

theorem State.Publishes.callsMethod (h : s.Publishes as)
    (hStamp : (s.stampOf block).coerceText? = .ok (some identifier))
    (hHandle : s.isHandle block = true) {depth : Nat} {of : Expr Value} {ws : List Value}
    {s₀ : State N} (hOf : (of.eval (callWith (depth + 1))).run.run s₀ = (.ok ws, s))
    (hBlock : firstOf ws = .userdata block) (name : String) (args : List (Expr Value)) :
    s.CallsMethod as identifier block name depth ((evalArgs (callWith (depth + 1)) args).run.run s)
      (((Expr.method of name args).eval (callWith (depth + 1))).run.run s₀) := by
  obtain ⟨v, hMember, hFinds⟩ := h.finds hStamp (.ofText name)
  have hText : (Value.ofText name).text? = some name := fromUTF8?_toUTF8 name
  have hLater := later_of_evalArgs (s := s) (depth + 1) args
  rw [run_method hOf hBlock hHandle hMember]
  cases hArgs : (evalArgs (callWith (depth + 1)) args).run.run s with
  | mk outcome s' =>
    rw [hArgs] at hLater
    cases outcome with
    | error error =>
      rw [Raising.run_bind_error hArgs]
      exact .unreached
    | ok vs =>
      rw [Raising.run_bind_ok hArgs]
      cases hFinds with
      | @entry a other c id hLatest hKey hListed hMethod he =>
        obtain rfl := Option.some.inj (hText.symm.trans hKey)
        have hEntered : (callWith (depth + 1) (.function id) (.userdata block :: vs)).run s' = _ :=
          run_callWith_entry (getElem?_of_grown hLater.functions he)
        exact hEntered ▸ .entered hLatest hListed
      | nothing hNothing => exact .missing fun a ha => hNothing a name ha hText

end Lookup

/-- Whatever is done with a host, in whatever order: an attribute of a handle whose stamp reads as a
text is what was bound for it by the latest attachment to the type that is registered under the
text, and nil if there is none or its table does not list the attribute. So a method call enters
what this table lists, or nothing. While an operation attaches a table, the latest attachment is the
one before or already the new one. -/
theorem lookup_follows_latest (h : History N) (op : Operation N) {marks : List (Mark N)}
    {s : State N} (hp : op.perform.Passes h.last marks s) :
    (h.perform op).attachments = h.attachments ++ (op.attachment? h.last).toList ∧
    ∃ as, (as = h.attachments ∨ as = (h.perform op).attachments) ∧
      ∀ block identifier, s.isHandle block = true →
        (s.stampOf block).coerceText? = .ok (some identifier) →
        (∀ reference key, ∃ v,
          (indexValue reference (.userdata block) key).run.run s = (.ok v, s) ∧
          s.Finds as identifier key v) ∧
        ∀ depth of ws s₀, (of.eval (callWith (depth + 1))).run.run s₀ = (.ok ws, s) →
          firstOf ws = .userdata block → ∀ name args,
          s.CallsMethod as identifier block name depth
            ((evalArgs (callWith (depth + 1)) args).run.run s)
            (((Expr.method of name args).eval (callWith (depth + 1))).run.run s₀) := by
  have hAttachments : (h.perform op).attachments =
      h.attachments ++ (op.attachment? h.last).toList := attachments_append _ _ _
  refine ⟨hAttachments, ?_⟩
  have hPublishes : ∃ as, (as = h.attachments ∨ as = (h.perform op).attachments) ∧
      s.Publishes as := by
    rw [hAttachments]
    rcases Operation.publishes_passed h.publishes_last hp with hBefore | hAfter
    · exact ⟨_, .inl rfl, hBefore⟩
    · exact ⟨_, .inr rfl, hAfter⟩
  obtain ⟨as, hAs, hPublishes⟩ := hPublishes
  refine ⟨as, hAs, fun block identifier hHandle hStamp => ⟨fun reference key => ?_, ?_⟩⟩
  · obtain ⟨v, hMember, hFinds⟩ := hPublishes.finds hStamp key
    exact ⟨v, run_indexValue_handle reference hHandle hMember, hFinds⟩
  · intro depth of ws s₀ hOf hBlock name args
    exact hPublishes.callsMethod hStamp hHandle hOf hBlock name args

open Sample in
/-- A history with one account, whose table is replaced by one without the first entry. -/
def Sample.narrowed : History sampleNatives :=
  Sample.history [.registerType ObjectType.account "Account",
    .attach {} ObjectType.account [("deposit", deposit), ("balance", balance)],
    .create ObjectType.account (⟨"first", .wrap _ 5, "savings"⟩ : Account),
    .attach {} ObjectType.account [("balance", balance)]]

theorem lookup_follows_latest_narrowed :
    let h := Sample.narrowed
    let op : Operation sampleNatives := .exec 0 []
    op.perform.Passes h.last [] h.last ∧ h.last.isHandle 0 = true ∧
      (h.last.stampOf 0).coerceText? = .ok (some "Account") ∧
      h.attachments.map (·.table.entries.map Prod.fst) = [["deposit", "balance"], ["balance"]] ∧
      h.last.Finds h.attachments "Account" (.ofText "deposit") .nil := by
  intro h op
  have hp : op.perform.Passes h.last [] h.last := .here _ _
  have hHandle : Sample.narrowed.last.isHandle 0 = true := by decide +kernel
  have hStamp : (Sample.narrowed.last.stampOf 0).coerceText? = .ok (some "Account") := rfl
  have hMember : Sample.narrowed.last.member 0 (.ofText "deposit") = .ok .nil := rfl
  obtain ⟨hAttachments, as, hAs, hLookup⟩ := lookup_follows_latest h op hp
  have hSame : as = h.attachments :=
    hAs.elim id fun hAfter => hAfter.trans (hAttachments.trans (List.append_nil _))
  obtain ⟨v, hFound, hFinds⟩ := (hLookup 0 "Account" hHandle hStamp).1 "" (.ofText "deposit")
  have hNil := hFound.symm.trans (run_indexValue_handle "" hHandle hMember)
  obtain rfl : v = .nil := Except.ok.inj (congrArg Prod.fst hNil)
  exact ⟨hp, hHandle, hStamp, by decide +kernel, hSame ▸ hFinds⟩

end ScriptBridge
