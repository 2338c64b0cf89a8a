import ScriptBridge.Host.Basic
import ScriptBridge.Proofs.Identity.Stamps
import ScriptBridge.Proofs.Script.Raising

/-!
# Ways to a member

Scripts find a bound callable as a global, in a named table, or as a method of a handle. Whichever way
it is found, calling it on a handle and further arguments is entering it with these.
-/
namespace ScriptBridge
set_option autoImplicit false

variable {N : Natives} {s : State N}

namespace State

theorem entry_ofText (t : Names Value) (name : String) :
    entry t (.ofText name) = (t.get? name).getD .nil := by
  simp only [entry, Value.ofText, Value.text?, fromUTF8?_toUTF8]

theorem member_of_stamp {block : Nat} {identifier : String} {methods : Names Value}
    (hStamp : s.stampOf block = .ofText identifier)
    (hMethods : s.methods.get? identifier = some methods) (name : String) :
    s.member block (.ofText name) = .ok ((methods.get? name).getD .nil) := by
  simp only [member, hStamp, Value.coerceText?_ofText, hMethods, entry_ofText]

end State

inductive Route where
  | global (name : String)
  | field (space name : String)
  | method (name : String)
  deriving DecidableEq, Repr

namespace Route

/-- What scripts find on the way, starting from the handle in the block. -/
def Finds (s : State N) (block : Nat) : Route → Value → Prop
  | global name, f => s.global name = f
  | field space name, f =>
    ∃ id, s.global space = .table id ∧ State.entry (s.table id) (.ofText name) = f
  | method name, f => s.isHandle block = true ∧ s.member block (.ofText name) = .ok f

def Leads (s : State N) (block : Nat) (route : Route) (e : EntryPoint N) : Prop :=
  ∃ id, route.Finds s block (.function id) ∧ s.functions[id]? = some (.entry e)

def call (block : Nat) (vs : List Value) : Route → Expr Value
  | global name => .call (.global name) ((.userdata block :: vs).map .constant)
  | field space name =>
    .call (.index (.global space) (.constant (.ofText name)))
      ((.userdata block :: vs).map .constant)
  | method name => .method (.constant (.userdata block)) name (vs.map .constant)

end Route

section Evaluation

variable {caller : Caller N} {vs : List Value}

theorem run_evalArgs_constants (caller : Caller N) (vs : List Value) (s : State N) :
    (evalArgs caller (vs.map .constant)).run.run s = (.ok vs, s) := by
  induction vs with
  | nil => rw [List.map_nil, evalArgs, Raising.run_pure]
  | cons v vs ih =>
    have hFirst : ((Expr.constant v).eval caller).run.run s = (.ok [v], s) := by
      rw [Expr.eval, Raising.run_pure]
    rw [List.map_cons, evalArgs, Raising.run_bind_ok hFirst]
    cases vs with
    | nil => rfl
    | cons w rest => exact (Raising.run_bind_ok ih).trans rfl

theorem run_evalArgs_single (e : Expr Value) (s : State N) :
    (evalArgs caller [e]).run.run s = (e.eval caller).run.run s := by
  rw [evalArgs]
  cases h : (e.eval caller).run.run s with
  | mk outcome s' =>
    cases outcome with
    | ok vs => exact Raising.run_bind_ok h
    | error v => exact Raising.run_bind_error h

theorem run_indexValue_table {id : Nat} (reference : String) (key : Value) :
    (indexValue reference (.table id) key).run.run s = (.ok (State.entry (s.table id) key), s) := by
  rw [indexValue, Raising.run_ofRun, Run.run_read]

theorem run_indexValue_handle {block : Nat} {key f : Value} (reference : String)
    (hHandle : s.isHandle block = true) (hMember : s.member block key = .ok f) :
    (indexValue reference (.userdata block) key).run.run s = (.ok f, s) := by
  have hAsked : (Raising.ofRun (Run.read fun s : State N => s.isHandle block)).run.run s =
      (.ok true, s) := by
    rw [Raising.run_ofRun, Run.run_read, hHandle]
  rw [indexValue, Raising.run_bind_ok hAsked]
  change (Run.read fun s : State N => (s.member block key).mapError Value.error).run s = _
  rw [Run.run_read, hMember]
  rfl

theorem run_eval_global (caller : Caller N) (s : State N) (name : String) :
    ((Expr.global name).eval caller).run.run s = (.ok [s.global name], s) := by
  rw [Expr.eval, Raising.run_ofRun, Run.run_read]

theorem run_eval_field {space : String} {id : Nat} (caller : Caller N)
    (hSpace : s.global space = .table id) (name : String) :
    ((Expr.index (.global space) (.constant (.ofText name))).eval caller).run.run s =
      (.ok [State.entry (s.table id) (.ofText name)], s) := by
  have hKey : ((Expr.constant (.ofText name)).eval caller).run.run s =
      (.ok [.ofText name], s) := by
    rw [Expr.eval, Raising.run_pure]
  rw [Expr.eval, Raising.run_bind_ok (run_eval_global caller s space), Raising.run_bind_ok hKey,
    hSpace]
  exact (Raising.run_bind_ok (run_indexValue_table _ _)).trans rfl

theorem run_call_constants {f : Expr Value} {id : Nat} {gs : List Value}
    (hf : (f.eval caller).run.run s = (.ok gs, s)) (hId : firstOf gs = .function id) :
    ((Expr.call f (vs.map .constant)).eval caller).run.run s =
      (caller (.function id) vs).run s := by
  rw [Expr.eval, Raising.run_bind_ok hf, Raising.run_bind_ok (run_evalArgs_constants caller vs s),
    hId]
  rfl

/-- A method is looked up before the arguments are evaluated. -/
theorem run_method {of : Expr Value} {ws : List Value} {s₀ : State N} {block : Nat} {name : String}
    {f : Value} (hOf : (of.eval caller).run.run s₀ = (.ok ws, s))
    (hBlock : firstOf ws = .userdata block) (hHandle : s.isHandle block = true)
    (hMember : s.member block (.ofText name) = .ok f) (args : List (Expr Value)) :
    ((Expr.method of name args).eval caller).run.run s₀ =
      (evalArgs caller args >>= fun vs =>
        callValue caller s!" (method '{name}')" f (.userdata block :: vs)).run.run s := by
  rw [Expr.eval, Raising.run_bind_ok hOf, hBlock]
  exact Raising.run_bind_ok (run_indexValue_handle _ hHandle hMember)

theorem run_method_constants {block id : Nat} {name : String} (hHandle : s.isHandle block = true)
    (hMember : s.member block (.ofText name) = .ok (.function id)) :
    ((Expr.method (.constant (.userdata block)) name (vs.map .constant)).eval caller).run.run s =
      (caller (.function id) (.userdata block :: vs)).run s := by
  have hOf : ((Expr.constant (.userdata block)).eval caller).run.run s =
      (.ok [.userdata block], s) := by
    rw [Expr.eval, Raising.run_pure]
  rw [run_method hOf rfl hHandle hMember, Raising.run_bind_ok (run_evalArgs_constants caller vs s)]
  rfl

end Evaluation

namespace Route

variable {route : Route} {block id : Nat} {e : EntryPoint N} {vs : List Value}

theorem Finds.run_call (h : route.Finds s block (.function id)) (caller : Caller N) :
    ((route.call block vs).eval caller).run.run s =
      (caller (.function id) (.userdata block :: vs)).run s := by
  cases route with
  | global name =>
    have hGlobal : s.global name = .function id := h
    exact run_call_constants (run_eval_global caller s name) hGlobal
  | field space name =>
    obtain ⟨table, hSpace, hEntry⟩ := h
    exact run_call_constants (run_eval_field caller hSpace name) hEntry
  | method name => exact run_method_constants h.1 h.2

end Route

theorem Host.run_enter_of_call {α : Type} {code : Raising N α}
    {r : Except BridgeError α × State N}
    (h : code.run.run s = (r.1.mapError fun err => .error (.callback "" (.bridge err)), r.2)) :
    (Host.enter code).run s = r := by
  rw [Host.enter, Run.run_bind, h]
  obtain ⟨outcome, s'⟩ := r
  cases outcome <;> rfl

/-- What evaluating one expression gives; an error of an entry point loses the wrapper it got there
where it leaves the code. -/
theorem Host.run_eval_single {depth : Nat} {e : Expr Value}
    {r : Except BridgeError (List Value) × State N}
    (h : (e.eval (callWith depth)).run.run s =
      (r.1.mapError fun err => .error (.callback "" (.bridge err)), r.2)) :
    (Host.eval depth [] [e]).run s = r := by
  have hNothing : (execBody (callWith depth) []).run.run s = (.ok (), s) := by
    rw [execBody, Raising.run_pure]
  refine Host.run_enter_of_call ?_
  rw [Raising.run_bind_ok hNothing, run_evalArgs_single, h]

/-- Evaluating the call on a way that leads to an entry point is entering it. -/
theorem Route.Leads.run_eval {route : Route} {block : Nat} {e : EntryPoint N}
    (h : route.Leads s block e) (depth : Nat) (vs : List Value) :
    (Host.eval (depth + 1) [] [route.call block vs]).run s =
      (e.enter (callWith depth) (.userdata block :: vs)).run s := by
  obtain ⟨id, hFinds, he⟩ := h
  refine Host.run_eval_single ?_
  rw [hFinds.run_call, run_callWith_entry he]

end ScriptBridge
