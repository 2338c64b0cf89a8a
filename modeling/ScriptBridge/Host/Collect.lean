import ScriptBridge.Host.Access

/-!
# Collecting garbage

Which values can still be reached, and the end of those objects that cannot. Tables reach their
entries, lambdas the constants they were written with, userdata its stamp. Closing a host ends every
object.
-/
namespace ScriptBridge

inductive Place where
  | table (id : Nat)
  | function (id : Nat)
  | userdata (id : Nat)
  deriving DecidableEq, Repr

def Value.place? : Value → Option Place
  | .table id => some (.table id)
  | .function id => some (.function id)
  | .userdata id => some (.userdata id)
  | _ => none

variable {N : Natives}

namespace State

def content (s : State N) : Place → List Value
  | .table id => (s.table id).map Prod.snd
  | .function id =>
    match s.functions[id]? with
    | some (.lambda body) => constantsOfBody body
    | _ => []
  | .userdata id => [s.stampOf id]

def references (s : State N) (p : Place) : List Place := (s.content p).filterMap Value.place?

def places (s : State N) : List Place :=
  (List.range s.tables.length).map Place.table ++
    (List.range s.functions.length).map Place.function ++
    (List.range s.blocks.length).map Place.userdata

/-- Follows the references in `pending`; `fuel` bounds how many are looked at. -/
def reach (s : State N) : (fuel : Nat) → (pending seen : List Place) → List Place
  | 0, _, seen => seen
  | _ + 1, [], seen => seen
  | fuel + 1, p :: pending, seen =>
    if p ∈ seen then s.reach fuel pending seen
    else s.reach fuel (s.references p ++ pending) (p :: seen)

/-- The places a host can still reach: from its globals, its method tables and what is `held`. -/
def reachableFrom (s : State N) (held : List Value) : List Place :=
  let roots := .table 0 ::
    ((s.methods.flatMap fun (_, t) => t.map Prod.snd) ++ held).filterMap Value.place?
  s.reach (roots.length + (s.places.flatMap s.references).length + 1) roots []

def finalize (s : State N) (block : Nat) : State N :=
  match (s.blocks[block]?).bind Block.content with
  | some ⟨t, h⟩ =>
    match h.object with
    | some o => (s.setHandle t block { h with object := none }).bury t h o false
    | none => s
  | none => s

/-- Ends every object that is reached neither from the state nor from `held`. -/
def collect (s : State N) (held : List Value) : State N :=
  let kept := s.reachableFrom held
  (List.range s.blocks.length).foldl
    (fun s block => if .userdata block ∈ kept then s else s.finalize block) s

def close (s : State N) : State N :=
  (List.range s.blocks.length).foldl finalize s

end State

end ScriptBridge
