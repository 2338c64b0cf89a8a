import ScriptBridge.Names
import ScriptBridge.Numeral

/-!
# TOML values

What a TOML document holds. A table remembers how it came about, because that decides what may still
be added to it: a table in braces is closed, one with a header of its own cannot get a second, and
one that only appeared on the way to another may yet be given its header.
-/
namespace ScriptBridge.Toml

inductive Form where
  | inline
  | headed
  /-- Passed by a header on the way to another table. -/
  | implied
  | dotted
  deriving DecidableEq, Repr

inductive Value where
  | text (s : String)
  | integer (i : Int64)
  | float (x : Binary64)
  | boolean (b : Bool)
  /-- A date, a time of day or both; only its presence matters here. -/
  | dateTime
  | array (items : List Value)
  | table (form : Form) (entries : List (String × Value))
  /-- Tables collected under repeated double-bracket headers. -/
  | tables (items : List (List (String × Value)))
  deriving Inhabited

abbrev Entries := Names Value

/-- A dotted key: the tables it passes, then the name it ends in. -/
structure Key where
  scope : List String
  name : String
  deriving DecidableEq, Repr

def Key.path (k : Key) : List String := k.scope ++ [k.name]

def onLast {α : Type} (f : α → Option α) : List α → Option (List α)
  | [] => none
  | [a] => (f a).map ([·])
  | a :: b :: r => (onLast f (b :: r)).map (a :: ·)

namespace Entries

/-- Adds a value under a dotted key. Tables on the way must be open to dotted keys and the last of
them must be made of such keys alone; the name must be new. -/
def assign (v : Value) : (scope : List String) → (name : String) → Entries → Option Entries
  | [], name, t => if (t.get? name).isSome then none else some (t ++ [(name, v)])
  | k :: ks, name, t =>
    match t.get? k with
    | none => (assign v ks name []).map fun sub => t ++ [(k, .table .dotted sub)]
    | some (.table .dotted sub) =>
      (assign v ks name sub).map fun sub => t.put k (.table .dotted sub)
    | some (.table .implied sub) =>
      if ks.isEmpty then none
      else (assign v ks name sub).map fun sub => t.put k (.table .implied sub)
    | some (.tables items) =>
      if ks.isEmpty then none
      else (onLast (assign v ks name) items).map fun items => t.put k (.tables items)
    | some _ => none

/-- Changes the table at a header's path; tables that are missing on the way are implied. -/
def within (f : Entries → Option Entries) : (path : List String) → Entries → Option Entries
  | [], t => f t
  | k :: ks, t =>
    match t.get? k with
    | none => (within f ks []).map fun sub => t ++ [(k, .table .implied sub)]
    | some (.table .inline _) => none
    | some (.table form sub) => (within f ks sub).map fun sub => t.put k (.table form sub)
    | some (.tables items) =>
      (onLast (within f ks) items).map fun items => t.put k (.tables items)
    | some _ => none

/-- Opens the table of a header. One that was implied keeps its content and moves to the end. -/
def openTable (name : String) (t : Entries) : Option Entries :=
  match t.get? name with
  | none => some (t ++ [(name, .table .headed [])])
  | some (.table .implied sub) =>
    some (t.filter (fun e => e.1 != name) ++ [(name, .table .headed sub)])
  | some _ => none

/-- Opens a further table of a double-bracket header. -/
def openElement (name : String) (t : Entries) : Option Entries :=
  match t.get? name with
  | none => some (t ++ [(name, .tables [[]])])
  | some (.tables items) => some (t.put name (.tables (items ++ [[]])))
  | some _ => none

end Entries

end ScriptBridge.Toml
