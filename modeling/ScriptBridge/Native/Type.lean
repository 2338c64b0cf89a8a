import ScriptBridge.Script.Value

/-!
# Native types

The types that native callables take and give, as data: a `NativeType` has a kind for scripts and a
type `Native` of values. Object types are a parameter; a reference to an object names the userdata
that holds it and knows the type it is meant to be, which nothing but the codec checks.
-/
namespace ScriptBridge

/-- Sizes of native integers; an address has 64 bits. -/
inductive IntegerSize where
  | bits8
  | bits16
  | bits32
  | bits64
  | address
  deriving DecidableEq, Repr

def IntegerSize.bits : IntegerSize → Nat
  | bits8 => 8
  | bits16 => 16
  | bits32 => 32
  | bits64 => 64
  | address => 64

inductive IntegerType where
  | signed (size : IntegerSize)
  | unsigned (size : IntegerSize)
  deriving DecidableEq, Repr

namespace IntegerType

def least : IntegerType → Int
  | signed s => -(Nat.pow 2 (s.bits - 1) : Nat)
  | unsigned _ => 0

def greatest : IntegerType → Int
  | signed s => (Nat.pow 2 (s.bits - 1) : Nat) - 1
  | unsigned s => (Nat.pow 2 s.bits : Nat) - 1

def span (t : IntegerType) : Int := t.greatest - t.least + 1

theorem span_pos (t : IntegerType) : 0 < t.span := by
  rcases t with s | s <;> cases s <;> decide

end IntegerType

structure Bounded (t : IntegerType) where
  val : Int
  least_le : t.least ≤ val
  le_greatest : val ≤ t.greatest
  deriving DecidableEq

namespace Bounded

variable {t : IntegerType}

def ofInt? (t : IntegerType) (i : Int) : Option (Bounded t) :=
  if h : t.least ≤ i ∧ i ≤ t.greatest then some ⟨i, h.1, h.2⟩ else none

/-- The integer of the type with the same residue. -/
def wrap (t : IntegerType) (i : Int) : Bounded t where
  val := (i - t.least) % t.span + t.least
  least_le := by
    have := Int.emod_nonneg (i - t.least) (Int.ne_of_gt t.span_pos)
    omega
  le_greatest := by
    have := Int.emod_lt_of_pos (i - t.least) t.span_pos
    simp only [IntegerType.span] at this ⊢
    omega

instance : Inhabited (Bounded t) := ⟨wrap t 0⟩

instance : Add (Bounded t) := ⟨fun a b => wrap t (a.val + b.val)⟩

instance : Sub (Bounded t) := ⟨fun a b => wrap t (a.val - b.val)⟩

instance : Neg (Bounded t) := ⟨fun a => wrap t (-a.val)⟩

instance : ToString (Bounded t) := ⟨fun a => toString a.val⟩

end Bounded

structure StringView where
  text : String
  deriving DecidableEq, Repr, Inhabited

/-- A reference to the object of type `t` in a userdata. -/
structure ObjectRef {τ : Type} (t : τ) where
  block : Nat
  deriving DecidableEq, Repr

/-- A script function that native code may call. -/
structure Callback where
  function : Nat
  deriving DecidableEq, Repr, Inhabited

inductive NativeType (τ : Type) where
  | integer (t : IntegerType)
  | float (w : Width)
  | boolean
  | text
  | view
  | object (t : τ)
  /-- Absent values are nil in scripts. -/
  | option (of : NativeType τ)
  /-- Red, green and blue as a script string `#rrggbb`. -/
  | color
  | callback
  deriving DecidableEq, Repr

namespace NativeType

variable {τ : Type}

def kind : NativeType τ → Kind
  | integer _ => .integer
  | float _ => .number
  | boolean => .boolean
  | text => .string
  | view => .stringView
  | object _ => .object
  | option s => s.kind
  | color => .custom "color"
  | callback => .custom "function"

@[reducible] def Native : NativeType τ → Type
  | integer t => Bounded t
  | float w => Binary w
  | boolean => Bool
  | text => String
  | view => StringView
  | object t => ObjectRef t
  | option s => Option s.Native
  | color => UInt32
  | callback => Callback

end NativeType

@[reducible] def Args {τ : Type} : List (NativeType τ) → Type
  | [] => Unit
  | t :: ts => t.Native × Args ts

inductive ReturnType (τ : Type) where
  | nothing
  | value (t : NativeType τ)
  /-- A result or the text of a failure. -/
  | fallible (of : ReturnType τ)
  deriving DecidableEq, Repr

namespace ReturnType

variable {τ : Type}

def kind : ReturnType τ → Kind
  | nothing => .void
  | value t => t.kind
  | fallible r => r.kind

@[reducible] def Native : ReturnType τ → Type
  | nothing => Unit
  | value t => t.Native
  | fallible r => Except String r.Native

end ReturnType

end ScriptBridge
