import ScriptBridge.Native.Program

/-!
# Native callables

A native body with its parameter and return types, taken from a free-standing function or from a
member of an object type. The signature that scripts are told is computed from the same types that
the body is run at; for members it starts with the receiver.
-/
namespace ScriptBridge

inductive FreeShape where
  | function
  | pointer
  | closure
  deriving DecidableEq, Repr

inductive Shape where
  | free (shape : FreeShape)
  /-- Whether the receiver is only read. -/
  | member (shared : Bool)
  deriving DecidableEq, Repr

def Shape.rendered : Shape → String
  | free .function => "FreeFunction"
  | free .pointer => "FunctionPointer"
  | free .closure => "Closure"
  | member shared => Rendered.record "Member" [("shared", toString shared)]

inductive Body (N : Natives) (params : List (NativeType N.ObjectType))
    (returns : ReturnType N.ObjectType) : Type 1 where
  | free (shape : FreeShape) (run : Args params → Program N returns.Native)
  | shared (owner : N.ObjectType) (run : N.Payload owner → Args params → Program N returns.Native)
  | exclusive (owner : N.ObjectType)
      (run : N.Payload owner → Args params → Program N (returns.Native × N.Payload owner))

structure Callable (N : Natives) where
  params : List (NativeType N.ObjectType)
  returns : ReturnType N.ObjectType
  body : Body N params returns

namespace Callable

variable {N : Natives}

def shape (c : Callable N) : Shape :=
  match c.body with
  | .free shape _ => .free shape
  | .shared .. => .member true
  | .exclusive .. => .member false

def owner? (c : Callable N) : Option N.ObjectType :=
  match c.body with
  | .free .. => none
  | .shared owner _ => some owner
  | .exclusive owner _ => some owner

def isMember (c : Callable N) : Bool := c.owner?.isSome

def signature (c : Callable N) : Signature where
  params :=
    match c.owner? with
    | none => c.params.map NativeType.kind
    | some _ => .object :: c.params.map NativeType.kind
  returns := c.returns.kind

/-- How many script arguments are expected, the receiver included. -/
def arity (c : Callable N) : Nat := c.signature.arity

def ownerName? (c : Callable N) : Option String := c.owner?.map N.typeName

def rendered (c : Callable N) : String :=
  "NativeCallable \x7b shape: " ++ c.shape.rendered ++ ", signature: " ++ c.signature.rendered ++
    ", owner: " ++ Rendered.option (c.ownerName?.map quoted) ++ ", .. \x7d"

end Callable

end ScriptBridge
