import ScriptBridge.Text.Quoted

/-!
# Kinds and signatures

What a native callable takes and gives, in the terms of a script. Views and owned text are different
kinds with one name in scripts, so two signatures may differ and still read alike.
-/
namespace ScriptBridge

inductive Kind where
  | integer
  | number
  | boolean
  | stringView
  | string
  | object
  /-- No value; only results are of this kind. -/
  | void
  | custom (name : String)
  deriving DecidableEq, Repr, Inhabited

namespace Kind

def scriptName : Kind → String
  | integer => "integer"
  | number => "number"
  | boolean => "boolean"
  | stringView => "string"
  | string => "string"
  | object => "userdata"
  | void => "nothing"
  | custom name => name

/-- How many script values a result of this kind makes. -/
def resultCount : Kind → Nat
  | void => 0
  | _ => 1

def rendered : Kind → String
  | integer => "Integer"
  | number => "Number"
  | boolean => "Boolean"
  | stringView => "StringView"
  | string => "String"
  | object => "Object"
  | void => "Void"
  | custom name => "Custom(" ++ quoted name ++ ")"

end Kind

structure Signature where
  params : List Kind
  returns : Kind
  deriving DecidableEq, Repr

namespace Signature

def arity (s : Signature) : Nat := s.params.length

def text (s : Signature) : String :=
  "(" ++ ", ".intercalate (s.params.map Kind.scriptName) ++ ") -> " ++ s.returns.scriptName

def rendered (s : Signature) : String :=
  Rendered.record "Signature"
    [("params", Rendered.list (s.params.map Kind.rendered)), ("returns", s.returns.rendered)]

end Signature

end ScriptBridge
