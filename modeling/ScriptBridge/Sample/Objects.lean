import ScriptBridge.Native.Callable

/-!
# Sample objects

A small native side to try the bridge on: accounts, sensors and two types that nobody registers to
begin with. Every object carries a tag by which its end can be told.
-/
namespace ScriptBridge.Sample

inductive ObjectType where
  | account
  | sensor
  | stranger
  | ghost
  deriving DecidableEq, Repr

namespace ObjectType

def all : List ObjectType := [account, sensor, stranger, ghost]

def name : ObjectType → String
  | account => "Account"
  | sensor => "Sensor"
  | stranger => "Stranger"
  | ghost => "Ghost"

def ofName? (name : String) : Option ObjectType := all.find? fun t => t.name = name

def typeName (t : ObjectType) : String := "laf_driver::natives::" ++ t.name

end ObjectType

abbrev i64 : IntegerType := .signed .bits64

structure Account where
  tag : String
  balance : Bounded i64
  label : String

structure Sensor where
  tag : String
  reading : Binary64

/-- An object of a type with nothing but a tag. -/
structure Tagged where
  tag : String

@[reducible] def Payload : ObjectType → Type
  | .account => Account
  | .sensor => Sensor
  | .stranger => Tagged
  | .ghost => Tagged

def tagOf : (t : ObjectType) → Payload t → String
  | .account, o => o.tag
  | .sensor, o => o.tag
  | .stranger, o => o.tag
  | .ghost, o => o.tag

structure Captured where
  tally : Bounded i64 := .wrap _ 0
  sink : Binary64 := .zero .double false
  bumps : Bounded i64 := .wrap _ 0

end Sample

@[reducible] def sampleNatives : Natives where
  ObjectType := Sample.ObjectType
  decEq := inferInstance
  typeName := Sample.ObjectType.typeName
  Payload := Sample.Payload
  Captured := Sample.Captured

end ScriptBridge
