import ScriptBridge.Text.Quoted
import ScriptBridge.Toml.Value
import ScriptBridge.Binary.Shortest

/-!
# What is wrong with a configuration

The data of a document that is TOML but no configuration, with the wording of each problem.
-/
namespace ScriptBridge

inductive Problem where
  | invalidType (found expected : String)
  | invalidValue (found expected : String)
  | unknownVariant (name : String) (known : List String)
  /-- A choice is a name, or a table with one. -/
  | noChoice
  | emptyChoice
  | manyChoices
  /-- A choice takes nothing with it. -/
  | chosenWith (found : String)
  | chosenWithEntries
  | chosenWithItems
  deriving DecidableEq, Repr

namespace Problem

def ticked (s : String) : String := "`" ++ s ++ "`"

def oneOf : List String → String
  | [a] => ticked a
  | [a, b] => ticked a ++ " or " ++ ticked b
  | names => "one of " ++ ", ".intercalate (names.map ticked)

def text : Problem → String
  | invalidType found expected => s!"invalid type: {found}, expected {expected}"
  | invalidValue found expected => s!"invalid value: {found}, expected {expected}"
  | unknownVariant name known => "unknown variant " ++ ticked name ++ ", expected " ++ oneOf known
  | noChoice => "wanted string or table"
  | emptyChoice => "wanted exactly 1 element, found 0 elements"
  | manyChoices => "wanted exactly 1 element, more than 1 element"
  | chosenWith found => s!"expected table, found {found}"
  | chosenWithEntries => "expected empty table"
  | chosenWithItems => "expected empty array"

end Problem

namespace Toml.Value

/-- A float with at least one decimal place, if it is finite. -/
def floatText (x : Binary64) : String :=
  if x.isFinite && !x.shortest.toList.contains '.' then x.shortest ++ ".0" else x.shortest

def described : Toml.Value → String
  | text s => "string " ++ quoted s
  | integer i => "integer " ++ Problem.ticked (toString i.toInt)
  | float x => "floating point " ++ Problem.ticked (floatText x)
  | boolean b => "boolean " ++ Problem.ticked (if b then "true" else "false")
  | dateTime | table .. => "map"
  | array _ | tables _ => "sequence"

def kindName : Toml.Value → String
  | text _ => "string"
  | integer _ => "integer"
  | float _ => "float"
  | boolean _ => "boolean"
  | dateTime => "datetime"
  | array _ => "array"
  | table .inline _ => "inline table"
  | table .. => "table"
  | tables _ => "array of tables"

end Toml.Value

end ScriptBridge
