import ScriptBridge.Text.Ranges
import ScriptBridge.Text.Unprintable
import ScriptBridge.Text.Extender

/-!
# Quoted text

The rendering of strings and records in log fields. A string stands in double quotes; whatever would
not show as a character of its own is escaped.
-/
namespace ScriptBridge

namespace Quoted

def isUnprintable (c : Char) : Bool := Ranges.contains Unprintable.ranges c

def isExtender (c : Char) : Bool := Ranges.contains Extender.ranges c

def codePoint (c : Char) : List Char :=
  "\\u\x7b".toList ++ Nat.toDigits 16 c.toNat ++ ['\x7d']

def escape (c : Char) : List Char :=
  match c with
  | '\x00' => ['\\', '0']
  | '\t' => ['\\', 't']
  | '\n' => ['\\', 'n']
  | '\r' => ['\\', 'r']
  | '"' => ['\\', '"']
  | '\\' => ['\\', '\\']
  | _ => if isExtender c || isUnprintable c then codePoint c else [c]

end Quoted

def quoted (s : String) : String :=
  String.ofList ('"' :: s.toList.flatMap Quoted.escape ++ ['"'])

namespace Rendered

def list (items : List String) : String := "[" ++ ", ".intercalate items ++ "]"

def option : Option String → String
  | none => "None"
  | some item => "Some(" ++ item ++ ")"

/-- A name with named fields in braces; one without fields is the bare name. -/
def record (name : String) (fields : List (String × String)) : String :=
  if fields.isEmpty then name
  else name ++ " \x7b " ++ ", ".intercalate (fields.map fun (k, v) => k ++ ": " ++ v) ++ " \x7d"

end Rendered

end ScriptBridge
