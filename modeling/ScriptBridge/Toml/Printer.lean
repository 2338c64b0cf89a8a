import ScriptBridge.Toml.Style

/-!
# Writing settings as TOML

Settings are written in sections, each under a header, with a blank line between them. A list of two
or more texts takes a line for each. The texts of settings are any; names of sections and settings
are bare keys.
-/
namespace ScriptBridge.Toml

inductive Setting where
  | flag (b : Bool)
  | count (n : Nat)
  | text (s : String)
  | texts (items : List String)
  deriving DecidableEq, Repr

structure Section where
  name : String
  settings : List (String × Setting)
  deriving DecidableEq, Repr

namespace Setting

def chars : Setting → List Char
  | flag b => (if b then "true" else "false").toList
  | count n => n.repr.toList
  | text s => stringText s.toList
  | texts [] => ['[', ']']
  | texts [s] => '[' :: stringText s.toList ++ [']']
  | texts items =>
    '[' :: items.flatMap (fun s => "\n    ".toList ++ stringText s.toList ++ [',']) ++ ['\n', ']']

end Setting

namespace Section

def chars (s : Section) : List Char :=
  '[' :: s.name.toList ++ [']', '\n'] ++
    s.settings.flatMap fun (name, v) => name.toList ++ [' ', '=', ' '] ++ v.chars ++ ['\n']

end Section

def print (sections : List Section) : String :=
  String.ofList (['\n'].intercalate (sections.map Section.chars))

end ScriptBridge.Toml
