import ScriptBridge.Text.Digits

/-!
# How strings are written in TOML

A string is written in the plainest form that holds it without escapes: basic, literal, then the two
forms over several lines. Only what fits none of them is escaped. Basic forms escape tabs
throughout, and those over several lines every third quote in a row.
-/
namespace ScriptBridge.Toml

inductive Style where
  | basic
  | literal
  | multilineBasic
  | multilineLiteral
  deriving DecidableEq, Repr

/-- Cannot stand in a string unescaped; tabs and line feeds are told apart elsewhere. -/
def isControl (c : Char) : Bool :=
  (c < ' ' && c != '\t' && c != '\n') || c == '\x7f'

/-- Whether `q` stands three times in a row. -/
def hasTriple (q : Char) : List Char → Bool
  | a :: b :: c :: r => (a == q && b == q && c == q) || hasTriple q (b :: c :: r)
  | _ => false

namespace Style

def choose (s : List Char) : Style :=
  let clean := !s.any isControl
  let lines := s.contains '\n'
  if clean && !s.contains '\\' && !s.contains '"' && !lines then basic
  else if clean && !s.contains '\'' && !lines then literal
  else if clean && !s.contains '\\' && !hasTriple '"' s then multilineBasic
  else if clean && !hasTriple '\'' s then multilineLiteral
  else if lines then multilineBasic
  else basic

end Style

def hexDigit (n : Nat) : Char := (Nat.digitChar (n % 16)).toUpper

def escape (c : Char) : List Char :=
  if c = '\x08' then ['\\', 'b']
  else if c = '\t' then ['\\', 't']
  else if c = '\n' then ['\\', 'n']
  else if c = '\x0c' then ['\\', 'f']
  else if c = '\r' then ['\\', 'r']
  else if c = '"' then ['\\', '"']
  else if c = '\\' then ['\\', '\\']
  else if isControl c then ['\\', 'u', '0', '0', hexDigit (c.toNat / 16), hexDigit c.toNat]
  else [c]

/-- The lines of a basic string after `quotes` quotes in a row. -/
def multilineBody (quotes : Nat) : List Char → List Char
  | [] => []
  | c :: r =>
    if c = '"' then
      if quotes = 2 then '\\' :: '"' :: multilineBody 0 r else '"' :: multilineBody (quotes + 1) r
    else if c = '\n' then '\n' :: multilineBody 0 r
    else escape c ++ multilineBody 0 r

/-- A form over several lines starts on a new line if it has several. -/
def opening (s : List Char) : List Char := if s.contains '\n' then ['\n'] else []

def stringText (s : List Char) : List Char :=
  match Style.choose s with
  | .basic => '"' :: s.flatMap escape ++ ['"']
  | .literal => '\'' :: s ++ ['\'']
  | .multilineBasic =>
    '"' :: '"' :: '"' :: opening s ++ multilineBody 0 s ++ ['"', '"', '"']
  | .multilineLiteral =>
    '\'' :: '\'' :: '\'' :: opening s ++ s ++ ['\'', '\'', '\'']

end ScriptBridge.Toml
