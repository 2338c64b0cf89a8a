import ScriptBridge.Text.Digits
import ScriptBridge.Toml.Blank

/-!
# Strings in a TOML document

The four written forms of a string. Basic strings have escapes, literal ones have none; either may
be spread over lines between tripled quotes, which drops a line end right after the opening. A
tripled form may hold one or two of its quotes in a row, also right before it closes.
-/
namespace ScriptBridge.Toml

def letterEscape? : Char → Option Char
  | 'b' => some '\x08'
  | 't' => some '\t'
  | 'n' => some '\n'
  | 'f' => some '\x0c'
  | 'r' => some '\r'
  | '"' => some '"'
  | '\\' => some '\\'
  | _ => none

/-- The character with these hexadecimal digits; surrogates are no characters. -/
def coded? (digits : List Char) : Option Char :=
  if digits.all isHexadecimal then
    let n := positional 16 digits
    if n.isValidChar then some (Char.ofNat n) else none
  else none

def before (c : Char) : Option (List Char × List Char) → Option (List Char × List Char) :=
  Option.map fun (text, rest) => (c :: text, rest)

/-- The rest of a basic string, and what follows its closing quote. -/
def basicString? : List Char → Option (List Char × List Char)
  | [] => none
  | '"' :: r => some ([], r)
  | '\\' :: 'u' :: a :: b :: c :: d :: r =>
    (coded? [a, b, c, d]).bind fun x => before x (basicString? r)
  | '\\' :: 'U' :: a :: b :: c :: d :: e :: f :: g :: h :: r =>
    (coded? [a, b, c, d, e, f, g, h]).bind fun x => before x (basicString? r)
  | '\\' :: e :: r => (letterEscape? e).bind fun x => before x (basicString? r)
  | c :: r => if c != '\\' && isPlain c then before c (basicString? r) else none

/-- The rest of a literal string, and what follows its closing quote. -/
def literalString? : List Char → Option (List Char × List Char)
  | [] => none
  | '\'' :: r => some ([], r)
  | c :: r => if isPlain c then before c (literalString? r) else none

def endsLine (s : List Char) : Bool := (newline? (skipBlanks s)).isSome

/-- The rest of a basic string over several lines; `trimming` skips blanks and line ends, as after a
backslash that ends its line. -/
def multilineBasic? (trimming : Bool) : List Char → Option (List Char × List Char)
  | [] => none
  | '"' :: '"' :: '"' :: '"' :: '"' :: r => some (['"', '"'], r)
  | '"' :: '"' :: '"' :: '"' :: r => some (['"'], r)
  | '"' :: '"' :: '"' :: r => some ([], r)
  | '\n' :: r =>
    if trimming then multilineBasic? true r else before '\n' (multilineBasic? false r)
  | '\r' :: '\n' :: r =>
    if trimming then multilineBasic? true r else before '\n' (multilineBasic? false r)
  | '\\' :: 'u' :: a :: b :: c :: d :: r =>
    (coded? [a, b, c, d]).bind fun x => before x (multilineBasic? false r)
  | '\\' :: 'U' :: a :: b :: c :: d :: e :: f :: g :: h :: r =>
    (coded? [a, b, c, d, e, f, g, h]).bind fun x => before x (multilineBasic? false r)
  | '\\' :: e :: r =>
    match letterEscape? e with
    | some x => before x (multilineBasic? false r)
    | none => if endsLine (e :: r) then multilineBasic? true (e :: r) else none
  | c :: r =>
    if trimming && isBlank c then multilineBasic? true r
    else if c != '\\' && isPlain c then before c (multilineBasic? false r)
    else none

/-- The rest of a literal string over several lines. -/
def multilineLiteral? : List Char → Option (List Char × List Char)
  | [] => none
  | '\'' :: '\'' :: '\'' :: '\'' :: '\'' :: r => some (['\'', '\''], r)
  | '\'' :: '\'' :: '\'' :: '\'' :: r => some (['\''], r)
  | '\'' :: '\'' :: '\'' :: r => some ([], r)
  | '\n' :: r => before '\n' (multilineLiteral? r)
  | '\r' :: '\n' :: r => before '\n' (multilineLiteral? r)
  | c :: r => if isPlain c then before c (multilineLiteral? r) else none

def string? : List Char → Option (List Char × List Char)
  | '"' :: '"' :: '"' :: r => multilineBasic? false (dropNewline r)
  | '"' :: r => basicString? r
  | '\'' :: '\'' :: '\'' :: r => multilineLiteral? (dropNewline r)
  | '\'' :: r => literalString? r
  | _ => none

end ScriptBridge.Toml
