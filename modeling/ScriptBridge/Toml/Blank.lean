/-!
# Blanks, line ends and comments

What stands between the parts of a TOML document. A line ends with a line feed, with a carriage
return and a line feed, or with the document; a lone carriage return is no line end and no blank.
-/
namespace ScriptBridge.Toml

def isBlank (c : Char) : Bool := c == ' ' || c == '\t'

/-- May stand unescaped in comments and on the lines of strings. -/
def isPlain (c : Char) : Bool := c == '\t' || (' ' ≤ c && c != '\x7f')

def skipBlanks (s : List Char) : List Char := s.dropWhile isBlank

def newline? : List Char → Option (List Char)
  | '\n' :: r => some r
  | '\r' :: '\n' :: r => some r
  | _ => none

def dropNewline (s : List Char) : List Char := (newline? s).getD s

/-- What follows the line, if only blanks and a comment are left of it. -/
def lineEnd? (s : List Char) : Option (List Char) :=
  match skipBlanks s with
  | [] => some []
  | '#' :: r =>
    match r.dropWhile isPlain with
    | [] => some []
    | r => newline? r
  | r => newline? r

/-- Skips blanks, line ends and comments; `comment` says that `s` begins inside a comment. -/
def skipGap (comment : Bool) : List Char → List Char
  | [] => []
  | '\n' :: r => skipGap false r
  | '\r' :: '\n' :: r => skipGap false r
  | c :: r =>
    if comment then if isPlain c then skipGap true r else c :: r
    else if c == '#' then skipGap true r
    else if isBlank c then skipGap false r
    else c :: r

end ScriptBridge.Toml
