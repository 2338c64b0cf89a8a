import ScriptBridge.Toml.Scalar

/-!
# Reading TOML

A document is a list of lines, each with a header, a pair or nothing; `read?` reads them in order
into the table of the document. Arrays and braces may be nested, and keys be dotted, below a fixed
depth.
-/
namespace ScriptBridge.Toml

/-- How deep arrays and braces may be nested, and how many names a dotted key may have. -/
def depthLimit : Nat := 79

def isBare (c : Char) : Bool := c.isAlphanum || c == '_' || c == '-'

/-- One name of a key: bare, or a string on one line. -/
def name? : List Char → Option (String × List Char)
  | '"' :: r => (basicString? r).map fun (s, rest) => (String.ofList s, rest)
  | '\'' :: r => (literalString? r).map fun (s, rest) => (String.ofList s, rest)
  | s =>
    if (s.takeWhile isBare).isEmpty then none
    else some (String.ofList (s.takeWhile isBare), s.dropWhile isBare)

/-- Names joined by points, at most `limit` of them, with blanks around each. -/
def keyWithin? : (limit : Nat) → List Char → Option (Key × List Char)
  | 0, _ => none
  | limit + 1, s => do
    let (name, r) ← name? (skipBlanks s)
    match skipBlanks r with
    | '.' :: r =>
      let (key, r) ← keyWithin? limit r
      return (⟨name :: key.scope, key.name⟩, r)
    | r => return (⟨[], name⟩, r)

def key? (s : List Char) : Option (Key × List Char) := keyWithin? depthLimit s

def pairOf? (value? : List Char → Option (Value × List Char)) (s : List Char) :
    Option (Key × Value × List Char) := do
  let (key, r) ← key? s
  match r with
  | '=' :: r =>
    let (v, r) ← value? (skipBlanks r)
    return (key, v, r)
  | _ => none

/-- The rest of an array, whose items may be spread over lines; `room` bounds their number. -/
def items? (value? : List Char → Option (Value × List Char)) :
    (room : Nat) → List Char → Option (List Value × List Char)
  | 0, _ => none
  | room + 1, s =>
    match skipGap false s with
    | ']' :: r => some ([], r)
    | s => do
      let (v, r) ← value? s
      match skipGap false r with
      | ']' :: r => return ([v], r)
      | ',' :: r =>
        let (vs, r) ← items? value? room r
        return (v :: vs, r)
      | _ => none

/-- The rest of a table in braces that has pairs, added to `t`; `room` bounds their number. -/
def pairs? (value? : List Char → Option (Value × List Char)) :
    (room : Nat) → Entries → List Char → Option (Entries × List Char)
  | 0, _, _ => none
  | room + 1, t, s => do
    let (key, v, r) ← pairOf? value? s
    let t ← t.assign v key.scope key.name
    match skipBlanks r with
    | '\x7d' :: r => return (t, r)
    | ',' :: r => pairs? value? room t r
    | _ => none

/-- A value at the start of the text, nested no deeper than `depth`. -/
def value? : (depth : Nat) → List Char → Option (Value × List Char)
  | depth + 1, '[' :: r => do
    let (items, r) ← items? (value? depth) (r.length + 1) r
    return (.array items, r)
  | depth + 1, '\x7b' :: r =>
    match skipBlanks r with
    | '\x7d' :: r => some (.table .inline [], r)
    | s => do
      let (t, r) ← pairs? (value? depth) (s.length + 1) [] s
      return (.table .inline t, r)
  | _, s => scalar? s

inductive Line where
  | table (key : Key)
  | element (key : Key)
  | pair (key : Key) (value : Value)

/-- The line at the start of the text, or `none` in the pair for one that says nothing. -/
def line? (s : List Char) : Option (Option Line × List Char) :=
  match skipBlanks s with
  | '[' :: '[' :: r => do
    let (key, r) ← key? r
    match r with
    | ']' :: ']' :: r => return (some (.element key), ← lineEnd? r)
    | _ => none
  | '[' :: r => do
    let (key, r) ← key? r
    match r with
    | ']' :: r => return (some (.table key), ← lineEnd? r)
    | _ => none
  | s =>
    match lineEnd? s with
    | some r => some (none, r)
    | none => do
      let (key, v, r) ← pairOf? (value? depthLimit) s
      return (some (.pair key v), ← lineEnd? r)

/-- The lines of a text; `room` bounds their number. -/
def lines? : (room : Nat) → List Char → Option (List Line)
  | _, [] => some []
  | 0, _ => none
  | room + 1, s => do
    let (line, r) ← line? s
    return line.toList ++ (← lines? room r)

/-- A document as far as it is read, and the path of the table that pairs are added to. -/
structure Draft where
  root : Entries := []
  current : List String := []

def Draft.add (d : Draft) : Line → Option Draft
  | .table key => (d.root.within (·.openTable key.name) key.scope).map (⟨·, key.path⟩)
  | .element key => (d.root.within (·.openElement key.name) key.scope).map (⟨·, key.path⟩)
  | .pair key v => (d.root.within (·.assign v key.scope key.name) d.current).map (⟨·, d.current⟩)

/-- The table that lines describe. -/
def ofLines? (lines : List Line) : Option Entries :=
  (lines.foldlM Draft.add {}).map (·.root)

/-- A byte order mark may come first. -/
def dropMark : List Char → List Char
  | '\ufeff' :: r => r
  | s => s

def read? (text : String) : Option Entries :=
  let s := dropMark text.toList
  lines? (s.length + 1) s >>= ofLines?

end ScriptBridge.Toml
