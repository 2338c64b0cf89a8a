import ScriptBridge.Names

/-!
# Files

A tree of directories and files, and what reading and writing at a path come to. A path is a list of
steps down by name; the step `..` goes up and `.` stays, both only in directories. A path without
such steps is the place it leads to. Paths begin at the root of the tree, unless an origin says that
they begin elsewhere. Above the tree nothing is found.
-/
namespace ScriptBridge

inductive Tree where
  | file (content : ByteArray)
  /-- A file that may be neither read nor written. -/
  | locked
  | directory (entries : List (String × Tree))
  deriving Inhabited

abbrev Path := List String

inductive FileError where
  | missing
  | notDirectory
  | isDirectory
  | denied
  | notText
  deriving DecidableEq, Repr

def FileError.text : FileError → String
  | missing => "No such file or directory (os error 2)"
  | notDirectory => "Not a directory (os error 20)"
  | isDirectory => "Is a directory (os error 21)"
  | denied => "Permission denied (os error 13)"
  | notText => "stream did not contain valid UTF-8"

namespace Path

/-- The steps that a text spells; a slash at its end asks for a directory. -/
def ofText (text : String) : Path :=
  let steps := text.splitOn "/"
  steps.filter (· != "") ++ if text != "" && steps.getLast? == some "" then ["."] else []

def lexical (p : Path) : Path := p.filter (· != ".")

/-- A path and every path above it, by its text alone: a step up is taken back like any other. -/
def withAncestors (p : Path) : List Path := (List.range (p.length + 1)).reverse.map p.take

end Path

/-- Where paths begin: at the root of the tree, or in the working directory. -/
inductive Origin where
  | root
  | workingDirectory (place : Path)
  deriving DecidableEq, Repr

namespace Origin

/-- Where a path leads, from the root of the tree. -/
def fromRoot : Origin → Path → Path
  | root, p => p
  | workingDirectory place, p => place ++ p

/-- The steps of a path that count: of those that stay only the first, in a working directory. -/
def lexical : Origin → Path → Path
  | workingDirectory _, "." :: p => "." :: Path.lexical p
  | _, p => p.lexical

def text : Origin → Path → String
  | root, p => "/" ++ "/".intercalate p
  | workingDirectory _, p => "/".intercalate p

end Origin

namespace Tree

def at? : Tree → Path → Option Tree
  | t, [] => some t
  | .file _, _ :: _ | .locked, _ :: _ => none
  | .directory entries, name :: place =>
    match Names.get? entries name with
    | some t => t.at? place
    | none => none

def resolveFrom (root : Tree) (place : Path) : Path → Except FileError Path
  | [] => .ok place
  | step :: steps =>
    match root.at? place with
    | some (.directory entries) =>
      if step = "." then resolveFrom root place steps
      else if step = ".." then
        if place.isEmpty then .error .missing else resolveFrom root place.dropLast steps
      else if (Names.get? entries step).isSome then resolveFrom root (place ++ [step]) steps
      else .error .missing
    | some (.file _) | some .locked => .error .notDirectory
    | none => .error .missing

def resolve (root : Tree) (p : Path) : Except FileError Path := resolveFrom root [] p

def contains (root : Tree) (p : Path) : Bool := (root.resolve p).isOk

def read (root : Tree) (p : Path) : Except FileError String := do
  match root.at? (← root.resolve p) with
  | some (.file content) =>
    match String.fromUTF8? content with
    | some text => .ok text
    | none => .error .notText
  | some .locked => .error .denied
  | some (.directory _) => .error .isDirectory
  | none => .error .missing

/-- Changes what is in a place, with the directories that lead there. -/
def put (change : Tree → Tree) : (place : Path) → Tree → Tree
  | [], t => change t
  | name :: place, .directory entries =>
    let t := (Names.get? entries name).getD (.directory [])
    .directory (Names.put entries name (put change place t))
  | _ :: _, t => t

def putFile (root : Tree) (place : Path) (content : ByteArray) : Tree :=
  put (fun _ => .file content) place root

def putDirectory (root : Tree) (place : Path) : Tree := put id place root

/-- The place of a file that can be written at a path: its directory must be there, and no directory
in its place. -/
def writable (root : Tree) (p : Path) : Except FileError Path :=
  match root.resolve p with
  | .ok place =>
    match root.at? place with
    | some (.file _) => .ok place
    | some .locked => .error .denied
    | _ => .error .isDirectory
  | .error .missing => do
    let directory ← root.resolve p.dropLast
    match root.at? directory, p.getLast? with
    | some (.directory _), some name =>
      if name = ".." then .error .missing else .ok (directory ++ [name])
    | some (.file _), _ | some .locked, _ => .error .notDirectory
    | _, _ => .error .missing
  | .error e => .error e

def write (root : Tree) (p : Path) (text : String) : Except FileError Tree :=
  (root.writable p).map fun place => root.putFile place text.toUTF8

end Tree

end ScriptBridge
