import ScriptBridge.Host.State

/-!
# Standard libraries

The globals of a fresh runtime: the base functions and the tables of the libraries that are opened.
The functions in them are only names here; scripts of this library look them up but do not call
them.
-/
namespace ScriptBridge

inductive StandardLibrary where
  | coroutine
  | table
  | io
  | os
  | string
  | utf8
  | math
  | package
  deriving DecidableEq, Repr

namespace StandardLibrary

def all : List StandardLibrary := [coroutine, table, io, os, string, utf8, math, package]

def name : StandardLibrary → String
  | coroutine => "coroutine"
  | table => "table"
  | io => "io"
  | os => "os"
  | string => "string"
  | utf8 => "utf8"
  | math => "math"
  | package => "package"

def ofName? (name : String) : Option StandardLibrary := all.find? fun l => l.name = name

def functions : StandardLibrary → List String
  | coroutine => ["create", "isyieldable", "resume", "running", "status", "wrap", "yield", "close"]
  | table => ["concat", "insert", "pack", "unpack", "remove", "move", "sort"]
  | io =>
    ["close", "flush", "input", "lines", "open", "output", "popen", "read", "tmpfile", "type", "write"]
  | os =>
    ["clock", "date", "difftime", "execute", "exit", "getenv", "remove", "rename", "setlocale", "time",
      "tmpname"]
  | string =>
    ["byte", "char", "dump", "find", "format", "gmatch", "gsub", "len", "lower", "match", "rep",
      "reverse", "sub", "upper", "pack", "packsize", "unpack"]
  | utf8 => ["char", "codepoint", "len", "offset", "codes"]
  | math =>
    ["abs", "ceil", "floor", "max", "min", "fmod", "modf", "log", "exp", "sqrt", "sin", "cos", "tan",
      "asin", "acos", "atan", "tointeger", "type", "ult", "random", "randomseed"]
  | package => ["loadlib", "searchpath"]

def globals : StandardLibrary → List String
  | package => ["require"]
  | _ => []

end StandardLibrary

namespace Library

def baseFunctions : List String :=
  ["assert", "collectgarbage", "dofile", "error", "getmetatable", "ipairs", "load", "loadfile", "next",
    "pairs", "pcall", "print", "rawequal", "rawget", "rawlen", "rawset", "select", "setmetatable",
    "tonumber", "tostring", "type", "warn", "xpcall"]

/-- The first function of every runtime, which stands for all that the libraries offer. -/
def anyFunction : Value := .function 0

def functionTable (names : List String) : Names Value := names.map fun n => (n, anyFunction)

/-- Globals and library tables; the globals are the first table, and a name for it is among them. -/
def tables (libraries : List StandardLibrary) : List (Names Value) :=
  let opened := StandardLibrary.all.filter fun l => l ∈ libraries
  let named := opened.zipIdx.map fun (l, i) => (l.name, Value.table (i + 1))
  (functionTable baseFunctions ++ [("_G", .table 0), ("_VERSION", .ofText "Lua 5.4")] ++
    functionTable (opened.flatMap StandardLibrary.globals) ++ named) ::
    opened.map fun l => functionTable l.functions

def stringTable? (libraries : List StandardLibrary) : Option Nat :=
  let opened := StandardLibrary.all.filter fun l => l ∈ libraries
  (opened.findIdx? fun l => l = .string).map (· + 1)

end Library

end ScriptBridge
