import ScriptBridge.Names
import ScriptBridge.Sample.Objects

/-!
# Sample callables

Free-standing functions, pointers and closures, and members of the sample objects. Between them they
use every parameter and return type, up to eight parameters, failures, captured state, object access
and calls back into scripts. Integer arithmetic wraps.
-/
namespace ScriptBridge.Sample

abbrev Param := NativeType ObjectType

abbrev Return := ReturnType ObjectType

abbrev Code := Program sampleNatives

abbrev NativeCallable := Callable sampleNatives

def i8 : IntegerType := .signed .bits8
def i16 : IntegerType := .signed .bits16
def i32 : IntegerType := .signed .bits32
def isize : IntegerType := .signed .address
def u8 : IntegerType := .unsigned .bits8
def u16 : IntegerType := .unsigned .bits16
def u32 : IntegerType := .unsigned .bits32
def u64 : IntegerType := .unsigned .bits64
def usize : IntegerType := .unsigned .address

abbrev int (t : IntegerType) : Param := .integer t
abbrev long : Param := .integer i64
abbrev double : Param := .float .double
abbrev account : Param := .object .account

def toFloat {t : IntegerType} (a : Bounded t) : Binary64 := .ofInt .double a.val

def joined (separator : String) (parts : List String) : String := separator.intercalate parts

/-- A missing part is written as a dash. -/
def part {α : Type} (text : α → String) : Option α → String
  | none => "-"
  | some a => text a

def bitsOf (t : IntegerType) (a : Bounded i64) : Bounded t := .wrap t a.val

section Free

variable (shape : FreeShape) (params : List Param) (returns : Return)

def free (run : Args params → Code returns.Native) : NativeCallable :=
  ⟨params, returns, .free shape run⟩

def pureFree (f : Args params → returns.Native) : NativeCallable :=
  free shape params returns fun args => pure (f args)

end Free

def identity (shape : FreeShape) (t : Param) : NativeCallable :=
  pureFree shape [t] (.value t) fun (a, ()) => a

def add (shape : FreeShape) : NativeCallable :=
  pureFree shape [int i32, int i32] (.value (int i32)) fun (a, b, ()) => a + b

def two : Binary64 := .ofInt .double 2

def axpb : NativeCallable :=
  pureFree .closure [int i32, double, int i32] (.value double) fun (a, x, b, ()) =>
    toFloat a * x + toFloat b + two

def scale : NativeCallable :=
  pureFree .pointer [double, double] (.value double) fun (x, y, ()) => x * y

def answer : NativeCallable :=
  pureFree .function [] (.value (int i32)) fun () => .wrap i32 42

def greet : NativeCallable :=
  pureFree .function [] (.value .text) fun () => "hi"

def nothing : NativeCallable :=
  pureFree .function [] .nothing fun () => ()

def sink : NativeCallable :=
  free .closure [int i32, double] .nothing fun (a, b, ()) => do
    let c ← Program.getCaptured
    Program.setCaptured { c with sink := toFloat a + b }

def addWorld : NativeCallable :=
  pureFree .closure [.text] (.value .text) fun (s, ()) => s ++ " world!"

def concat : NativeCallable :=
  pureFree .closure [.text, .view] (.value .text) fun (s, v, ()) => s ++ v.text

def viewLength : NativeCallable :=
  pureFree .closure [.view] (.value (int usize)) fun (v, ()) => .wrap usize v.text.utf8ByteSize

def viewEmpty : NativeCallable :=
  pureFree .closure [.view] (.value .boolean) fun (v, ()) => v.text.isEmpty

def viewIsLua : NativeCallable :=
  pureFree .closure [.view] (.value .boolean) fun (v, ()) => v.text == "lua"

def viewReverse : NativeCallable :=
  pureFree .closure [.view] (.fallible (.value .text)) fun (v, ()) =>
    .ok (String.ofList v.text.toList.reverse)

def checkedDivide : NativeCallable :=
  pureFree .function [long, long] (.fallible (.value long)) fun (a, b, ()) =>
    if b.val = 0 then .error "division by zero" else .ok (.wrap i64 (a.val.tdiv b.val))

def failVoid : NativeCallable :=
  pureFree .closure [.boolean, .text] (.fallible .nothing) fun (fails, message, ()) =>
    if fails then .error message else .ok ()

def maybe : NativeCallable :=
  pureFree .closure [long] (.value (.option long)) fun (a, ()) =>
    if a.val < 0 then none else some a

def maybeFail : NativeCallable :=
  pureFree .closure [long] (.fallible (.value (.option .text))) fun (a, ()) =>
    if a.val = 0 then .ok none
    else if a.val < 0 then .error s!"negative: {a}"
    else .ok (some s!"<{a}>")

def wide (t : IntegerType) : NativeCallable :=
  pureFree .closure [long] (.value (int t)) fun (a, ()) => bitsOf t a

def maybeWide : NativeCallable :=
  pureFree .closure [long] (.fallible (.value (.option (int u64)))) fun (a, ()) =>
    .ok (some (bitsOf u64 a))

def countCall : Code Unit := do
  let c ← Program.getCaptured
  Program.setCaptured { c with tally := c.tally + .wrap i64 1 }

def tally : NativeCallable :=
  free .closure [long, .boolean] (.value long) fun (a, keep, ()) => do
    countCall
    return if keep then a else -a

def tallyWide : NativeCallable :=
  free .closure [long] (.value (int u64)) fun (a, ()) => do
    countCall
    return bitsOf u64 a

def bump : NativeCallable :=
  free .closure [] (.value long) fun () => do
    let c ← Program.getCaptured
    let n := c.bumps + .wrap i64 1
    Program.setCaptured { c with bumps := n }
    return n

def eight : NativeCallable :=
  pureFree .function
    [int i8, int i16, int i32, long, int u8, int u16, int u32, .float .single] (.value double)
    fun (a, b, c, d, e, f, g, h, ()) =>
      toFloat a + toFloat b + toFloat c + toFloat d + toFloat e + toFloat f + toFloat g +
        h.toBinary64

def cat3 : NativeCallable :=
  pureFree .closure [.text, long, .boolean] (.value .text) fun (a, b, c, ()) =>
    joined "|" [a, toString b, toString c]

def cat4 : NativeCallable :=
  pureFree .closure [.text, .text, .text, .text] (.value .text) fun (a, b, c, d, ()) =>
    joined "|" [a, b, c, d]

def cat5 : NativeCallable :=
  pureFree .closure [int u8, int u16, int u32, int u64, int usize] (.value .text)
    fun (a, b, c, d, e, ()) =>
      joined "|" [toString a, toString b, toString c, toString d, toString e]

def cat6 : NativeCallable :=
  pureFree .closure [int i8, int i16, int i32, long, int isize, .boolean] (.value .text)
    fun (a, b, c, d, e, f, ()) =>
      joined "|" [toString a, toString b, toString c, toString d, toString e, toString f]

def cat7 : NativeCallable :=
  pureFree .closure
    [.option .text, .option long, .option .boolean, .option .text, .option long, .option .boolean,
      .view]
    (.value .text)
    fun (a, b, c, d, e, f, g, ()) =>
      joined "|"
        [part id a, part toString b, part toString c, part id d, part toString e, part toString f,
          g.text]

/-- The text of an error is what a script is told of it. -/
def told {α : Type} (r : Except BridgeError α) : Except String α := r.mapError BridgeError.message

def balanceOf (r : ObjectRef ObjectType.account) : Code (Except BridgeError (Bounded i64)) :=
  Program.access r fun o : Account => pure o.balance

def sumBalances : NativeCallable :=
  free .closure [account, account] (.fallible (.value long)) fun (a, b, ()) => do
    match ← balanceOf a with
    | .error e => return .error e.message
    | .ok x =>
      match ← balanceOf b with
      | .error e => return .error e.message
      | .ok y => return .ok (x + y)

def readSensor : NativeCallable :=
  free .closure [.object .sensor] (.fallible (.value double)) fun (r, ()) => do
    return told (← Program.access r fun o : Sensor => pure o.reading)

def optAccount : NativeCallable :=
  pureFree .closure [.option account] (.value .boolean) fun (r, ()) => r.isSome

def releaseAccount : NativeCallable :=
  free .closure [account] (.fallible (.value .boolean)) fun (r, ()) => do
    return told (← Program.destroy r)

def liveness (t : ObjectType) : NativeCallable :=
  free .closure [.object t] (.value .boolean) fun (r, ()) => Program.isLive r

/-- Calls a script function and tells of its failure. -/
def callAndTell (f : Callback) : Code (Except String Unit) := do
  return ((← Program.callScript f []).mapError RuntimeError.text).map fun _ => ()

def invoke : NativeCallable :=
  free .closure [.callback] (.fallible .nothing) fun (f, ()) => callAndTell f

def invokeBridged : NativeCallable :=
  free .closure [.callback] (.fallible .nothing) fun (f, ()) => do
    return ((← Program.callScript f []).mapError fun e => (BridgeError.ofRuntime e).message).map
      fun _ => ()

section Members

variable (owner : ObjectType) (params : List Param) (returns : Return)

def shared (run : Payload owner → Args params → Code returns.Native) : NativeCallable :=
  ⟨params, returns, .shared owner run⟩

def pureShared (f : Payload owner → Args params → returns.Native) : NativeCallable :=
  shared owner params returns fun o args => pure (f o args)

def exclusive (run : Payload owner → Args params → Code (returns.Native × Payload owner)) :
    NativeCallable :=
  ⟨params, returns, .exclusive owner run⟩

def pureExclusive (f : Payload owner → Args params → returns.Native × Payload owner) :
    NativeCallable :=
  exclusive owner params returns fun o args => pure (f o args)

end Members

def balance : NativeCallable :=
  pureShared .account [] (.value long) fun o () => o.balance

def label : NativeCallable :=
  pureShared .account [] (.value .text) fun o () => o.label

def balanceBits : NativeCallable :=
  pureShared .account [] (.value (int u64)) fun o () => bitsOf u64 o.balance

def overloaded : NativeCallable :=
  pureShared .account [] (.value (int i32)) fun _ () => .wrap i32 2

def preview : NativeCallable :=
  pureShared .account [long] (.value long) fun o (n, ()) => o.balance + n

def describe : NativeCallable :=
  pureShared .account [.option .text] (.value .text) fun o (note, ()) =>
    match note with
    | none => s!"{o.label}={o.balance}"
    | some note => s!"{o.label}={o.balance} ({note})"

def deposit : NativeCallable :=
  pureExclusive .account [long] (.value long) fun o (n, ()) =>
    (o.balance + n, { o with balance := o.balance + n })

def withdraw : NativeCallable :=
  pureExclusive .account [int u32] (.fallible (.value long)) fun o (n, ()) =>
    if o.balance.val < n.val then
      (.error s!"insufficient funds: balance {o.balance}, requested {n}", o)
    else
      let left := Bounded.wrap i64 (o.balance.val - n.val)
      (.ok left, { o with balance := left })

def rename : NativeCallable :=
  pureExclusive .account [.text] .nothing fun o (label, ()) => ((), { o with label := label })

def overloaded2 : NativeCallable :=
  pureExclusive .account [.text] (.value (int i32)) fun o (label, ()) =>
    (.wrap i32 5, { o with label := label })

def takeBalance (r : ObjectRef ObjectType.account) : Code (Except BridgeError (Bounded i64)) :=
  Program.update r fun o : Account => (o.balance, { o with balance := .wrap i64 0 })

def absorb : NativeCallable :=
  exclusive .account [account] (.fallible (.value long)) fun o (other, ()) => do
    match ← takeBalance other with
    | .error e => return (.error e.message, o)
    | .ok taken => return (.ok (o.balance + taken), { o with balance := o.balance + taken })

def compare : NativeCallable :=
  shared .account [account] (.fallible (.value .boolean)) fun o (other, ()) => do
    return told ((← balanceOf other).map fun b => b.val == o.balance.val)

def drain : NativeCallable :=
  shared .account [account] (.fallible (.value long)) fun _ (other, ()) => do
    return told (← takeBalance other)

def otherLive : NativeCallable :=
  shared .account [account] (.value .boolean) fun _ (other, ()) => Program.isLive other

def probeLive : NativeCallable :=
  exclusive .account [account] (.value .boolean) fun o (other, ()) => do
    return (← Program.isLive other, o)

def freeOther : NativeCallable :=
  shared .account [account] (.fallible (.value .boolean)) fun _ (other, ()) => do
    return told (← Program.destroy other)

def visit : NativeCallable :=
  shared .account [.callback] (.fallible .nothing) fun _ (f, ()) => callAndTell f

def visitExclusive : NativeCallable :=
  exclusive .account [.callback] (.fallible .nothing) fun o (f, ()) => do
    return (← callAndTell f, o)

def mix2 : NativeCallable :=
  pureShared .account [long, .boolean] (.value long) fun o (a, adds, ()) =>
    if adds then o.balance + a else a

def mix3 : NativeCallable :=
  pureExclusive .account [.text, int i32, double] (.value double) fun o (label, b, x, ()) =>
    (x, { o with label := label, balance := .wrap i64 b.val })

def mix4 : NativeCallable :=
  pureShared .account [int u8, int u8, int u8, int u8] (.value (int u32)) fun _ (a, b, c, d, ()) =>
    .wrap u32 (a.val + b.val + c.val + d.val)

def mix5 : NativeCallable :=
  pureExclusive .account [long, long, long, long, .option long] (.value long)
    fun o (a, b, c, d, e, ()) =>
      let sum := a + b + c + d + e.getD (.wrap i64 0)
      (sum, { o with balance := sum })

def mix6 : NativeCallable :=
  pureShared .account
    [double, .float .single, double, .float .single, double, .float .single] (.value double)
    fun _ (a, b, c, d, e, f, ()) =>
      a + b.toBinary64 + c + d.toBinary64 + e + f.toBinary64

def bit (b : Bool) : String := if b then "1" else "0"

def mix7 : NativeCallable :=
  pureShared .account
    [.boolean, .boolean, .boolean, .boolean, .boolean, .boolean, .boolean] (.value .text)
    fun _ (a, b, c, d, e, f, g, ()) =>
      joined "" [bit a, bit b, bit c, bit d, bit e, bit f, bit g]

def mix8 : NativeCallable :=
  pureExclusive .account
    [int i8, int i16, int i32, long, int u8, int u16, int u32, int u64] (.value .text)
    fun o (a, b, c, d, e, f, g, h, ()) =>
      (joined ","
        [toString a, toString b, toString c, toString d, toString e, toString f, toString g,
          toString h], { o with balance := d })

def read : NativeCallable :=
  pureShared .sensor [] (.value double) fun o () => o.reading

def scaleReading : NativeCallable :=
  pureShared .sensor [double] (.value double) fun o (x, ()) => o.reading * x

def setReading : NativeCallable :=
  pureExclusive .sensor [double] .nothing fun o (x, ()) => ((), { o with reading := x })

def narrow : NativeCallable :=
  pureShared .sensor [] (.value (.float .single)) fun o () => .ofBinary64 .single o.reading

def poke : NativeCallable :=
  pureShared .stranger [] (.value .text) fun _ () => "stranger"

def boo : NativeCallable :=
  pureExclusive .ghost [] (.value .boolean) fun o () => (true, o)

def callables : Names NativeCallable :=
  [("id_i8", identity .function (int i8)), ("id_i16", identity .function (int i16)),
    ("id_i32", identity .function (int i32)), ("id_i64", identity .function long),
    ("id_isize", identity .function (int isize)), ("id_u8", identity .function (int u8)),
    ("id_u16", identity .function (int u16)), ("id_u32", identity .function (int u32)),
    ("id_u64", identity .function (int u64)), ("id_usize", identity .function (int usize)),
    ("id_f32", identity .function (.float .single)), ("id_f64", identity .function double),
    ("id_bool", identity .function .boolean), ("id_string", identity .function .text),
    ("id_color", identity .function .color), ("id_view", identity .pointer .view),
    ("id_opt_i64", identity .closure (.option long)),
    ("id_opt_f64", identity .closure (.option double)),
    ("id_opt_bool", identity .closure (.option .boolean)),
    ("id_opt_string", identity .closure (.option .text)),
    ("id_account", identity .closure account),
    ("add_fn", add .function), ("add_ptr", add .pointer), ("add_closure", add .closure),
    ("axpb", axpb), ("scale", scale), ("answer", answer), ("greet", greet), ("nothing", nothing),
    ("sink", sink), ("add_world", addWorld), ("concat", concat), ("view_len", viewLength),
    ("view_empty", viewEmpty), ("view_is_lua", viewIsLua), ("view_reverse", viewReverse),
    ("checked_div", checkedDivide), ("fail_void", failVoid), ("maybe", maybe),
    ("maybe_fail", maybeFail), ("wide", wide u64), ("wide_usize", wide usize),
    ("maybe_wide", maybeWide), ("tally", tally), ("tally_wide", tallyWide), ("bump", bump),
    ("eight", eight), ("cat3", cat3), ("cat4", cat4), ("cat5", cat5), ("cat6", cat6), ("cat7", cat7),
    ("sum_balances", sumBalances), ("read_sensor", readSensor), ("opt_account", optAccount),
    ("release_account", releaseAccount), ("account_live", liveness .account),
    ("strange", liveness .stranger), ("invoke", invoke), ("invoke_bridged", invokeBridged),
    ("Account.balance", balance), ("Account.label", label), ("Account.as_u64", balanceBits),
    ("Account.overloaded", overloaded), ("Account.preview", preview),
    ("Account.describe", describe), ("Account.deposit", deposit), ("Account.withdraw", withdraw),
    ("Account.rename", rename), ("Account.overloaded2", overloaded2), ("Account.absorb", absorb),
    ("Account.compare", compare), ("Account.drain", drain), ("Account.is_live", otherLive),
    ("Account.probe_live", probeLive), ("Account.free", freeOther), ("Account.visit", visit),
    ("Account.visit_mut", visitExclusive), ("Account.mix2", mix2), ("Account.mix3", mix3),
    ("Account.mix4", mix4), ("Account.mix5", mix5), ("Account.mix6", mix6), ("Account.mix7", mix7),
    ("Account.mix8", mix8), ("Sensor.read", read), ("Sensor.scale", scaleReading),
    ("Sensor.set", setReading), ("Sensor.narrow", narrow), ("Stranger.poke", poke),
    ("Ghost.boo", boo)]

end ScriptBridge.Sample
