import ScriptBridge.Session.Perform

/-!
# Frame sessions

One call frame on a fresh runtime, looked at and worked on step by step. Callables are made anew for
every step that invokes or binds one.
-/
namespace ScriptBridge.Sample

inductive FrameStep where
  | value (position : Nat)
  | arity (expected : Nat)
  | decode (t : Param) (position : Nat)
  | receiver (t : ObjectType) (position : Nat)
  | push (t : Param) (a : t.Native)
  | invoke (c : NativeCallable)
  | bind (name : String) (c : NativeCallable) (requested : Option Signature)
  | environment

inductive FrameReply where
  | value (v : Option ShownValue)
  | done
  | native (a : ShownNative)
  | count (n : Nat)
  | invoked (result : Except BridgeError Nat) (count : Nat)
  | results (vs : List ShownValue)
  | environment (tally : Int) (sink : Binary64)
  | failed (e : BridgeError)

structure FrameSession where
  frame : Frame
  world : World

namespace FrameSession

def start (codec : CodecConfig) (args : List (Literal sampleNatives)) :
    Except BridgeError FrameSession :=
  let world := Host.fresh (N := sampleNatives) StandardLibrary.all registry {}
  match (args.mapM Literal.create).run.run world with
  | (.error e, _) => .error e
  | (.ok vs, world) => .ok ⟨{ codec := codec, args := vs }, world⟩

/-- A world for callables that have just been made. -/
def renewed (w : World) : World := { w with captured.bumps := .wrap _ 0 }

def perform (s : FrameSession) : FrameStep → FrameReply × FrameSession
  | .value position => (.value ((s.frame.value? position).map (shown s.world)), s)
  | .arity expected =>
    match s.frame.checkArity expected with
    | .ok () => (.done, s)
    | .error e => (.failed e, s)
  | .decode t position =>
    match s.frame.decode s.world.identities t position with
    | .ok a => (.native (shownNative s.world t a), s)
    | .error e => (.failed e, s)
  | .receiver t position =>
    match s.frame.receiver s.world.identities t position with
    | .ok block => (.value (some (shown s.world (.userdata block))), s)
    | .error e => (.failed e, s)
  | .push t a =>
    match s.frame.push t a with
    | (.ok (), frame) => (.count frame.results.length, { s with frame := frame })
    | (.error e, frame) => (.failed e, { s with frame := frame })
  | .invoke c =>
    let ((r, frame), w) := (c.invoke (callWith callDepth) s.frame).run (renewed s.world)
    (.invoked r frame.results.length, ⟨frame, w⟩)
  | .bind name c requested =>
    let make :=
      match requested with
      | none => ScriptBridge.bind s.frame.codec name c
      | some signature => bindWithSignature s.frame.codec name c signature
    let (r, w) := make.run (renewed s.world)
    match r with
    | .error e => (.failed e, { s with world := w })
    | .ok f =>
      let (r, w) := (Host.call callDepth f s.frame.args).run w
      let s := { s with world := w }
      match r with
      | .error e => (.failed e, s)
      | .ok vs => (.results (vs.map (shown w)), s)
  | .environment => (.environment s.world.captured.tally.val s.world.captured.sink, s)

end FrameSession

end ScriptBridge.Sample
