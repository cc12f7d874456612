import Lumepeer.Core.Message
import Lumepeer.Media.Abr
import Lumepeer.Media.Encode.H264Sps
import Lumepeer.Runtime.View

/-!
# The encode loop

`spawn_encode_loop_with` of `crates/runtime/src/view.rs:1353-2114`, one tick a
step. What the loop reads of the shared `EncodeControl`, of the clock, of the
capture backend and of the encoder is the input of a tick, and so is what its
meters report (`SendRate`, `Backlog`); a tick that leaves the loop's body early
uses none of the later readings. What only goes into the log, the recorder, the
cursor channel or the size of the picture is left out, and so is the pacing,
which decides when a tick runs and not what it does.
-/

namespace Lumepeer.Runtime
open Lumepeer.Lib Lumepeer.Core Lumepeer.Media

/-- `VideoCodec` (`media/src/encode/mod.rs:22-29`). -/
inductive VideoCodec where
  | h264
  | av1
  deriving DecidableEq, Repr

/-- `ENCODE_REFUSALS_BEFORE_FAULT` (`core/src/constants.rs:891`). -/
def encodeRefusalsBeforeFault : UInt32 := 60

/-- `ABR_FEEDBACK_STALE_AFTER_MS` (`core/src/constants.rs:815`). -/
def abrFeedbackStaleAfter : Duration := Duration.fromMillis 2000

/-- `pinned_target` (`media/src/abr.rs:103-109`). -/
def pinnedTarget (manualCap : Option UInt32) (fps : UInt8) : Option QualityTarget :=
  manualCap.map fun scalePercent => { QualityTarget.default with fps, scalePercent }

/-- `backlog_feedback` (`view.rs:2405-2412`). -/
def backlogFeedback (loss : F32) (sentKbps : UInt32) : ReceiverFeedback :=
  { loss, rttMs := 0, goodputKbps := sentKbps, sentKbps }

/-- How the wait for the writer's slot ends (`view.rs:1602-1626`). -/
inductive Slot where
  | free
  | waited (took : Duration)
  | timedOut (took : Duration)
  | closed
  deriving DecidableEq

/-- What the capture comes to (`view.rs:1637-1810`). -/
inductive Captured where
  | frame
  | nothing
  | ended
  deriving DecidableEq

/-- What the encode task comes back with (`view.rs:1860-1958`). -/
inductive Encoded where
  | frame (frame : EncodedFrame)
  | refused
  | ended
  deriving DecidableEq

/-- The readings of a tick that handed a frame over. -/
structure Settling where
  feedback : Option (ReceiverFeedback × Instant)
  sentKbps : UInt32
  backlog : Option F32
  now : Instant
  stamp : Instant
  fpsCap : Option UInt8
  manualCap : Option UInt32
  setsBitrate : Bool
  rebuilds : Bool
  deriving DecidableEq

/-- The readings of a tick, in the order in which it takes them. -/
structure Tick where
  startedAt : Instant
  manualCap : Option UInt32
  setsBitrate : Bool
  held : Option Duration
  slot : Slot
  captured : Captured
  keyframeRequest : Bool
  encoded : Encoded
  settling : Settling
  deriving DecidableEq

/-- What a tick does that others see. -/
inductive Act where
  | setBitrate (kbps : UInt32)
  | requestKeyframe
  | tooLarge (frame : EncodedFrame)
  | handOver (frame : EncodedFrame)
  | build (fps : UInt8) (kbps : UInt32)
  | publish (target : QualityTarget)
  | fault (reason : MediaUnavailableReason)
  deriving DecidableEq

/-- The variables of the loop; `encoderKbps` is the bitrate its encoder was last set to. -/
structure EncodeLoop where
  codec : VideoCodec
  maxFps : UInt8
  encoderKbps : UInt32
  encoderFps : UInt8
  abr : AbrController
  target : QualityTarget
  lastReport : Option Instant
  refusals : UInt32
  link : LinkPressure
  deriving DecidableEq

namespace EncodeLoop

/-- The loop before its first tick, with an encoder built for `builtFps` (`view.rs:1417-1530`). -/
def start (codec : VideoCodec) (maxFps builtFps : UInt8) : EncodeLoop :=
  let abr := AbrController.withMaxFps maxFps
  { codec, maxFps, encoderKbps := encodeDefaultBitrateKbps, encoderFps := builtFps, abr
    target := abr.target, lastReport := none, refusals := 0, link := .default }

/-- `VideoEncoder::set_bitrate`, which succeeds or leaves the encoder as it is. -/
def setBitrate (loop : EncodeLoop) (kbps : UInt32) (succeeds : Bool) : List Act × EncodeLoop :=
  ([.setBitrate kbps], if succeeds then { loop with encoderKbps := kbps } else loop)

/-- The bitrate that the link moves to, if it moves (`view.rs:1555-1559`); `none` is a panic of
`due`. -/
def linkMoved (loop : EncodeLoop) (tick : Tick) : Option (Option UInt32 × LinkPressure) :=
  match tick.manualCap with
  | some _ => loop.link.due tick.startedAt loop.target.bitrateKbps loop.target.fps
  | none =>
      let (had, link) := loop.link.release
      some (if had then some loop.target.bitrateKbps else none, link)

/-- The link's part of a tick (`view.rs:1555-1575`). -/
def moveLink (loop : EncodeLoop) (tick : Tick) : Option (List Act × EncodeLoop) :=
  (loop.linkMoved tick).map fun (moved, link) =>
    match moved with
    | some kbps => { loop with link }.setBitrate kbps tick.setsBitrate
    | none => ([], { loop with link })

/-- What is measured of the link (`view.rs:2019-2036`). -/
def measured (loop : EncodeLoop) (settling : Settling) : Option ReceiverFeedback × EncodeLoop :=
  match settling.feedback with
  | some (feedback, landed) =>
      (some { feedback with sentKbps := settling.sentKbps },
        { loop with lastReport := some landed })
  | none =>
      if loop.lastReport.all fun landed => settling.now - landed > abrFeedbackStaleAfter then
        (settling.backlog.map fun loss => backlogFeedback loss settling.sentKbps, loop)
      else (none, loop)

/-- The target a tick settles on, if it is another one (`view.rs:2048-2053`). -/
def settled (loop : EncodeLoop) (settling : Settling) (measured : Option ReceiverFeedback) :
    Option QualityTarget × EncodeLoop :=
  let presetFps := (settling.fpsCap.map fun fps => min fps loop.maxFps).getD loop.maxFps
  match pinnedTarget settling.manualCap presetFps with
  | some pinned => (if pinned ≠ loop.target then some pinned else none, loop)
  | none =>
      match measured with
      | some feedback =>
          let (target, abr) := loop.abr.onFeedback feedback settling.now settling.stamp
          (target, { loop with abr })
      | none => (none, loop)

/-- The bitrate of a target under what the link holds it to (`view.rs:2056-2058`). -/
def underLink (loop : EncodeLoop) (bitrateKbps : UInt32) : UInt32 :=
  match loop.link.capKbps with
  | some cap => min cap bitrateKbps
  | none => bitrateKbps

/-- A target with another bitrate sets it on the encoder (`view.rs:2059-2068`). -/
def retune (loop : EncodeLoop) (settling : Settling) (next : QualityTarget) :
    List Act × EncodeLoop :=
  if next.bitrateKbps ≠ loop.target.bitrateKbps then
    loop.setBitrate (loop.underLink next.bitrateKbps) settling.setsBitrate
  else ([], loop)

/-- A preset with another frame rate builds the encoder anew (`view.rs:2084-2101`). -/
def rebuild (loop : EncodeLoop) (settling : Settling) (next : QualityTarget) :
    List Act × EncodeLoop :=
  let nextKbps := loop.underLink next.bitrateKbps
  if settling.manualCap.isSome ∧ next.fps ≠ loop.encoderFps then
    ([.build next.fps nextKbps],
      if settling.rebuilds then { loop with encoderKbps := nextKbps, encoderFps := next.fps }
      else loop)
  else ([], loop)

/-- The loop takes a target over (`view.rs:2054-2111`). -/
def adopt (loop : EncodeLoop) (settling : Settling) (next : QualityTarget) : List Act × EncodeLoop :=
  let (set, loop) := loop.retune settling next
  let (built, loop) := loop.rebuild settling next
  (set ++ built ++ [.publish next], { loop with target := next })

/-- What follows the hand-over of a frame (`view.rs:2019-2111`). -/
def settle (loop : EncodeLoop) (settling : Settling) : List Act × EncodeLoop :=
  let (measured, loop) := loop.measured settling
  match loop.settled settling measured with
  | (some next, loop) => loop.adopt settling next
  | (none, loop) => ([], loop)

/-- A keyframe of an H.264 encoder is made to say that nothing is reordered
(`view.rs:1881-1887`); `none` is a panic. -/
def rewritten (codec : VideoCodec) (frame : EncodedFrame) : Option EncodedFrame :=
  if codec = .h264 ∧ frame.keyframe then do
    let data ← H264Sps.withoutReordering frame.data
    return { frame with data := data.getD frame.data }
  else some frame

/-- A tick once the encoder has taken a frame (`view.rs:1914-2111`). -/
def took (loop : EncodeLoop) (settling : Settling) (frame : EncodedFrame) : List Act × EncodeLoop :=
  let loop := { loop with refusals := 0 }
  match checkFrame frame with
  | .empty => ([], loop)
  | .tooLarge => ([.tooLarge frame], loop)
  | .handedOver =>
      let loop := { loop with link := loop.link.sent (UInt64.ofNat frame.data.length) }
      let (acts, loop) := loop.settle settling
      (.handOver frame :: acts, loop)

/-- A tick that has a picture (`view.rs:1848-2111`); a loop that ends is no more. -/
def encode (loop : EncodeLoop) (tick : Tick) : List Act × Option EncodeLoop :=
  let asked := if tick.keyframeRequest then [.requestKeyframe] else []
  match tick.encoded with
  | .ended => (asked, none)
  | .refused =>
      let refusals := saturatingAdd32 loop.refusals 1
      if refusals ≥ encodeRefusalsBeforeFault then (asked ++ [.fault .encoderFailed], none)
      else (asked, some { loop with refusals })
  | .frame frame =>
      match rewritten loop.codec frame with
      | none => (asked, none)
      | some frame =>
          let (acts, loop) := loop.took tick.settling frame
          (asked ++ acts, some loop)

/-- A tick that has the writer's slot (`view.rs:1637-2111`). -/
def capture (loop : EncodeLoop) (tick : Tick) : List Act × Option EncodeLoop :=
  match tick.captured with
  | .frame => loop.encode tick
  | .nothing => ([], some loop)
  | .ended => ([], none)

/-- A tick after the link's part (`view.rs:1581-2111`). -/
def afterLink (loop : EncodeLoop) (tick : Tick) : List Act × Option EncodeLoop :=
  match tick.held with
  | some took => ([], some { loop with link := loop.link.noteHeld took })
  | none =>
      match tick.slot with
      | .free => loop.capture tick
      | .waited took => { loop with link := loop.link.noteHeld took }.capture tick
      | .timedOut took => ([], some { loop with link := loop.link.noteHeld took })
      | .closed => ([], none)

/-- One tick (`view.rs:1536-2111`). -/
def step : Option EncodeLoop → Tick → List Act × Option EncodeLoop
  | none, _ => ([], none)
  | some loop, tick =>
      match loop.moveLink tick with
      | none => ([], none)
      | some (acts, loop) =>
          let (more, next) := loop.afterLink tick
          (acts ++ more, next)

end EncodeLoop

end Lumepeer.Runtime
