import Lumepeer.Core.Constants
import Lumepeer.Lib.Saturating
import Mathlib.Algebra.Order.Ring.Rat

/-!
# The adaptive quality controller

`AbrController` of `crates/media/src/abr.rs:25-312`. A loss is an `f32` from an
untrusted peer and is only ever compared, so an `f32` is the number it stands
for, an infinity or NaN, and the two thresholds are the numbers their `f32`
literals stand for. The two readings of the clock are arguments.
-/

namespace Lumepeer.Media
open Lumepeer.Lib Lumepeer.Core

/-- `f32`, as far as it is compared. -/
inductive F32 where
  | nan
  | negInf
  | finite (value : Rat)
  | posInf
  deriving DecidableEq

namespace F32

/-- `x > bound`. -/
def gt : F32 → Rat → Bool
  | .finite value, bound => bound < value
  | .posInf, _ => true
  | .negInf, _ | .nan, _ => false

/-- `(low..=high).contains(&x)`. -/
def within : F32 → Rat → Rat → Bool
  | .finite value, low, high => low ≤ value && value ≤ high
  | .posInf, _, _ | .negInf, _, _ | .nan, _, _ => false

end F32

/-- `HEAVY_LOSS` (`abr.rs:25`), `0.05` in an `f32`. -/
def heavyLoss : Rat := 13421773 / 2 ^ 28

/-- `LIGHT_LOSS` (`abr.rs:27`), `0.01` in an `f32`. -/
def lightLoss : Rat := 10737418 / 2 ^ 30

/-- `PERCENT` (`abr.rs:29`). -/
def percent : UInt32 := 100

/-- `FULL_SCALE_PERCENT` (`abr.rs:31`). -/
def fullScalePercent : UInt32 := 100

/-- `ReceiverFeedback` (`abr.rs:35-54`). -/
structure ReceiverFeedback where
  loss : F32
  rttMs : UInt32
  goodputKbps : UInt32
  sentKbps : UInt32
  deriving DecidableEq

/-- `QualityTarget` (`abr.rs:57-65`). -/
structure QualityTarget where
  bitrateKbps : UInt32
  fps : UInt8
  scalePercent : UInt32
  deriving DecidableEq, Repr

/-- `QualityTarget::default` (`abr.rs:67-75`). -/
def QualityTarget.default : QualityTarget :=
  { bitrateKbps := encodeDefaultBitrateKbps, fps := encodeDefaultFps
    scalePercent := fullScalePercent }

/-- `Pressure` (`abr.rs:134-139`). -/
inductive Pressure where
  | down
  | up
  deriving DecidableEq, Repr

/-- `AbrController` (`abr.rs:143-148`). -/
structure AbrController where
  target : QualityTarget
  lastAdjust : Option Instant
  maxFps : UInt8
  deriving DecidableEq

namespace AbrController

/-- `AbrController::with_max_fps` (`abr.rs:168-177`). -/
def withMaxFps (maxFps : UInt8) : AbrController :=
  { target := { QualityTarget.default with fps := maxFps }, lastAdjust := none, maxFps }

/-- `AbrController::pressure` (`abr.rs:233-250`). -/
def pressure (controller : AbrController) (feedback : ReceiverFeedback) : Pressure :=
  if feedback.loss.gt lightLoss then .down
  else
    let offered := if feedback.sentKbps > 0 then
        min controller.target.bitrateKbps feedback.sentKbps
      else controller.target.bitrateKbps
    let floor := saturatingMul32 offered abrGoodputShortfallPercent / percent
    if feedback.goodputKbps > 0 && feedback.goodputKbps < floor then .down else .up

/-- `u32::clamp` to the range of bitrates. -/
def clampBitrate (proposed : UInt32) : UInt32 :=
  max abrMinBitrateKbps (min proposed abrMaxBitrateKbps)

/-- `AbrController::degrade` (`abr.rs:253-283`), of the target. -/
def degrade (target : QualityTarget) (feedback : ReceiverFeedback) : QualityTarget :=
  if target.bitrateKbps > abrMinBitrateKbps then
    let proposed := if feedback.loss.gt heavyLoss then target.bitrateKbps / 2
      else saturatingSub32 target.bitrateKbps (target.bitrateKbps / 10)
    { target with bitrateKbps := clampBitrate proposed }
  else if target.fps > abrMinFps then
    { target with fps := max (saturatingSub8 target.fps abrFpsStep) abrMinFps }
  else if target.scalePercent > abrMinScalePercent then
    { target with
      scalePercent := max (saturatingSub32 target.scalePercent abrScaleStepPercent)
        abrMinScalePercent }
  else target

/-- `AbrController::recover` (`abr.rs:287-311`), of the target. -/
def recover (maxFps : UInt8) (target : QualityTarget) : QualityTarget :=
  if target.scalePercent < fullScalePercent then
    { target with
      scalePercent := min (saturatingAdd32 target.scalePercent abrScaleStepPercent)
        fullScalePercent }
  else if target.fps < maxFps then
    { target with fps := min (saturatingAdd8 target.fps abrFpsStep) maxFps }
  else if target.bitrateKbps < abrMaxBitrateKbps then
    { target with
      bitrateKbps :=
        clampBitrate (saturatingAdd32 target.bitrateKbps (target.bitrateKbps / 20)) }
  else target

/-- The target after a report that reaches the adjustment (`abr.rs:210-214`). -/
def adjusted (controller : AbrController) (feedback : ReceiverFeedback) : QualityTarget :=
  match controller.pressure feedback with
  | .down => degrade controller.target feedback
  | .up => recover controller.maxFps controller.target

/-- The report reaches the adjustment: its loss is a fraction and the last change is long enough
ago (`abr.rs:198-207`). -/
def admits (controller : AbrController) (feedback : ReceiverFeedback) (now : Instant) : Bool :=
  let minInterval : Duration := Duration.fromSecs 1 / abrAdjustMaxRatePerSec
  feedback.loss.within 0 1 && !controller.lastAdjust.any fun last => now - last < minInterval

/-- `AbrController::on_feedback` (`abr.rs:197-216`); `now` is what `elapsed` reads and `stamp`
the reading that is kept. -/
def onFeedback (controller : AbrController) (feedback : ReceiverFeedback) (now stamp : Instant) :
    Option QualityTarget × AbrController :=
  if controller.admits feedback now then
    let target := controller.adjusted feedback
    (if target ≠ controller.target then some target else none,
      { controller with target, lastAdjust := some stamp })
  else (none, controller)

/-- A report and the two readings of the clock it is met with. -/
structure Report where
  feedback : ReceiverFeedback
  now : Instant
  stamp : Instant
  deriving DecidableEq

/-- One report. -/
def step (controller : AbrController) (report : Report) : Option QualityTarget × AbrController :=
  controller.onFeedback report.feedback report.now report.stamp

end AbrController

/-!
## The link under a pinned bitrate

`LinkPressure` of `crates/media/src/abr.rs:493-647`. The products of a
`Duration` and a number panic where they overflow; the one product of `u64`s that
does not saturate wraps, as in a release build. A `usize` is 64 bits wide.
-/

/-- `KEEP_UP_WINDOW` (`abr.rs:316`). -/
def keepUpWindow : Duration := Duration.fromSecs 1

/-- `PRESSED_HELD_PERCENT` (`abr.rs:495`). -/
def pressedHeldPercent : UInt32 := 50

/-- `CLEAR_HELD_PERCENT` (`abr.rs:497`). -/
def clearHeldPercent : UInt32 := 10

/-- `PRESSED_WINDOWS` (`abr.rs:501`). -/
def pressedWindows : UInt32 := 2

/-- `CLEAR_WINDOWS` (`abr.rs:504`). -/
def clearWindows : UInt32 := 2

/-- `RECOVERY_STEP_PERCENT` (`abr.rs:507`). -/
def recoveryStepPercent : UInt32 := 150

/-- `HEAVY_FRAME_PERCENT` (`abr.rs:512`). -/
def heavyFramePercent : UInt64 := 25

/-- `Duration::MAX`. -/
def durationMax : Duration := Duration.fromSecs (2 ^ 64 - 1) + 999999999

/-- `Duration * u32`. -/
def durationMul (duration : Duration) (factor : UInt32) : Option Duration :=
  if duration * factor.toNat ≤ durationMax then some (duration * factor.toNat) else none

/-- `LinkPressure` (`abr.rs:533-552`). -/
structure LinkPressure where
  started : Option Instant
  held : Duration
  bytes : UInt64
  frames : UInt64
  heavy : Bool
  pressed : UInt32
  clear : UInt32
  capKbps : Option UInt32
  deriving DecidableEq

namespace LinkPressure

/-- `LinkPressure::default` (`abr.rs:533`). -/
def default : LinkPressure :=
  { started := none, held := 0, bytes := 0, frames := 0, heavy := false, pressed := 0, clear := 0
    capKbps := none }

/-- `LinkPressure::held` (`abr.rs:562-564`). -/
def noteHeld (link : LinkPressure) (took : Duration) : LinkPressure :=
  { link with held := min (link.held + took) durationMax }

/-- `LinkPressure::sent` (`abr.rs:567-570`). -/
def sent (link : LinkPressure) (bytes : UInt64) : LinkPressure :=
  { link with bytes := saturatingAdd64 link.bytes bytes, frames := saturatingAdd64 link.frames 1 }

/-- `LinkPressure::release` (`abr.rs:575-579`). -/
def release (link : LinkPressure) : Bool × LinkPressure := (link.capKbps.isSome, default)

/-- The bitrate in force under a ceiling (`abr.rs:599-601`). -/
def current (link : LinkPressure) (ceilingKbps : UInt32) : UInt32 :=
  match link.capKbps with
  | some cap => min cap ceilingKbps
  | none => ceilingKbps

/-- A window's frames were heavy (`abr.rs:603-606`). -/
def heavyFrames (bytes frames : UInt64) (current : UInt32) (fps : UInt8) : Bool :=
  let frameBudget := current.toUInt64 * 125 / (max fps 1).toUInt64
  frames > 0 &&
    saturatingMul64 bytes percent.toUInt64 ≥
      saturatingMul64 frameBudget frames * heavyFramePercent

/-- What a window's bytes come to in kilobits a second (`abr.rs:613-616`). -/
def sentKbps (bytes : UInt64) (elapsed : Duration) : UInt32 :=
  let asMillis := elapsed / 1000000
  let millis := max (if asMillis < 2 ^ 64 then UInt64.ofNat asMillis else 0xffffffffffffffff) 1
  (tryFrom32 (saturatingMul64 bytes 8 / millis).toNat).getD 0xffffffff

/-- The window that just closed was pressed (`abr.rs:597-627`). -/
def closePressed (link : LinkPressure) (elapsed : Duration) (bytes frames : UInt64)
    (ceilingKbps : UInt32) (fps : UInt8) : Option UInt32 × LinkPressure :=
  let current := link.current ceilingKbps
  let link := { link with
    clear := 0
    pressed := saturatingAdd32 link.pressed 1
    heavy := link.heavy || heavyFrames bytes frames current fps }
  if link.pressed < pressedWindows then (none, link)
  else
    let basis := if link.heavy then min current (sentKbps bytes elapsed) else current
    let lowered := max (basis / 2) abrMinBitrateKbps
    if lowered ≥ current then (none, link)
    else (some lowered, { link with capKbps := some lowered })

/-- The window that just closed was not pressed (`abr.rs:629-645`); `waited` says that it was not
clear either. -/
def closeUnpressed (link : LinkPressure) (waited : Bool) (ceilingKbps : UInt32) :
    Option UInt32 × LinkPressure :=
  let link := { link with pressed := 0, heavy := false }
  match link.capKbps with
  | none => (none, { link with clear := 0 })
  | some cap =>
      if waited then (none, { link with clear := 0 })
      else
        let link := { link with clear := saturatingAdd32 link.clear 1 }
        if link.clear < clearWindows then (none, link)
        else
          let raised := saturatingMul32 cap recoveryStepPercent / percent
          (some (min raised ceilingKbps),
            { link with capKbps := if raised < ceilingKbps then some raised else none })

/-- `LinkPressure::due` (`abr.rs:585-646`); `none` is a panic. -/
def due (link : LinkPressure) (now : Instant) (ceilingKbps : UInt32) (fps : UInt8) :
    Option (Option UInt32 × LinkPressure) := do
  let started := link.started.getD now
  let elapsed := now - started
  if elapsed < keepUpWindow then return (none, { link with started := some started })
  let closed := { link with held := 0, bytes := 0, frames := 0, started := some now }
  let share ← durationMul link.held percent
  let half ← durationMul elapsed pressedHeldPercent
  if share ≥ half then return closed.closePressed elapsed link.bytes link.frames ceilingKbps fps
  -- the product of the clear test is smaller than the one just taken
  return closed.closeUnpressed (share > elapsed * clearHeldPercent.toNat) ceilingKbps

/-- A call. -/
inductive Op where
  | held (took : Duration)
  | sent (bytes : UInt64)
  | due (now : Instant) (ceilingKbps : UInt32) (fps : UInt8)
  | release
  deriving DecidableEq

/-- What a call answers. -/
inductive Answer where
  | done
  | due (bitrate : Option UInt32)
  | released (had : Bool)
  | panicked
  deriving DecidableEq

/-- One call; nothing follows a panic. -/
def step : Option LinkPressure → Op → Answer × Option LinkPressure
  | none, _ => (.panicked, none)
  | some link, .held took => (.done, some (link.noteHeld took))
  | some link, .sent bytes => (.done, some (link.sent bytes))
  | some link, .release => (.released link.release.1, some link.release.2)
  | some link, .due now ceilingKbps fps =>
      match link.due now ceilingKbps fps with
      | none => (.panicked, none)
      | some (bitrate, link) => (.due bitrate, some link)

end LinkPressure

end Lumepeer.Media
