import Lumepeer.Core.Constants
import Lumepeer.Lib.Run
import Lumepeer.Lib.Saturating

/-!
# The loss-tolerant congestion controller

`LossTolerant` of `crates/net/src/loss_tolerant.rs`. The controller it wraps, the
round trip estimator and the calls that are only handed on are parameters; a
`Box<dyn Controller>` is the state of the wrapped controller.
-/

namespace Lumepeer.Net
open Lumepeer.Lib Lumepeer.Core

universe u

/-- `noq::congestion::Controller` with `RttEstimator::min`; `other` are the methods that
`LossTolerant` hands on as they are. -/
structure Controller (κ ρ ω : Type u) where
  onAck : κ → (now sent : Instant) → (bytes pn : UInt64) → (appLimited : Bool) → ρ → κ
  onCongestionEvent : κ → (now sent : Instant) → (isPersistentCongestion isEcn : Bool) →
    (lostBytes largestLostPn : UInt64) → κ
  other : κ → ω → κ
  window : κ → UInt64
  rttMin : ρ → Duration

/-- `TOLERATED_LOSS_PERMILLE` (`loss_tolerant.rs:33`). -/
def toleratedLossPermille : UInt64 := 20

/-- `BURST_BYTES` (`loss_tolerant.rs:38`). -/
def burstBytes : UInt64 := 8 * 1200

/-- `SHARE_HALF_LIFE` (`loss_tolerant.rs:42`). -/
def shareHalfLife : Duration := Duration.fromSecs 1

/-- `WINDOW_FLOOR_BYTES` (`loss_tolerant.rs:46`). -/
def windowFloorBytes : UInt64 := 128 * 1024

/-- `LossTolerant` (`loss_tolerant.rs:65-75`). -/
structure LossTolerant (κ : Type u) where
  inner : κ
  acked : UInt64
  lost : UInt64
  since : Instant
  minRtt : Option Duration

namespace LossTolerant

variable {κ ρ ω : Type u}

/-- `LossTolerant::around` (`loss_tolerant.rs:78-86`). -/
def around (inner : κ) (now : Instant) : LossTolerant κ :=
  { inner, acked := 0, lost := 0, since := now, minRtt := none }

/-- `LossTolerant::ceiling` (`loss_tolerant.rs:99-107`). The product overflows `u128` only for a
round trip of more than 292 thousand years. -/
def ceiling (s : LossTolerant κ) : UInt64 :=
  match s.minRtt with
  | none => UInt64.ofNat (2 ^ 64 - 1)
  | some minRtt =>
      let product := s.acked.toNat * (minRtt / 1000) * 2 / 1000000
      max (UInt64.ofNat (min product (2 ^ 64 - 1))) windowFloorBytes

/-- `LossTolerant::note_rtt` (`loss_tolerant.rs:110-114`). -/
def noteRtt (s : LossTolerant κ) (minRtt : Duration) : LossTolerant κ :=
  if minRtt ≠ 0 then { s with minRtt := some minRtt } else s

/-- `LossTolerant::decay` (`loss_tolerant.rs:122-128`). -/
def decay (s : LossTolerant κ) (now : Instant) : LossTolerant κ :=
  -- `saturating_duration_since` is zero for a reading taken before `since`.
  if now - s.since ≥ shareHalfLife then
    { s with acked := s.acked / 2, lost := s.lost / 2, since := now }
  else s

/-- `LossTolerant::note_acked` (`loss_tolerant.rs:117-120`). -/
def noteAcked (s : LossTolerant κ) (now : Instant) (bytes : UInt64) : LossTolerant κ :=
  let s := s.decay now
  { s with acked := saturatingAdd64 s.acked bytes }

/-- `LossTolerant::congested` (`loss_tolerant.rs:131-139`). -/
def congested (s : LossTolerant κ) (lostBytes : UInt64) : Bool :=
  lostBytes ≥ burstBytes ||
    saturatingMul64 s.lost 1000 >
      saturatingMul64 (saturatingAdd64 s.acked s.lost) toleratedLossPermille

/-- `LossTolerant::on_ack` (`loss_tolerant.rs:154-166`). -/
def onAck (c : Controller κ ρ ω) (s : LossTolerant κ) (now sent : Instant) (bytes pn : UInt64)
    (appLimited : Bool) (rtt : ρ) : LossTolerant κ :=
  let s := (s.noteAcked now bytes).noteRtt (c.rttMin rtt)
  { s with inner := c.onAck s.inner now sent bytes pn appLimited rtt }

/-- `LossTolerant::on_congestion_event` (`loss_tolerant.rs:179-200`). -/
def onCongestionEvent (c : Controller κ ρ ω) (s : LossTolerant κ) (now sent : Instant)
    (isPersistentCongestion isEcn : Bool) (lostBytes largestLostPn : UInt64) : LossTolerant κ :=
  let s := s.decay now
  let s := { s with lost := saturatingAdd64 s.lost lostBytes }
  if isPersistentCongestion || isEcn || s.congested lostBytes then
    { s with
      inner := c.onCongestionEvent s.inner now sent isPersistentCongestion isEcn lostBytes
        largestLostPn }
  else s

/-- `LossTolerant::window` (`loss_tolerant.rs:223-225`). -/
def window (c : Controller κ ρ ω) (s : LossTolerant κ) : UInt64 := min (c.window s.inner) s.ceiling

/-- What a connection asks of its controller; `window` is asked at a time the method is not told. -/
inductive Op (ρ ω : Type u) where
  | onAck (now sent : Instant) (bytes pn : UInt64) (appLimited : Bool) (rtt : ρ)
  | onCongestionEvent (now sent : Instant) (isPersistentCongestion isEcn : Bool)
      (lostBytes largestLostPn : UInt64)
  | window (now : Instant)
  | other (call : ω)

/-- One call and the window it answers with, if it was asked for. -/
def step (c : Controller κ ρ ω) (s : LossTolerant κ) : Op ρ ω → Option UInt64 × LossTolerant κ
  | .onAck now sent bytes pn appLimited rtt => (none, s.onAck c now sent bytes pn appLimited rtt)
  | .onCongestionEvent now sent isPersistentCongestion isEcn lostBytes largestLostPn =>
      (none, s.onCongestionEvent c now sent isPersistentCongestion isEcn lostBytes largestLostPn)
  | .window _ => (some (s.window c), s)
  | .other call => (none, { s with inner := c.other s.inner call })

end LossTolerant

end Lumepeer.Net
