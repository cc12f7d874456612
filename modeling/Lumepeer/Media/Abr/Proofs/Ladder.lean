import Lumepeer.Lib.Run
import Lumepeer.Media.Abr

/-!
# The ladder of the quality controller

Bits are given up before frames and frames before pixels, and they come back in
the reverse order. `Ladder` says which targets that leaves; every report keeps
it, whichever way it pushes. A report that asks for less lowers one knob until
all three are on their floors, and one that allows more raises one until all
three are at the top.
-/

namespace Lumepeer.Media.AbrController
open Lumepeer.Lib Lumepeer.Core

/-- The targets a session with this frame rate can be at. -/
structure Ladder (maxFps : UInt8) (target : QualityTarget) : Prop where
  bitrate : abrMinBitrateKbps ≤ target.bitrateKbps ∧ target.bitrateKbps ≤ abrMaxBitrateKbps
  fps : abrMinFps ≤ target.fps ∧ target.fps ≤ maxFps
  scale : abrMinScalePercent ≤ target.scalePercent ∧ target.scalePercent ≤ fullScalePercent
  pixels_last : target.scalePercent < fullScalePercent → target.fps = abrMinFps
  frames_second : target.fps < maxFps → target.bitrateKbps = abrMinBitrateKbps

/-- Every knob on its floor. -/
def floor : QualityTarget :=
  { bitrateKbps := abrMinBitrateKbps, fps := abrMinFps, scalePercent := abrMinScalePercent }

/-- Every knob at the top. -/
def top (maxFps : UInt8) : QualityTarget :=
  { bitrateKbps := abrMaxBitrateKbps, fps := maxFps, scalePercent := fullScalePercent }

/-- The ladder in numbers. -/
theorem ladder_iff {maxFps : UInt8} {target : QualityTarget} : Ladder maxFps target ↔
    (300 ≤ target.bitrateKbps.toNat ∧ target.bitrateKbps.toNat ≤ 25000) ∧
    (10 ≤ target.fps.toNat ∧ target.fps.toNat ≤ maxFps.toNat) ∧
    (50 ≤ target.scalePercent.toNat ∧ target.scalePercent.toNat ≤ 100) ∧
    (target.scalePercent.toNat < 100 → target.fps.toNat = 10) ∧
    (target.fps.toNat < maxFps.toNat → target.bitrateKbps.toNat = 300) := by
  constructor
  · rintro ⟨bitrate, fps, scale, pixels, frames⟩
    simp only [UInt32.le_iff_toNat_le, UInt8.le_iff_toNat_le, UInt32.lt_iff_toNat_lt,
      UInt8.lt_iff_toNat_lt, ← UInt32.toNat_inj, ← UInt8.toNat_inj]
      at bitrate fps scale pixels frames
    exact ⟨bitrate, fps, scale, pixels, frames⟩
  · rintro ⟨bitrate, fps, scale, pixels, frames⟩
    refine ⟨?_, ?_, ?_, ?_, ?_⟩
    all_goals
      simp only [UInt32.le_iff_toNat_le, UInt8.le_iff_toNat_le, UInt32.lt_iff_toNat_lt,
        UInt8.lt_iff_toNat_lt, ← UInt32.toNat_inj, ← UInt8.toNat_inj]
      assumption

theorem toNat_clampBitrate (proposed : UInt32) :
    (clampBitrate proposed).toNat = max 300 (min proposed.toNat 25000) := by
  rw [clampBitrate, toNat_max32, toNat_min32]
  rfl

/-- What one step down does, in numbers. -/
theorem degrade_cases (target : QualityTarget) (feedback : ReceiverFeedback) :
    (300 < target.bitrateKbps.toNat ∧
      (degrade target feedback).bitrateKbps.toNat < target.bitrateKbps.toNat ∧
      300 ≤ (degrade target feedback).bitrateKbps.toNat ∧
      (degrade target feedback).bitrateKbps.toNat ≤ 25000 ∧
      (degrade target feedback).fps = target.fps ∧
      (degrade target feedback).scalePercent = target.scalePercent) ∨
    (target.bitrateKbps.toNat ≤ 300 ∧ 10 < target.fps.toNat ∧
      (degrade target feedback).fps.toNat = max (target.fps.toNat - 5) 10 ∧
      (degrade target feedback).bitrateKbps = target.bitrateKbps ∧
      (degrade target feedback).scalePercent = target.scalePercent) ∨
    (target.bitrateKbps.toNat ≤ 300 ∧ target.fps.toNat ≤ 10 ∧ 50 < target.scalePercent.toNat ∧
      (degrade target feedback).scalePercent.toNat = max (target.scalePercent.toNat - 25) 50 ∧
      (degrade target feedback).bitrateKbps = target.bitrateKbps ∧
      (degrade target feedback).fps = target.fps) ∨
    (target.bitrateKbps.toNat ≤ 300 ∧ target.fps.toNat ≤ 10 ∧ target.scalePercent.toNat ≤ 50 ∧
      degrade target feedback = target) := by
  have bits : target.bitrateKbps > abrMinBitrateKbps ↔ 300 < target.bitrateKbps.toNat :=
    UInt32.lt_iff_toNat_lt
  have frames : target.fps > abrMinFps ↔ 10 < target.fps.toNat := UInt8.lt_iff_toNat_lt
  have pixels : target.scalePercent > abrMinScalePercent ↔ 50 < target.scalePercent.toNat :=
    UInt32.lt_iff_toNat_lt
  unfold degrade
  by_cases softer : 300 < target.bitrateKbps.toNat
  · rw [if_pos (bits.mpr softer)]
    refine .inl ⟨softer, ?_, ?_, ?_, rfl, rfl⟩
    · rw [toNat_clampBitrate]
      split
      · have two : (2 : UInt32).toNat = 2 := rfl
        rw [UInt32.toNat_div, two]
        omega
      · have ten : (10 : UInt32).toNat = 10 := rfl
        rw [toNat_saturatingSub32, UInt32.toNat_div, ten]
        omega
    · rw [toNat_clampBitrate]
      omega
    · rw [toNat_clampBitrate]
      omega
  · rw [if_neg (bits.not.mpr softer)]
    by_cases slower : 10 < target.fps.toNat
    · rw [if_pos (frames.mpr slower)]
      refine .inr (.inl ⟨by omega, slower, ?_, rfl, rfl⟩)
      rw [toNat_max8, toNat_saturatingSub8]
      rfl
    · rw [if_neg (frames.not.mpr slower)]
      by_cases smaller : 50 < target.scalePercent.toNat
      · rw [if_pos (pixels.mpr smaller)]
        refine .inr (.inr (.inl ⟨by omega, by omega, smaller, ?_, rfl, rfl⟩))
        rw [toNat_max32, toNat_saturatingSub32]
        rfl
      · rw [if_neg (pixels.not.mpr smaller)]
        exact .inr (.inr (.inr ⟨by omega, by omega, by omega, rfl⟩))

/-- What one step up does, in numbers. -/
theorem recover_cases (maxFps : UInt8) (target : QualityTarget) :
    (target.scalePercent.toNat < 100 ∧
      (recover maxFps target).scalePercent.toNat = min (target.scalePercent.toNat + 25) 100 ∧
      (recover maxFps target).bitrateKbps = target.bitrateKbps ∧
      (recover maxFps target).fps = target.fps) ∨
    (100 ≤ target.scalePercent.toNat ∧ target.fps.toNat < maxFps.toNat ∧
      (recover maxFps target).fps.toNat = min (target.fps.toNat + 5) maxFps.toNat ∧
      (recover maxFps target).bitrateKbps = target.bitrateKbps ∧
      (recover maxFps target).scalePercent = target.scalePercent) ∨
    (100 ≤ target.scalePercent.toNat ∧ maxFps.toNat ≤ target.fps.toNat ∧
      target.bitrateKbps.toNat < 25000 ∧
      (recover maxFps target).bitrateKbps.toNat =
        max 300 (min (target.bitrateKbps.toNat + target.bitrateKbps.toNat / 20) 25000) ∧
      (recover maxFps target).fps = target.fps ∧
      (recover maxFps target).scalePercent = target.scalePercent) ∨
    (100 ≤ target.scalePercent.toNat ∧ maxFps.toNat ≤ target.fps.toNat ∧
      25000 ≤ target.bitrateKbps.toNat ∧ recover maxFps target = target) := by
  have pixels : target.scalePercent < fullScalePercent ↔ target.scalePercent.toNat < 100 :=
    UInt32.lt_iff_toNat_lt
  have frames : target.fps < maxFps ↔ target.fps.toNat < maxFps.toNat := UInt8.lt_iff_toNat_lt
  have bits : target.bitrateKbps < abrMaxBitrateKbps ↔ target.bitrateKbps.toNat < 25000 :=
    UInt32.lt_iff_toNat_lt
  unfold recover
  by_cases larger : target.scalePercent.toNat < 100
  · rw [if_pos (pixels.mpr larger)]
    refine .inl ⟨larger, ?_, rfl, rfl⟩
    have step : abrScaleStepPercent.toNat = 25 := rfl
    have full : fullScalePercent.toNat = 100 := rfl
    rw [toNat_min32, toNat_saturatingAdd32, step, full]
    omega
  · rw [if_neg (pixels.not.mpr larger)]
    by_cases faster : target.fps.toNat < maxFps.toNat
    · rw [if_pos (frames.mpr faster)]
      refine .inr (.inl ⟨by omega, faster, ?_, rfl, rfl⟩)
      have step : abrFpsStep.toNat = 5 := rfl
      have range := maxFps.toNat_lt
      rw [toNat_min8, toNat_saturatingAdd8, step]
      omega
    · rw [if_neg (frames.not.mpr faster)]
      by_cases sharper : target.bitrateKbps.toNat < 25000
      · rw [if_pos (bits.mpr sharper)]
        refine .inr (.inr (.inl ⟨by omega, by omega, sharper, ?_, rfl, rfl⟩))
        have twenty : (20 : UInt32).toNat = 20 := rfl
        rw [toNat_clampBitrate, toNat_saturatingAdd32, UInt32.toNat_div, twenty]
        omega
      · rw [if_neg (bits.not.mpr sharper)]
        exact .inr (.inr (.inr ⟨by omega, by omega, by omega, rfl⟩))

theorem ladder_degrade {maxFps : UInt8} {target : QualityTarget} (ladder : Ladder maxFps target)
    (feedback : ReceiverFeedback) : Ladder maxFps (degrade target feedback) := by
  rw [ladder_iff] at ladder ⊢
  rcases degrade_cases target feedback with
    ⟨_, _, _, _, sameFps, sameScale⟩ | ⟨_, _, _, sameBitrate, sameScale⟩ |
      ⟨_, _, _, _, sameBitrate, sameFps⟩ | ⟨_, _, _, same⟩
  · rw [sameFps, sameScale]
    omega
  · rw [sameBitrate, sameScale]
    omega
  · rw [sameBitrate, sameFps]
    omega
  · rw [same]
    exact ladder

theorem ladder_recover {maxFps : UInt8} {target : QualityTarget} (ladder : Ladder maxFps target) :
    Ladder maxFps (recover maxFps target) := by
  rw [ladder_iff] at ladder ⊢
  rcases recover_cases maxFps target with
    ⟨_, _, sameBitrate, sameFps⟩ | ⟨_, _, _, sameBitrate, sameScale⟩ |
      ⟨_, _, _, _, sameFps, sameScale⟩ | ⟨_, _, _, same⟩
  · rw [sameBitrate, sameFps]
    omega
  · rw [sameBitrate, sameScale]
    omega
  · rw [sameFps, sameScale]
    omega
  · rw [same]
    exact ladder

/-- What one report does: nothing, or one step of the ladder. -/
theorem step_cases (controller : AbrController) (report : Report) :
    (controller.admits report.feedback report.now = false ∧
      (step controller report).2 = controller) ∨
    (controller.admits report.feedback report.now = true ∧
      (step controller report).2.target = controller.adjusted report.feedback ∧
      (step controller report).2.maxFps = controller.maxFps) := by
  unfold step onFeedback
  cases admitted : controller.admits report.feedback report.now with
  | false => exact .inl ⟨rfl, rfl⟩
  | true => exact .inr ⟨rfl, rfl, rfl⟩

/-- The controller of a session with this frame rate, on its ladder. -/
def OnLadder (maxFps : UInt8) (controller : AbrController) : Prop :=
  controller.maxFps = maxFps ∧ Ladder maxFps controller.target

theorem onLadder_step {maxFps : UInt8} {controller : AbrController}
    (on : OnLadder maxFps controller) (report : Report) :
    OnLadder maxFps (step controller report).2 := by
  obtain ⟨isMax, ladder⟩ := on
  rcases step_cases controller report with ⟨-, same⟩ | ⟨-, isTarget, sameMax⟩
  · rw [same]
    exact ⟨isMax, ladder⟩
  · refine ⟨sameMax.trans isMax, ?_⟩
    rw [isTarget, adjusted]
    cases controller.pressure report.feedback with
    | down => exact ladder_degrade ladder _
    | up =>
        rw [isMax]
        exact ladder_recover ladder

/-- A session starts at the top of its frame rate. -/
theorem onLadder_withMaxFps {maxFps : UInt8} (enough : abrMinFps ≤ maxFps) :
    OnLadder maxFps (withMaxFps maxFps) := by
  have bitrate : (withMaxFps maxFps).target.bitrateKbps.toNat = 8000 := rfl
  have fps : (withMaxFps maxFps).target.fps.toNat = maxFps.toNat := rfl
  have scale : (withMaxFps maxFps).target.scalePercent.toNat = 100 := rfl
  have ten : 10 ≤ maxFps.toNat := UInt8.le_iff_toNat_le.mp enough
  exact ⟨rfl, ladder_iff.mpr (by omega)⟩

/-- A report the controller acts on, in the direction `pressure` says. -/
def Pushes (direction : Pressure) (controller : AbrController) (report : Report) : Prop :=
  controller.admits report.feedback report.now = true ∧
    controller.pressure report.feedback = direction

/-- A report that shows more than 1% of the packets lost, or that less than 70% of what was sent got
through: of the target, or of what was really sent where that was less. The other reports are
clean. -/
def IsBad (controller : AbrController) (feedback : ReceiverFeedback) : Prop :=
  let target := controller.target.bitrateKbps.toNat
  let sent := feedback.sentKbps.toNat
  let offered := if sent = 0 then target else min target sent
  feedback.loss.gt lightLoss = true ∨
    0 < feedback.goodputKbps.toNat ∧ 100 * (feedback.goodputKbps.toNat + 1) ≤ 70 * offered

/-- The controller asks for less exactly at the bad reports. -/
theorem pressure_eq_down_iff {maxFps : UInt8} {controller : AbrController}
    (ladder : Ladder maxFps controller.target) (feedback : ReceiverFeedback) :
    controller.pressure feedback = .down ↔ IsBad controller feedback := by
  obtain ⟨⟨-, small⟩, -⟩ := ladder_iff.mp ladder
  have offered : (if feedback.sentKbps > 0 then min controller.target.bitrateKbps feedback.sentKbps
      else controller.target.bitrateKbps).toNat =
        if feedback.sentKbps.toNat = 0 then controller.target.bitrateKbps.toNat
        else min controller.target.bitrateKbps.toNat feedback.sentKbps.toNat := by
    have told : feedback.sentKbps > 0 ↔ 0 < feedback.sentKbps.toNat := UInt32.lt_iff_toNat_lt
    by_cases silent : feedback.sentKbps.toNat = 0
    · rw [if_pos silent, if_neg (told.not.mpr (by omega))]
    · rw [if_neg silent, if_pos (told.mpr (by omega)), toNat_min32]
  unfold pressure IsBad
  dsimp only
  generalize (if feedback.sentKbps > 0 then min controller.target.bitrateKbps feedback.sentKbps
      else controller.target.bitrateKbps) = rate at offered ⊢
  rw [← offered]
  have bound : rate.toNat ≤ 25000 := by
    rw [offered]
    split <;> omega
  have floorEq : (saturatingMul32 rate abrGoodputShortfallPercent / percent).toNat =
      70 * rate.toNat / 100 := by
    have shortfall : abrGoodputShortfallPercent.toNat = 70 := rfl
    have hundred : percent.toNat = 100 := rfl
    rw [UInt32.toNat_div, toNat_saturatingMul32, shortfall, hundred, Nat.mul_comm]
    omega
  cases lost : feedback.loss.gt lightLoss with
  | true => simp
  | false =>
      have zero : (0 : UInt32).toNat = 0 := rfl
      simp only [Bool.false_eq_true, if_false, false_or, Bool.and_eq_true, decide_eq_true_eq,
        gt_iff_lt, UInt32.lt_iff_toNat_lt, floorEq, zero]
      split
      · simp only [true_iff]
        omega
      · simp only [reduceCtorEq, false_iff]
        omega

/-- How far the knobs are from zero. -/
def height (controller : AbrController) : Nat :=
  controller.target.bitrateKbps.toNat + controller.target.fps.toNat +
    controller.target.scalePercent.toNat

theorem target_ext {first second : QualityTarget}
    (bitrate : first.bitrateKbps.toNat = second.bitrateKbps.toNat)
    (fps : first.fps.toNat = second.fps.toNat)
    (scale : first.scalePercent.toNat = second.scalePercent.toNat) : first = second := by
  cases first
  cases second
  rw [QualityTarget.mk.injEq]
  exact ⟨UInt32.toNat_inj.mp bitrate, UInt8.toNat_inj.mp fps, UInt32.toNat_inj.mp scale⟩

/-- A report that asks for less lowers a knob, or finds them all on their floors. -/
theorem height_down {maxFps : UInt8} {controller : AbrController} {report : Report}
    (on : OnLadder maxFps controller) (down : Pushes .down controller report) :
    (controller.target = floor → (step controller report).2.target = floor) ∧
    (controller.target ≠ floor → height (step controller report).2 < height controller) := by
  have ladder := ladder_iff.mp on.2
  have isTarget : (step controller report).2.target =
      degrade controller.target report.feedback := by
    rcases step_cases controller report with ⟨refused, -⟩ | ⟨-, isTarget, -⟩
    · rw [down.1] at refused
      cases refused
    · rw [isTarget, adjusted, down.2]
  rw [height, height, isTarget]
  constructor
  · intro onFloor
    rw [onFloor]
    rfl
  · intro above
    rcases degrade_cases controller.target report.feedback with
      ⟨_, _, _, _, sameFps, sameScale⟩ | ⟨_, _, _, sameBitrate, sameScale⟩ |
        ⟨_, _, _, _, sameBitrate, sameFps⟩ | ⟨lowBits, lowFrames, lowPixels, _⟩
    · rw [sameFps, sameScale]
      omega
    · rw [sameBitrate, sameScale]
      omega
    · rw [sameBitrate, sameFps]
      omega
    · refine absurd (target_ext ?_ ?_ ?_) above
      · show _ = 300
        omega
      · show _ = 10
        omega
      · show _ = 50
        omega

/-- A report that allows more raises a knob, or finds them all at the top. -/
theorem height_up {maxFps : UInt8} {controller : AbrController} {report : Report}
    (on : OnLadder maxFps controller) (up : Pushes .up controller report) :
    (controller.target = top maxFps → (step controller report).2.target = top maxFps) ∧
    (controller.target ≠ top maxFps →
      height controller < height (step controller report).2) := by
  have ladder := ladder_iff.mp on.2
  have isTarget : (step controller report).2.target = recover maxFps controller.target := by
    rcases step_cases controller report with ⟨refused, -⟩ | ⟨-, isTarget, -⟩
    · rw [up.1] at refused
      cases refused
    · rw [isTarget, adjusted, up.2, on.1]
  rw [height, height, isTarget]
  have steps := recover_cases maxFps controller.target
  constructor
  · intro atTop
    rw [atTop] at steps ⊢
    have full : (top maxFps).scalePercent.toNat = 100 := rfl
    have fast : (top maxFps).fps.toNat = maxFps.toNat := rfl
    have sharp : (top maxFps).bitrateKbps.toNat = 25000 := rfl
    rcases steps with ⟨_, _⟩ | ⟨_, _, _⟩ | ⟨_, _, _, _⟩ | ⟨_, _, _, same⟩
    · omega
    · omega
    · omega
    · exact same
  · intro below
    rcases steps with
      ⟨_, _, sameBitrate, sameFps⟩ | ⟨_, _, _, sameBitrate, sameScale⟩ |
        ⟨_, _, _, _, sameFps, sameScale⟩ | ⟨full, fast, sharp, _⟩
    · rw [sameBitrate, sameFps]
      omega
    · rw [sameBitrate, sameScale]
      omega
    · rw [sameFps, sameScale]
      omega
    · refine absurd (target_ext ?_ ?_ ?_) below
      · show _ = 25000
        omega
      · show _ = maxFps.toNat
        omega
      · show _ = 100
        omega

/-- From every target of the ladder, as many reports that ask for less as the knobs are high lead to
the floor of all three, and as many that allow more as they can rise lead to the top. -/
theorem ladder_reaches {maxFps : UInt8} {controller : AbrController}
    (on : OnLadder maxFps controller) :
    (∃ n, ∀ reports : List Report, n < reports.length →
      (∀ e ∈ history step controller reports, Pushes .down e.pre e.op) →
      (exec step controller reports).target = floor) ∧
    (∃ n, ∀ reports : List Report, n < reports.length →
      (∀ e ∈ history step controller reports, Pushes .up e.pre e.op) →
      (exec step controller reports).target = top maxFps) := by
  refine ⟨⟨height controller, ?_⟩, ⟨25355 - height controller, ?_⟩⟩
  · intro reports enough allDown
    have keep (s : AbrController) (report : Report) (here : OnLadder maxFps s)
        (_ : Pushes .down s report) : OnLadder maxFps (step s report).2 := onLadder_step here report
    have stay (s : AbrController) (report : Report) (here : OnLadder maxFps s)
        (down : Pushes .down s report) (onFloor : s.target = floor) :
        (step s report).2.target = floor := (height_down here down).1 onFloor
    have lower (s : AbrController) (report : Report) (here : OnLadder maxFps s)
        (down : Pushes .down s report) (above : ¬s.target = floor) :
        height (step s report).2 < height s := (height_down here down).2 above
    exact exec_reaches height keep stay lower on allDown enough
  · intro reports enough allUp
    have bounded (s : AbrController) (here : OnLadder maxFps s) : height s ≤ 25355 := by
      have ladder := ladder_iff.mp here.2
      have range := maxFps.toNat_lt
      unfold height
      omega
    have keep (s : AbrController) (report : Report) (here : OnLadder maxFps s)
        (_ : Pushes .up s report) : OnLadder maxFps (step s report).2 := onLadder_step here report
    have stay (s : AbrController) (report : Report) (here : OnLadder maxFps s)
        (up : Pushes .up s report) (atTop : s.target = top maxFps) :
        (step s report).2.target = top maxFps := (height_up here up).1 atTop
    have lower (s : AbrController) (report : Report) (here : OnLadder maxFps s)
        (up : Pushes .up s report) (below : ¬s.target = top maxFps) :
        25355 - height (step s report).2 < 25355 - height s := by
      have higher := (height_up here up).2 below
      have bound := bounded _ (onLadder_step here report)
      omega
    exact exec_reaches (fun s => 25355 - height s) keep stay lower on allUp enough

/-- Every target of every session is on the ladder, and from every target on it reports that ask
for less lead to the floor and reports that allow more to the top; the first are the bad ones and
the second the clean ones. -/
theorem ladder_run (maxFps : UInt8) (enough : abrMinFps ≤ maxFps) :
    (∀ reports : List Report, Ladder maxFps (exec step (withMaxFps maxFps) reports).target) ∧
    ∀ controller : AbrController, controller.maxFps = maxFps → Ladder maxFps controller.target →
      (∃ n, ∀ reports : List Report, n < reports.length →
        (∀ e ∈ history step controller reports, Pushes .down e.pre e.op) →
        (exec step controller reports).target = floor) ∧
      (∃ n, ∀ reports : List Report, n < reports.length →
        (∀ e ∈ history step controller reports, Pushes .up e.pre e.op) →
        (exec step controller reports).target = top maxFps) ∧
      ∀ feedback, (controller.pressure feedback = .down ↔ IsBad controller feedback) ∧
        (controller.pressure feedback = .up ↔ ¬IsBad controller feedback) := by
  refine ⟨?_, ?_⟩
  · intro reports
    have keep (s : AbrController) (report : Report) (here : OnLadder maxFps s) :
        OnLadder maxFps (step s report).2 := onLadder_step here report
    exact (exec_invariant keep (onLadder_withMaxFps enough) reports).2
  · intro controller isMax ladder
    obtain ⟨down, up⟩ := ladder_reaches ⟨isMax, ladder⟩
    refine ⟨down, up, fun feedback => ?_⟩
    have bad := pressure_eq_down_iff ladder feedback
    refine ⟨bad, ?_⟩
    rw [← bad]
    cases controller.pressure feedback <;> simp

/-- A quarter of the frames lost. -/
def lossy (now : Instant) : Report := ⟨⟨.finite (1 / 4), 20, 0, 0⟩, now, now⟩

/-- A report of these each second. -/
def lossySeconds (start count : Nat) : List Report := (List.range' start count 1000000000).map lossy

theorem pushes_lossySeconds {controller : AbrController} {start : Nat} (count : Nat)
    (rested : ∀ last ∈ controller.lastAdjust, last + 1000000000 ≤ start) :
    ∀ e ∈ history step controller (lossySeconds start count), Pushes .down e.pre e.op := by
  induction count generalizing controller start with
  | zero =>
      intro e member
      cases member
  | succ count ih =>
      have first : Pushes .down controller (lossy start) := by
        have lost : F32.gt (.finite (1 / 4)) lightLoss = true := by decide +kernel
        have fraction : F32.within (.finite (1 / 4)) 0 1 = true := by decide +kernel
        refine ⟨?_, if_pos lost⟩
        show (F32.within (.finite (1 / 4)) 0 1 && _) = true
        rw [fraction]
        cases isLast : controller.lastAdjust with
        | none => rfl
        | some last =>
            have passed := rested last isLast
            have interval : Duration.fromSecs 1 / abrAdjustMaxRatePerSec ≤ 1000000000 := by decide
            simp only [Option.any_some, Bool.true_and, Bool.not_eq_true', decide_eq_false_iff_not]
            exact Nat.not_lt.mpr (interval.trans (Nat.le_sub_of_add_le' passed))
      intro e member
      rw [lossySeconds, List.range'_succ, List.map_cons, history_cons] at member
      rcases List.mem_cons.mp member with rfl | later
      · exact first
      · refine ih (fun last isLast => ?_) e later
        have kept : (step controller (lossy start)).2.lastAdjust = some start := by
          unfold step onFeedback
          rw [if_pos first.1]
          rfl
        rw [kept] at isLast
        obtain rfl := Option.some.inj isLast
        exact Nat.le_refl _

/-- A session at 60 frames a second whose every report shows a quarter of the frames lost. -/
theorem ladder_run_sixty :
    ∃ count, (exec step (withMaxFps 60) (lossySeconds 0 count)).target = floor := by
  obtain ⟨n, reaches⟩ := ((ladder_run 60 (by decide)).2 (withMaxFps 60) rfl
    ((ladder_run 60 (by decide)).1 [])).1
  refine ⟨n + 1, reaches _ ?_ (pushes_lossySeconds _ nofun)⟩
  rw [lossySeconds, List.length_map, List.length_range']
  exact Nat.lt_succ_self n

example : (exec step (withMaxFps 60) [lossy 0, lossy 1000000000]).target =
    ⟨2000, 60, 100⟩ := by decide +kernel

end Lumepeer.Media.AbrController
