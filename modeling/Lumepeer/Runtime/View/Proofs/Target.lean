import Lumepeer.Media.Abr.Proofs.Link
import Lumepeer.Runtime.View.Proofs.Drops

/-!
# Who owns the quality target

The encoder is always at the bitrate of the target under what the link holds it
to, whichever of the two moved last. A preset that is named owns the target from
the first frame handed over; once none is named, the adaptive controller has to
say something new to get it back, because the loop takes over only changes.
-/

namespace Lumepeer.Runtime.EncodeLoop
open Lumepeer.Lib Lumepeer.Core Lumepeer.Media

/-! ## The encoder's bitrate -/

/-- The encoder is at the bitrate of the target under the link's cap. -/
def InTune (loop : EncodeLoop) : Prop := loop.encoderKbps = loop.underLink loop.target.bitrateKbps

/-- What the parts of a tick before the hand-over leave alone. -/
structure Same (before after : EncodeLoop) : Prop where
  target : after.target = before.target
  abr : after.abr = before.abr
  maxFps : after.maxFps = before.maxFps
  codec : after.codec = before.codec
  lastReport : after.lastReport = before.lastReport

theorem Same.trans {first second third : EncodeLoop} (before : Same first second)
    (after : Same second third) : Same first third where
  target := after.target.trans before.target
  abr := after.abr.trans before.abr
  maxFps := after.maxFps.trans before.maxFps
  codec := after.codec.trans before.codec
  lastReport := after.lastReport.trans before.lastReport

/-- ... and what those behind the link's part leave alone as well. -/
structure Untouched (before after : EncodeLoop) : Prop extends Same before after where
  encoderKbps : after.encoderKbps = before.encoderKbps
  capKbps : after.link.capKbps = before.link.capKbps

theorem underLink_congr {before after : EncodeLoop}
    (capKbps : after.link.capKbps = before.link.capKbps) (kbps : UInt32) :
    after.underLink kbps = before.underLink kbps := by
  unfold underLink
  rw [capKbps]

theorem Untouched.inTune {before after : EncodeLoop} (untouched : Untouched before after)
    (inTune : InTune before) : InTune after := by
  rw [InTune, untouched.encoderKbps, untouched.target, underLink_congr untouched.capKbps]
  exact inTune

theorem Untouched.trans {first second third : EncodeLoop} (before : Untouched first second)
    (after : Untouched second third) : Untouched first third where
  toSame := before.toSame.trans after.toSame
  encoderKbps := after.encoderKbps.trans before.encoderKbps
  capKbps := after.capKbps.trans before.capKbps

/-- A window of the link leaves what is in force under the ceiling to the encoder. -/
theorem due_underLink {loop : EncodeLoop} {link : LinkPressure} {now : Instant} {fps : UInt8}
    {moved : Option UInt32}
    (answered : loop.link.due now loop.target.bitrateKbps fps = some (moved, link)) :
    (moved = none ∧ link.capKbps = loop.link.capKbps) ∨
      moved = some ({ loop with link }.underLink loop.target.bitrateKbps) := by
  have least {a b : UInt32} (le : a.toNat ≤ b.toNat) : min a b = a := by
    apply UInt32.toNat_inj.mp
    rw [toNat_min32]
    omega
  rcases LinkPressure.due_cases answered with
    ⟨-, none, -, -, same⟩ | ⟨-, -, ⟨none, same⟩ | ⟨lowered, isMoved, isCap, -, -, less, -⟩⟩ |
      ⟨-, -, ⟨none, same, -⟩ | ⟨old, -, -, -, isMoved, isCap⟩⟩
  · exact .inl ⟨none, same⟩
  · exact .inl ⟨none, same⟩
  · refine .inr (isMoved.trans ?_)
    have atMost := LinkPressure.current_le loop.link loop.target.bitrateKbps
    simp only [underLink, isCap]
    rw [least (by omega)]
  · exact .inl ⟨none, same⟩
  · refine .inr (isMoved.trans ?_)
    by_cases below : LinkPressure.raised old < loop.target.bitrateKbps
    · rw [if_pos below] at isCap
      simp only [underLink, isCap]
    · rw [if_neg below] at isCap
      simp only [underLink, isCap]
      have above := UInt32.le_iff_toNat_le.mp (UInt32.not_lt.mp below)
      refine congrArg some (UInt32.toNat_inj.mp ?_)
      rw [toNat_min32]
      omega

/-- The link's part of a tick leaves the encoder in tune. -/
theorem moveLink_inTune {loop moved : EncodeLoop} {tick : Tick} {acts : List Act}
    (succeeds : tick.setsBitrate = true) (inTune : InTune loop)
    (isMoved : loop.moveLink tick = some (acts, moved)) : InTune moved ∧ Same loop moved := by
  obtain ⟨⟨bitrate, link⟩, answered, isMoved⟩ := Option.map_eq_some_iff.mp isMoved
  have follows : (bitrate = none ∧ link.capKbps = loop.link.capKbps) ∨
      bitrate = some ({ loop with link }.underLink loop.target.bitrateKbps) := by
    unfold linkMoved at answered
    cases named : tick.manualCap with
    | some cap =>
        rw [named] at answered
        exact due_underLink answered
    | none =>
        rw [named] at answered
        obtain ⟨isBitrate, rfl⟩ := Prod.mk.inj (Option.some.inj answered)
        rw [← isBitrate]
        cases had : loop.link.capKbps with
        | none =>
            exact .inl ⟨rfl, rfl⟩
        | some cap =>
            exact .inr rfl
  rcases follows with ⟨rfl, same⟩ | rfl
  · obtain ⟨-, rfl⟩ := Prod.mk.inj isMoved
    refine ⟨?_, ⟨rfl, rfl, rfl, rfl, rfl⟩⟩
    show loop.encoderKbps = underLink { loop with link } loop.target.bitrateKbps
    rw [underLink_congr same]
    exact inTune
  · simp only [setBitrate, succeeds, if_true] at isMoved
    obtain ⟨-, rfl⟩ := Prod.mk.inj isMoved
    exact ⟨rfl, ⟨rfl, rfl, rfl, rfl, rfl⟩⟩

/-! ## What a tick comes to -/

/-- The encoder makes a frame of the tick that passes the checks. -/
def Passes (codec : VideoCodec) (tick : Tick) : Prop :=
  ∃ frame, picture codec tick = some frame ∧ checkFrame frame = .handedOver

/-- What a tick leaves: a loop that has settled after a hand-over, or the loop as it was. -/
def LeavesFrom (loop : EncodeLoop) (tick : Tick) (left : Option EncodeLoop) : Prop :=
  (Passes loop.codec tick ∧ ∃ ready, Untouched loop ready ∧
      left = some (ready.settle tick.settling).2) ∨
    (¬Passes loop.codec tick ∧ ∀ next, left = some next → Untouched loop next)

theorem Untouched.refl (loop : EncodeLoop) : Untouched loop loop :=
  ⟨⟨rfl, rfl, rfl, rfl, rfl⟩, rfl, rfl⟩

theorem not_passes_of_stops {codec : VideoCodec} {tick : Tick} (stops : reaches tick = false) :
    ¬Passes codec tick := by
  rintro ⟨frame, made, -⟩
  rw [picture, stops] at made
  cases made

theorem encode_leaves (loop : EncodeLoop) (tick : Tick) (comes : reaches tick = true) :
    LeavesFrom loop tick (loop.encode tick).2 := by
  have without (none : picture loop.codec tick = none) : ¬Passes loop.codec tick := by
    rintro ⟨frame, made, -⟩
    cases none.symm.trans made
  unfold encode
  simp only
  cases isEncoded : tick.encoded with
  | ended =>
      refine .inr ⟨without (by simp only [picture, if_pos comes, isEncoded]), ?_⟩
      intro next left
      cases left
  | refused =>
      refine .inr ⟨without (by simp only [picture, if_pos comes, isEncoded]), ?_⟩
      intro next left
      simp only at left
      split at left
      · cases left
      · obtain rfl := Option.some.inj left
        exact ⟨⟨rfl, rfl, rfl, rfl, rfl⟩, rfl, rfl⟩
  | frame made =>
      have isPicture : picture loop.codec tick = rewritten loop.codec made := by
        simp only [picture, if_pos comes, isEncoded]
      simp only
      cases isRewritten : rewritten loop.codec made with
      | none =>
          refine .inr ⟨without (isPicture.trans isRewritten), ?_⟩
          intro next left
          cases left
      | some frame =>
          have isFrame := isPicture.trans isRewritten
          have refused (checked : checkFrame frame ≠ .handedOver) : ¬Passes loop.codec tick := by
            rintro ⟨other, made, hands⟩
            obtain rfl := Option.some.inj (isFrame.symm.trans made)
            exact checked hands
          simp only [took]
          cases checked : checkFrame frame with
          | empty =>
              refine .inr ⟨refused (by simp [checked]), ?_⟩
              intro next left
              obtain rfl := Option.some.inj left
              exact ⟨⟨rfl, rfl, rfl, rfl, rfl⟩, rfl, rfl⟩
          | tooLarge =>
              refine .inr ⟨refused (by simp [checked]), ?_⟩
              intro next left
              obtain rfl := Option.some.inj left
              exact ⟨⟨rfl, rfl, rfl, rfl, rfl⟩, rfl, rfl⟩
          | handedOver =>
              exact .inl ⟨⟨frame, isFrame, checked⟩,
                { loop with
                  refusals := 0, link := loop.link.sent (UInt64.ofNat frame.data.length) },
                ⟨⟨rfl, rfl, rfl, rfl, rfl⟩, rfl, rfl⟩, rfl⟩

theorem capture_leaves (loop : EncodeLoop) (tick : Tick) (free : tick.held = none)
    (slot : tick.slot = .free ∨ ∃ took, tick.slot = .waited took) :
    LeavesFrom loop tick (loop.capture tick).2 := by
  unfold capture
  cases isCaptured : tick.captured with
  | frame =>
      apply encode_leaves
      rcases slot with isFree | ⟨took, isWaited⟩
      · simp [reaches, free, isFree, isCaptured]
      · simp [reaches, free, isWaited, isCaptured]
  | nothing =>
      refine .inr ⟨not_passes_of_stops (by simp [reaches, isCaptured]), ?_⟩
      intro next left
      obtain rfl := Option.some.inj left
      exact .refl loop
  | ended =>
      refine .inr ⟨not_passes_of_stops (by simp [reaches, isCaptured]), ?_⟩
      intro next left
      cases left

theorem afterLink_leaves (loop : EncodeLoop) (tick : Tick) :
    LeavesFrom loop tick (loop.afterLink tick).2 := by
  have noted (took : Duration) :
      Untouched loop { loop with link := loop.link.noteHeld took } :=
    ⟨⟨rfl, rfl, rfl, rfl, rfl⟩, rfl, rfl⟩
  have stopped (stops : reaches tick = false) (took : Duration) :
      LeavesFrom loop tick (some { loop with link := loop.link.noteHeld took }) := by
    refine .inr ⟨not_passes_of_stops stops, ?_⟩
    intro next left
    obtain rfl := Option.some.inj left
    exact noted took
  unfold afterLink
  cases isHeld : tick.held with
  | some took => exact stopped (by simp [reaches, isHeld]) took
  | none =>
      cases isSlot : tick.slot with
      | free => exact capture_leaves loop tick isHeld (.inl isSlot)
      | waited took =>
          have leaves := capture_leaves { loop with link := loop.link.noteHeld took } tick isHeld
            (.inr ⟨took, isSlot⟩)
          rcases leaves with ⟨passes, ready, same, left⟩ | ⟨refused, same⟩
          · exact .inl ⟨passes, ready, (noted took).trans same, left⟩
          · exact .inr ⟨refused, fun next left => (noted took).trans (same next left)⟩
      | timedOut took => exact stopped (by simp [reaches, isSlot]) took
      | closed =>
          refine .inr ⟨not_passes_of_stops (by simp [reaches, isSlot]), ?_⟩
          intro next left
          cases left

/-! ## What settles the target -/

/-- The encoder calls of the tick succeed. -/
structure Obeyed (tick : Tick) : Prop where
  link : tick.setsBitrate = true
  target : tick.settling.setsBitrate = true
  rebuild : tick.settling.rebuilds = true

/-- The target that the preset of the tick pins, if it names one. -/
def pinnedAt (maxFps : UInt8) (settling : Settling) : Option QualityTarget :=
  pinnedTarget settling.manualCap
    ((settling.fpsCap.map fun fps => min fps maxFps).getD maxFps)

theorem retune_spec (loop : EncodeLoop) (settling : Settling) (next : QualityTarget) :
    Same loop (loop.retune settling next).2 ∧
      (settling.setsBitrate = true → InTune loop →
        (loop.retune settling next).2.encoderKbps =
          (loop.retune settling next).2.underLink next.bitrateKbps) := by
  unfold retune setBitrate
  by_cases another : next.bitrateKbps ≠ loop.target.bitrateKbps
  · rw [if_pos another]
    cases settling.setsBitrate with
    | false => exact ⟨⟨rfl, rfl, rfl, rfl, rfl⟩, nofun⟩
    | true => exact ⟨⟨rfl, rfl, rfl, rfl, rfl⟩, fun _ _ => rfl⟩
  · rw [if_neg another]
    refine ⟨⟨rfl, rfl, rfl, rfl, rfl⟩, fun _ inTune => ?_⟩
    rw [not_not.mp another]
    exact inTune

theorem rebuild_spec (loop : EncodeLoop) (settling : Settling) (next : QualityTarget) :
    Same loop (loop.rebuild settling next).2 ∧
      (settling.rebuilds = true → loop.encoderKbps = loop.underLink next.bitrateKbps →
        (loop.rebuild settling next).2.encoderKbps =
          (loop.rebuild settling next).2.underLink next.bitrateKbps) := by
  unfold rebuild
  simp only
  by_cases another : settling.manualCap.isSome ∧ next.fps ≠ loop.encoderFps
  · rw [if_pos another]
    cases settling.rebuilds with
    | false => exact ⟨⟨rfl, rfl, rfl, rfl, rfl⟩, nofun⟩
    | true => exact ⟨⟨rfl, rfl, rfl, rfl, rfl⟩, fun _ _ => rfl⟩
  · rw [if_neg another]
    exact ⟨⟨rfl, rfl, rfl, rfl, rfl⟩, fun _ tuned => tuned⟩

/-- Whoever moves the target moves the encoder with it. -/
theorem adopt_spec (loop : EncodeLoop) (settling : Settling) (next : QualityTarget) :
    (loop.adopt settling next).2.target = next ∧ (loop.adopt settling next).2.abr = loop.abr ∧
      (loop.adopt settling next).2.maxFps = loop.maxFps ∧
      (settling.setsBitrate = true → settling.rebuilds = true → InTune loop →
        InTune (loop.adopt settling next).2) := by
  obtain ⟨same, tuned⟩ := retune_spec loop settling next
  obtain ⟨same', tuned'⟩ := rebuild_spec (loop.retune settling next).2 settling next
  refine ⟨rfl, same'.abr.trans same.abr, same'.maxFps.trans same.maxFps, ?_⟩
  intro sets rebuilds inTune
  exact tuned' rebuilds (tuned sets inTune)

/-- The loop goes on with its controller's target after this report, or had it already. -/
def TakesOver (loop : EncodeLoop) (settling : Settling) (feedback : ReceiverFeedback) : Prop :=
  loop.target = loop.abr.target ∨
    (loop.abr.admits feedback settling.now = true ∧ loop.abr.adjusted feedback ≠ loop.abr.target)

/-- What the settling decides, and the loop it decides it in. -/
def decided (loop : EncodeLoop) (settling : Settling) : Option QualityTarget × EncodeLoop :=
  (loop.measured settling).2.settled settling (loop.measured settling).1

theorem settle_snd (loop : EncodeLoop) (settling : Settling) :
    (loop.settle settling).2 =
      match (loop.decided settling).1 with
      | some next => ((loop.decided settling).2.adopt settling next).2
      | none => (loop.decided settling).2 := by
  unfold settle decided
  simp only
  split
  · next decides => rw [decides]
  · next decides => rw [decides]

theorem settle_target (loop : EncodeLoop) (settling : Settling) :
    (loop.settle settling).2.target =
        (loop.decided settling).1.getD (loop.decided settling).2.target ∧
      (loop.settle settling).2.abr = (loop.decided settling).2.abr ∧
      (loop.settle settling).2.maxFps = (loop.decided settling).2.maxFps := by
  rw [settle_snd]
  cases (loop.decided settling).1 with
  | some next =>
      obtain ⟨target, abr, maxFps, -⟩ := adopt_spec (loop.decided settling).2 settling next
      exact ⟨target, abr, maxFps⟩
  | none => exact ⟨rfl, rfl, rfl⟩

theorem measured_snd (loop : EncodeLoop) (settling : Settling) :
    ∃ last, (loop.measured settling).2 = { loop with lastReport := last } := by
  unfold measured
  cases settling.feedback with
  | some report => exact ⟨_, rfl⟩
  | none =>
      simp only
      split
      · exact ⟨loop.lastReport, rfl⟩
      · exact ⟨loop.lastReport, rfl⟩

/-- Deciding moves nothing but the clock of the reports and the controller. -/
theorem decided_snd (loop : EncodeLoop) (settling : Settling) :
    ∃ last abr, (loop.decided settling).2 = { loop with lastReport := last, abr } := by
  obtain ⟨last, isMeasured⟩ := measured_snd loop settling
  unfold decided settled
  rw [isMeasured]
  simp only
  split
  · exact ⟨last, loop.abr, rfl⟩
  · split
    · exact ⟨last, _, rfl⟩
    · exact ⟨last, loop.abr, rfl⟩

theorem settle_inTune {loop : EncodeLoop} {settling : Settling}
    (sets : settling.setsBitrate = true) (rebuilds : settling.rebuilds = true)
    (inTune : InTune loop) : InTune (loop.settle settling).2 := by
  obtain ⟨last, abr, isDecided⟩ := decided_snd loop settling
  have tuned : InTune (loop.decided settling).2 := by
    rw [isDecided]
    exact inTune
  rw [settle_snd]
  cases (loop.decided settling).1 with
  | some next => exact (adopt_spec _ settling next).2.2.2 sets rebuilds tuned
  | none => exact tuned

theorem settle_maxFps (loop : EncodeLoop) (settling : Settling) :
    (loop.settle settling).2.maxFps = loop.maxFps := by
  obtain ⟨last, abr, isDecided⟩ := decided_snd loop settling
  rw [(settle_target loop settling).2.2, isDecided]

/-- A preset that is named owns the target. -/
theorem settle_of_pinned {loop : EncodeLoop} {settling : Settling} {pinned : QualityTarget}
    (named : pinnedAt loop.maxFps settling = some pinned) :
    (loop.settle settling).2.target = pinned := by
  obtain ⟨last, isMeasured⟩ := measured_snd loop settling
  have isDecided : loop.decided settling =
      (if pinned ≠ loop.target then some pinned else none, { loop with lastReport := last }) := by
    unfold decided settled
    rw [isMeasured]
    simp only
    rw [pinnedAt] at named
    rw [named]
  rw [(settle_target loop settling).1, isDecided]
  by_cases another : pinned ≠ loop.target
  · rw [if_pos another]
    rfl
  · rw [if_neg another]
    exact (not_not.mp another).symm

/-- Without a preset and without a report nobody speaks. -/
theorem settle_of_unmeasured {loop : EncodeLoop} {settling : Settling}
    (unnamed : settling.manualCap = none) (unmeasured : (loop.measured settling).1 = none) :
    (loop.settle settling).2.target = loop.target ∧ (loop.settle settling).2.abr = loop.abr := by
  obtain ⟨last, isMeasured⟩ := measured_snd loop settling
  have isDecided : loop.decided settling = (none, { loop with lastReport := last }) := by
    unfold decided settled
    rw [isMeasured, unmeasured, unnamed]
    rfl
  rw [(settle_target loop settling).1, (settle_target loop settling).2.1, isDecided]
  exact ⟨rfl, rfl⟩

/-- Without a preset the controller gets the target back if it was its own or it has a new one. -/
theorem settle_of_measured {loop : EncodeLoop} {settling : Settling} {feedback : ReceiverFeedback}
    (unnamed : settling.manualCap = none) (report : (loop.measured settling).1 = some feedback) :
    (loop.settle settling).2.target = (loop.settle settling).2.abr.target ↔
      TakesOver loop settling feedback := by
  obtain ⟨last, isMeasured⟩ := measured_snd loop settling
  have isDecided : loop.decided settling =
      ((loop.abr.onFeedback feedback settling.now settling.stamp).1,
        { loop with lastReport := last
                    abr := (loop.abr.onFeedback feedback settling.now settling.stamp).2 }) := by
    unfold decided settled
    rw [isMeasured, report, unnamed]
    rfl
  rw [(settle_target loop settling).1, (settle_target loop settling).2.1, isDecided, TakesOver]
  unfold AbrController.onFeedback
  cases admitted : loop.abr.admits feedback settling.now with
  | false =>
      rw [if_neg Bool.false_ne_true]
      exact ⟨.inl, fun either => either.elim id fun both => nomatch both.1⟩
  | true =>
      rw [if_pos rfl]
      by_cases moves : loop.abr.adjusted feedback ≠ loop.abr.target
      · simp only
        rw [if_pos moves]
        exact ⟨fun _ => .inr ⟨trivial, moves⟩, fun _ => rfl⟩
      · simp only
        rw [if_neg moves, not_not.mp moves]
        exact ⟨.inl, fun either => either.elim id fun both => absurd rfl both.2⟩

/-! ## Runs -/

/-- A frame is handed over under a preset. -/
def NamedAt (e : Ticked) : Prop := handsAt e ∧ e.op.settling.manualCap.isSome

/-- What is measured of the link when the frame of the tick is handed over. -/
def reportAt (e : Ticked) : Option ReceiverFeedback :=
  e.pre.bind fun loop => (loop.measured e.op.settling).1

/-- A frame is handed over without a preset, and a report is taken. -/
def HeardAt (e : Ticked) : Prop :=
  handsAt e ∧ e.op.settling.manualCap = none ∧ (reportAt e).isSome

/-- No preset ever owned the target, or a report was taken since the last one did. -/
def Adaptive (events : List Ticked) : Prop :=
  (∀ e ∈ events, ¬NamedAt e) ∨
    ∃ before e between, events = before ++ e :: between ∧ HeardAt e ∧ ∀ e ∈ between, ¬NamedAt e

/-- After the tick the target is the one of its owner, and so is the encoder's bitrate. -/
structure Follows (before : List Ticked) (e : Ticked) : Prop where
  pinned : handsAt e → ∀ loop, e.post = some loop →
    ∀ target, pinnedAt loop.maxFps e.op.settling = some target → loop.target = target
  adaptive : Adaptive (before ++ [e]) → ∀ loop, e.post = some loop → loop.target = loop.abr.target
  encoder : ∀ loop, e.post = some loop → InTune loop

/-- ... after every tick of these. -/
def FollowsThroughout (loop : EncodeLoop) (ticks : List Tick) : Prop :=
  ∀ before e after, history step (some loop) ticks = before ++ e :: after → Follows before e

/-- A report that is taken without a preset finds the target with the controller, or makes the
controller move. -/
def Speaks (e : Ticked) : Prop :=
  HeardAt e → ∀ loop feedback, e.pre = some loop → reportAt e = some feedback →
    TakesOver loop e.op.settling feedback

theorem adaptive_concat {events : List Ticked} {e : Ticked} :
    Adaptive (events ++ [e]) ↔ HeardAt e ∨ (Adaptive events ∧ ¬NamedAt e) := by
  constructor
  · rintro (never | ⟨before, heard, between, split, hears, since⟩)
    · exact .inr ⟨.inl fun e member => never e (List.mem_append_left _ member),
        never e (List.mem_append_right _ (List.mem_singleton.mpr rfl))⟩
    · rcases List.eq_nil_or_concat between with rfl | ⟨between, last, rfl⟩
      · obtain ⟨-, isLast⟩ := List.append_inj' split rfl
        obtain rfl := List.head_eq_of_cons_eq isLast
        exact .inl hears
      · rw [List.concat_eq_append] at split since
        rw [← List.cons_append, ← List.append_assoc] at split
        obtain ⟨rfl, isLast⟩ := List.append_inj' split rfl
        obtain rfl := List.head_eq_of_cons_eq isLast
        refine .inr ⟨.inr ⟨before, heard, between, rfl, hears, ?_⟩, ?_⟩
        · exact fun e member => since e (List.mem_append_left _ member)
        · exact since e (List.mem_append_right _ (List.mem_singleton.mpr rfl))
  · rintro (hears | ⟨never | ⟨before, heard, between, rfl, hears, since⟩, unnamed⟩)
    · exact .inr ⟨events, e, [], rfl, hears, fun _ member => absurd member List.not_mem_nil⟩
    · refine .inl fun other member => ?_
      rcases List.mem_append.mp member with earlier | last
      · exact never other earlier
      · obtain rfl := List.mem_singleton.mp last
        exact unnamed
    · refine .inr ⟨before, heard, between ++ [e], ?_, hears, fun other member => ?_⟩
      · rw [List.append_assoc, List.cons_append]
      · rcases List.mem_append.mp member with earlier | last
        · exact since other earlier
        · obtain rfl := List.mem_singleton.mp last
          exact unnamed

/-- One tick: it settles after a hand-over, or leaves target and controller alone. -/
theorem step_leaves {loop : EncodeLoop} {tick : Tick} (obeyed : Obeyed tick)
    (inTune : InTune loop) :
    (handsAt (Event.of step (some loop) tick) ∧ ∃ ready, Same loop ready ∧ InTune ready ∧
        (step (some loop) tick).2 = some (ready.settle tick.settling).2) ∨
      (¬handsAt (Event.of step (some loop) tick) ∧
        ∀ next, (step (some loop) tick).2 = some next → Same loop next ∧ InTune next) := by
  cases isMoved : loop.moveLink tick with
  | none =>
      refine .inr ⟨?_, ?_⟩
      · rintro ⟨frame, made, -⟩
        simp [frameAt, isMoved] at made
      · intro next left
        simp [step, isMoved] at left
  | some link =>
      obtain ⟨acts, moved⟩ := link
      obtain ⟨tuned, same⟩ := moveLink_inTune obeyed.link inTune isMoved
      have isFrame : frameAt (some loop) tick = picture moved.codec tick := by
        simp [frameAt, isMoved, same.codec]
      have left : (step (some loop) tick).2 = (moved.afterLink tick).2 := by
        simp [step, isMoved]
      have hands : handsAt (Event.of step (some loop) tick) ↔ Passes moved.codec tick := by
        rw [handsAt, Event.of_pre, Event.of_op, isFrame]
        rfl
      rw [hands, left]
      rcases afterLink_leaves moved tick with ⟨passes, ready, kept, isLeft⟩ | ⟨refused, kept⟩
      · exact .inl ⟨passes, ready, same.trans kept.toSame, kept.inTune tuned, isLeft⟩
      · exact .inr ⟨refused, fun next isLeft =>
          ⟨same.trans (kept next isLeft).toSame, (kept next isLeft).inTune tuned⟩⟩

theorem measured_fst_congr {before after : EncodeLoop} (same : Same before after)
    (settling : Settling) : (after.measured settling).1 = (before.measured settling).1 := by
  unfold measured
  rw [same.lastReport]
  cases settling.feedback with
  | some report => rfl
  | none =>
      simp only
      split
      · rfl
      · rfl

/-- In every run the encoder stays in tune. -/
theorem inTune_exec {loop : EncodeLoop} {ticks : List Tick} (inTune : InTune loop)
    (obeyed : ∀ tick ∈ ticks, Obeyed tick) :
    ∀ next, exec step (some loop) ticks = some next → InTune next := by
  have keep (state : Option EncodeLoop) (tick : Tick)
      (tuned : ∀ loop, state = some loop → InTune loop)
      (obeyed : Obeyed tick) : ∀ next, (step state tick).2 = some next → InTune next := by
    intro next left
    cases state with
    | none => cases left
    | some loop =>
        rcases step_leaves obeyed (tuned loop rfl) with ⟨-, ready, -, ready', isLeft⟩ | ⟨-, kept⟩
        · obtain rfl := Option.some.inj (isLeft.symm.trans left)
          exact settle_inTune obeyed.target obeyed.rebuild ready'
        · exact (kept next left).2
  apply exec_induction keep
  · intro next isLoop
    obtain rfl := Option.some.inj isLoop
    exact inTune
  · intro e member
    exact obeyed e.op (op_mem_of_mem_history member)

/-- A tick whose report speaks keeps the controller's target with the loop. -/
theorem adaptive_step {loop next : EncodeLoop} {tick : Tick} {events : List Ticked}
    (obeyed : Obeyed tick) (inTune : InTune loop)
    (owned : Adaptive events → loop.target = loop.abr.target)
    (speaks : Speaks (Event.of step (some loop) tick))
    (left : (step (some loop) tick).2 = some next)
    (adaptive : Adaptive (events ++ [Event.of step (some loop) tick])) :
    next.target = next.abr.target := by
  rcases step_leaves obeyed inTune with ⟨hands, ready, same, -, isLeft⟩ | ⟨idle, kept⟩
  · obtain rfl := Option.some.inj (isLeft.symm.trans left)
    cases report : (loop.measured tick.settling).1 with
    | some feedback =>
        have unnamed : tick.settling.manualCap = none := by
          rcases adaptive_concat.mp adaptive with heard | ⟨-, unnamed⟩
          · exact heard.2.1
          · by_contra named
            exact unnamed ⟨hands, Option.isSome_iff_ne_none.mpr named⟩
        have takes := speaks ⟨hands, unnamed, by simp [reportAt, report]⟩ loop feedback rfl
          (by simp [reportAt, report])
        apply (settle_of_measured unnamed ((measured_fst_congr same _).trans report)).mpr
        rw [TakesOver, same.target, same.abr]
        exact takes
    | none =>
        rcases adaptive_concat.mp adaptive with heard | ⟨adaptive, unnamed⟩
        · have isSome := heard.2.2
          simp [reportAt, report] at isSome
        · have unnamed : tick.settling.manualCap = none := by
            by_contra named
            exact unnamed ⟨hands, Option.isSome_iff_ne_none.mpr named⟩
          obtain ⟨target, abr⟩ :=
            settle_of_unmeasured unnamed ((measured_fst_congr same _).trans report)
          rw [target, abr, same.target, same.abr]
          exact owned adaptive
  · obtain ⟨same, -⟩ := kept next left
    rcases adaptive_concat.mp adaptive with heard | ⟨adaptive, -⟩
    · exact absurd heard.1 idle
    · rw [same.target, same.abr]
      exact owned adaptive

/-- In a run whose reports all speak the controller's target is the loop's. -/
theorem adaptive_exec {loop : EncodeLoop} {ticks : List Tick} (inTune : InTune loop)
    (start : loop.target = loop.abr.target) (obeyed : ∀ tick ∈ ticks, Obeyed tick)
    (speak : ∀ e ∈ history step (some loop) ticks, Speaks e)
    (adaptive : Adaptive (history step (some loop) ticks)) :
    ∀ next, exec step (some loop) ticks = some next → next.target = next.abr.target := by
  induction ticks using List.reverseRecOn with
  | nil =>
      intro next isLoop
      obtain rfl := Option.some.inj isLoop
      exact start
  | append_singleton ticks tick ih =>
      intro next left
      rw [history_concat] at speak adaptive
      rw [exec_concat] at left
      have obeyed' : ∀ tick ∈ ticks, Obeyed tick :=
        fun tick member => obeyed tick (List.mem_append_left _ member)
      cases isPre : exec step (some loop) ticks with
      | none =>
          rw [isPre] at left
          cases left
      | some pre =>
          rw [isPre] at left speak adaptive
          apply adaptive_step (obeyed tick (by simp)) (inTune_exec inTune obeyed' pre isPre)
            (fun before => ih obeyed' ?_ before pre isPre) (speak _ (by simp)) left adaptive
          exact fun e member => speak e (List.mem_append_left _ member)

/-- In every run of the loop in which the encoder does as it is told: after every tick the target
is the one of its owner and the encoder is at its bitrate if and only if every report that is taken
without a preset speaks. -/
theorem follows_iff (codec : VideoCodec) (maxFps builtFps : UInt8) (ticks : List Tick)
    (obeyed : ∀ tick ∈ ticks, Obeyed tick) :
    FollowsThroughout (start codec maxFps builtFps) ticks ↔
      ∀ e ∈ history step (some (start codec maxFps builtFps)) ticks, Speaks e := by
  have inTune : InTune (start codec maxFps builtFps) := rfl
  constructor
  · intro follows e member heard pre feedback isPre report
    obtain ⟨before, after, split⟩ := List.append_of_mem member
    have adaptive := (follows before e after split).adaptive
      (adaptive_concat.mpr (.inl heard))
    obtain ⟨first, second, isTicks, rfl, isEvent⟩ := history_split split
    have reached : exec step (some (start codec maxFps builtFps)) first = some pre := by
      rw [isEvent] at isPre
      exact isPre
    rw [reached] at isEvent
    have tuned := inTune_exec inTune
      (fun tick member => obeyed tick (by rw [isTicks]; exact List.mem_append_left _ member))
      pre reached
    have done : Obeyed e.op := obeyed e.op (op_mem_of_mem_history member)
    have hands := heard.1
    rw [isEvent] at hands
    rcases step_leaves done tuned with ⟨-, ready, same, -, isLeft⟩ | ⟨idle, -⟩
    · have isPost : e.post = some (ready.settle e.op.settling).2 := by
        rw [isEvent]
        exact isLeft
      have isReport : (pre.measured e.op.settling).1 = some feedback := by
        rw [reportAt, isPre] at report
        exact report
      have takes := (settle_of_measured heard.2.1
        ((measured_fst_congr same _).trans isReport)).mp (adaptive _ isPost)
      rw [TakesOver, same.target, same.abr] at takes
      exact takes
    · exact absurd hands idle
  · intro speak before e after split
    obtain ⟨first, second, isTicks, isBefore, isEvent⟩ := history_split split
    have obeyed' : ∀ tick ∈ first ++ [e.op], Obeyed tick := by
      intro tick member
      apply obeyed tick
      rw [isTicks, ← List.singleton_append, ← List.append_assoc]
      exact List.mem_append_left _ member
    have isHistory : before ++ [e] =
        history step (some (start codec maxFps builtFps)) (first ++ [e.op]) := by
      rw [history_concat, isBefore]
      exact congrArg _ (congrArg (· :: []) isEvent)
    have isPost : e.post = exec step (some (start codec maxFps builtFps)) (first ++ [e.op]) := by
      rw [exec_concat, isEvent]
      rfl
    refine ⟨fun hands loop left target pinned => ?_, fun adaptive => ?_, ?_⟩
    · cases reached : exec step (some (start codec maxFps builtFps)) first with
      | none =>
          rw [isEvent, reached] at left
          cases left
      | some pre =>
          rw [reached] at isEvent
          have tuned := inTune_exec inTune
            (fun tick member => obeyed' tick (List.mem_append_left _ member)) pre reached
          rw [isEvent] at hands left
          rcases step_leaves (obeyed' e.op (by simp)) tuned with
            ⟨-, ready, same, -, isLeft⟩ | ⟨idle, -⟩
          · obtain rfl := Option.some.inj (isLeft.symm.trans left)
            rw [settle_maxFps] at pinned
            exact settle_of_pinned pinned
          · exact absurd hands idle
    · rw [isPost]
      rw [isHistory] at adaptive
      apply adaptive_exec inTune rfl obeyed' ?_ adaptive
      intro other member
      apply speak other
      rw [split, ← List.singleton_append, ← List.append_assoc, isHistory]
      exact List.mem_append_left _ member
    · rw [isPost]
      exact inTune_exec inTune obeyed'

/-! ## A preset that is withdrawn -/

/-- A frame is handed over at this moment, under this preset, with a report of a link that loses
nothing. -/
def reported (manualCap : Option UInt32) (millis : Nat) : Tick :=
  let now : Instant := Duration.fromMillis millis
  let feedback : ReceiverFeedback := ⟨.finite 0, 20, 0, 0⟩
  { encodedTick (small true) false with
    settling := { feedback := some (feedback, now), sentKbps := 0, backlog := none
                  now, stamp := now, fpsCap := none, manualCap
                  setsBitrate := true, rebuilds := true } }

/-- A preset is withdrawn this long after the first report. -/
def withdrawn (millis : Nat) : List Tick :=
  [reported none 0, reported (some 50) 100, reported none millis]

theorem obeyed_withdrawn (millis : Nat) : ∀ tick ∈ withdrawn millis, Obeyed tick := by
  intro tick member
  simp only [withdrawn, List.mem_cons, List.not_mem_nil, or_false] at member
  rcases member with rfl | rfl | rfl <;> exact ⟨rfl, rfl, rfl⟩

/-- The controller is asked again before its second is over and says nothing. -/
theorem withdrawn_keeps_preset : ¬∀ codec maxFps builtFps ticks, (∀ tick ∈ ticks, Obeyed tick) →
    FollowsThroughout (start codec maxFps builtFps) ticks := by
  intro always
  have follows := always .av1 60 60 (withdrawn 200) (obeyed_withdrawn 200)
    [Event.of step (some av1) (reported none 0),
      Event.of step (exec step (some av1) [reported none 0]) (reported (some 50) 100)]
    (Event.of step (exec step (some av1) [reported none 0, reported (some 50) 100])
      (reported none 200)) [] rfl
  have heard : HeardAt (Event.of step
      (exec step (some av1) [reported none 0, reported (some 50) 100]) (reported none 200)) :=
    ⟨⟨small true, by decide +kernel, by decide⟩, rfl, by decide +kernel⟩
  have owned := follows.adaptive (adaptive_concat.mpr (.inl heard))
  have stale : ((exec step (some av1) (withdrawn 200)).any fun loop =>
      loop.target ≠ loop.abr.target) = true := by
    decide +kernel
  obtain ⟨loop, isLoop, differ⟩ := (Option.any_eq_true _ _).mp stale
  exact of_decide_eq_true differ (owned loop isLoop)

/-- A second later it says something. -/
theorem follows_of_withdrawn : FollowsThroughout (start .av1 60 60) (withdrawn 1000) := by
  refine (follows_iff .av1 60 60 (withdrawn 1000) (obeyed_withdrawn 1000)).mpr ?_
  intro e member
  simp only [withdrawn, history_cons, history_nil, List.mem_cons, List.not_mem_nil,
    or_false] at member
  rcases member with rfl | rfl | rfl
  · intro heard loop feedback isPre report
    obtain rfl := Option.some.inj isPre
    exact .inl rfl
  · intro heard
    cases heard.2.1
  · intro heard loop feedback isPre report
    have moves : ((exec step (some av1) [reported none 0, reported (some 50) 100]).any fun loop =>
        (loop.measured (reported none 1000).settling).1.all fun feedback =>
          loop.abr.admits feedback (Duration.fromMillis 1000) &&
            loop.abr.adjusted feedback ≠ loop.abr.target) = true := by
      decide +kernel
    obtain ⟨other, isOther, moves⟩ := (Option.any_eq_true _ _).mp moves
    obtain rfl := Option.some.inj (isOther.symm.trans isPre)
    rw [reportAt, isPre] at report
    rw [Event.of_op, Option.bind_some] at report
    rw [report] at moves
    obtain ⟨admitted, moves⟩ := Bool.and_eq_true_iff.mp moves
    exact .inr ⟨admitted, of_decide_eq_true moves⟩

end Lumepeer.Runtime.EncodeLoop
