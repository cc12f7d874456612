import Lumepeer.Lib.Run
import Lumepeer.Lib.Sequel
import Lumepeer.Runtime.View.EncodeLoop

/-!
# Frames the loop drops

A frame past the bound of the wire is dropped after the encoder has moved its
reference on, and the loop asks for no keyframe of its own accord: a frame that
follows can be shown only where the guest's request happens to wait. `acts_eq`
takes a tick apart into what it asks, drops and hands over, and the laws of
`Sequel` carry the three from the ticks to everything the loop does.
-/

namespace Lumepeer.Runtime.EncodeLoop
open Lumepeer.Lib Lumepeer.Core Lumepeer.Media

/-- An executed tick. -/
abbrev Ticked := Event (Option EncodeLoop) Tick (List Act)

/-- A frame that the encoder made is dropped. -/
def Drops (act : Act) : Prop := ∃ frame, act = .tooLarge frame

/-- A frame is handed to the writer. -/
def HandsOver (act : Act) : Prop := ∃ frame, act = .handOver frame

/-- The encoder is asked for a keyframe. -/
def Asks (act : Act) : Prop := act = .requestKeyframe

/-- If it is a frame of the encoder, it is a keyframe. -/
def Intra (act : Act) : Prop :=
  ∀ frame, act = .tooLarge frame ∨ act = .handOver frame → frame.keyframe = true

/-- A tick with these readings comes to the encoder. -/
def reaches (tick : Tick) : Bool :=
  tick.held.isNone &&
    (match tick.slot with
      | .free | .waited _ => true
      | .timedOut _ | .closed => false) &&
    (tick.captured = .frame)

/-- A tick with these readings asks the encoder for a keyframe, if the loop comes to it. -/
def asks (tick : Tick) : Bool := reaches tick && tick.keyframeRequest

/-- The frame that the encoder makes of a tick with these readings, if the loop comes to it. -/
def picture (codec : VideoCodec) (tick : Tick) : Option EncodedFrame :=
  if reaches tick then
    match tick.encoded with
    | .frame frame => rewritten codec frame
    | .refused | .ended => none
  else none

/-- The tick asks for a keyframe: the guest's request waits when it comes to the encoder. -/
def asksAt (state : Option EncodeLoop) (tick : Tick) : Bool :=
  state.any fun loop => (loop.moveLink tick).isSome && asks tick

/-- The frame that the encoder makes of the tick. -/
def frameAt (state : Option EncodeLoop) (tick : Tick) : Option EncodedFrame :=
  state.bind fun loop => if (loop.moveLink tick).isSome then picture loop.codec tick else none

/-- What happens to a frame. -/
def frameActs (frame : Option EncodedFrame) : List Act :=
  match frame with
  | none => []
  | some frame =>
      match checkFrame frame with
      | .empty => []
      | .tooLarge => [.tooLarge frame]
      | .handedOver => [.handOver frame]

/-- Neither frames nor requests. -/
def Quiet (acts : List Act) : Prop := ∀ act ∈ acts, ¬Drops act ∧ ¬HandsOver act ∧ ¬Asks act

theorem quiet_nil : Quiet [] := by
  intro act member
  cases member

theorem quiet_singleton {act : Act} (frame : ∀ frame, act ≠ .tooLarge frame ∧ act ≠ .handOver frame)
    (request : act ≠ .requestKeyframe) : Quiet [act] := by
  intro other member
  obtain rfl := List.mem_singleton.mp member
  exact ⟨fun ⟨made, isMade⟩ => (frame made).1 isMade, fun ⟨made, isMade⟩ => (frame made).2 isMade,
    request⟩

theorem Quiet.append {first second : List Act} (quiet : Quiet first) (quiet' : Quiet second) :
    Quiet (first ++ second) := by
  intro act member
  rcases List.mem_append.mp member with here | there
  · exact quiet act here
  · exact quiet' act there

theorem quiet_setBitrate (loop : EncodeLoop) (kbps : UInt32) (succeeds : Bool) :
    Quiet (loop.setBitrate kbps succeeds).1 :=
  quiet_singleton (fun _ => ⟨Act.noConfusion, Act.noConfusion⟩) Act.noConfusion

/-- The link's part of a tick sets a bitrate at most. -/
theorem moveLink_quiet {loop moved : EncodeLoop} {tick : Tick} {acts : List Act}
    (isMoved : loop.moveLink tick = some (acts, moved)) :
    Quiet acts ∧ moved.codec = loop.codec := by
  obtain ⟨⟨bitrate, link⟩, -, isMoved⟩ := Option.map_eq_some_iff.mp isMoved
  cases bitrate with
  | none =>
      obtain ⟨rfl, rfl⟩ := Prod.mk.inj isMoved
      exact ⟨quiet_nil, rfl⟩
  | some kbps =>
      have quiet := quiet_setBitrate { loop with link } kbps tick.setsBitrate
      have codec : ({ loop with link }.setBitrate kbps tick.setsBitrate).2.codec = loop.codec := by
        unfold setBitrate
        cases tick.setsBitrate <;> rfl
      simp only at isMoved
      rw [isMoved] at quiet codec
      exact ⟨quiet, codec⟩

theorem retune_quiet (loop : EncodeLoop) (settling : Settling) (next : QualityTarget) :
    Quiet (loop.retune settling next).1 := by
  unfold retune
  split
  · exact quiet_setBitrate _ _ _
  · exact quiet_nil

theorem rebuild_quiet (loop : EncodeLoop) (settling : Settling) (next : QualityTarget) :
    Quiet (loop.rebuild settling next).1 := by
  unfold rebuild
  simp only
  split
  · exact quiet_singleton (fun _ => ⟨Act.noConfusion, Act.noConfusion⟩) Act.noConfusion
  · exact quiet_nil

/-- What follows a hand-over is quiet. -/
theorem settle_quiet (loop : EncodeLoop) (settling : Settling) :
    Quiet (loop.settle settling).1 := by
  have published (target : QualityTarget) : Quiet [.publish target] :=
    quiet_singleton (fun _ => ⟨Act.noConfusion, Act.noConfusion⟩) Act.noConfusion
  unfold settle
  simp only
  split
  · exact ((retune_quiet _ _ _).append (rebuild_quiet _ _ _)).append (published _)
  · exact quiet_nil

/-- What the loop does once the encoder took a frame. -/
theorem took_acts (loop : EncodeLoop) (settling : Settling) (frame : EncodedFrame) :
    ∃ back, Quiet back ∧ (loop.took settling frame).1 = frameActs (some frame) ++ back := by
  unfold took frameActs
  simp only
  cases checkFrame frame with
  | empty => exact ⟨[], quiet_nil, rfl⟩
  | tooLarge => exact ⟨[], quiet_nil, rfl⟩
  | handedOver => exact ⟨_, settle_quiet _ settling, rfl⟩

theorem encode_acts (loop : EncodeLoop) (tick : Tick) (comes : reaches tick = true) :
    ∃ back, Quiet back ∧ (loop.encode tick).1 =
      (if asks tick then [.requestKeyframe] else []) ++
        (frameActs (picture loop.codec tick) ++ back) := by
  have isAsked : asks tick = tick.keyframeRequest := by rw [asks, comes, Bool.true_and]
  rw [isAsked, picture, if_pos comes]
  unfold encode
  simp only
  cases tick.encoded with
  | ended => exact ⟨[], quiet_nil, (List.append_nil _).symm⟩
  | refused =>
      simp only
      split
      · exact ⟨[.fault .encoderFailed],
          quiet_singleton (fun _ => ⟨Act.noConfusion, Act.noConfusion⟩) Act.noConfusion, rfl⟩
      · exact ⟨[], quiet_nil, (List.append_nil _).symm⟩
  | frame frame =>
      simp only
      cases rewritten loop.codec frame with
      | none => exact ⟨[], quiet_nil, (List.append_nil _).symm⟩
      | some frame =>
          obtain ⟨back, quiet, isTaken⟩ := took_acts loop tick.settling frame
          exact ⟨back, quiet, congrArg _ isTaken⟩

/-- A tick that does not come to the encoder does nothing there. -/
theorem exists_back_of_stops (codec : VideoCodec) {tick : Tick} (stops : reaches tick = false) :
    ∃ back, Quiet back ∧ ([] : List Act) = (if asks tick then [.requestKeyframe] else []) ++
      (frameActs (picture codec tick) ++ back) := by
  refine ⟨[], quiet_nil, ?_⟩
  rw [asks, picture, stops]
  rfl

/-- What the loop does after the link's part. -/
theorem afterLink_acts (loop : EncodeLoop) (tick : Tick) :
    ∃ back, Quiet back ∧ (loop.afterLink tick).1 =
      (if asks tick then [.requestKeyframe] else []) ++
        (frameActs (picture loop.codec tick) ++ back) := by
  have captures (loop : EncodeLoop) (free : tick.held = none)
      (slot : tick.slot = .free ∨ ∃ took, tick.slot = .waited took) :
      ∃ back, Quiet back ∧ (loop.capture tick).1 =
        (if asks tick then [.requestKeyframe] else []) ++
          (frameActs (picture loop.codec tick) ++ back) := by
    have slotted : (match tick.slot with
        | .free | .waited _ => true
        | .timedOut _ | .closed => false) = true := by
      rcases slot with isFree | ⟨took, isWaited⟩
      · rw [isFree]
      · rw [isWaited]
    unfold capture
    cases isCaptured : tick.captured with
    | frame =>
        apply encode_acts
        simp [reaches, free, slotted, isCaptured]
    | nothing =>
        apply exists_back_of_stops
        simp [reaches, isCaptured]
    | ended =>
        apply exists_back_of_stops
        simp [reaches, isCaptured]
  unfold afterLink
  cases isHeld : tick.held with
  | some took =>
      apply exists_back_of_stops
      simp [reaches, isHeld]
  | none =>
      cases isSlot : tick.slot with
      | free => exact captures loop isHeld (.inl isSlot)
      | waited took => exact captures { loop with link := _ } isHeld (.inr ⟨took, isSlot⟩)
      | timedOut took =>
          apply exists_back_of_stops
          simp [reaches, isSlot]
      | closed =>
          apply exists_back_of_stops
          simp [reaches, isSlot]

/-- A tick asks, and then drops or hands over what the encoder made, and the rest is quiet. -/
theorem acts_eq (state : Option EncodeLoop) (tick : Tick) :
    ∃ front back, Quiet front ∧ Quiet back ∧ (step state tick).1 =
      front ++ ((if asksAt state tick then [.requestKeyframe] else []) ++
        (frameActs (frameAt state tick) ++ back)) := by
  cases state with
  | none => exact ⟨[], [], quiet_nil, quiet_nil, rfl⟩
  | some loop =>
      cases isMoved : loop.moveLink tick with
      | none =>
          refine ⟨[], [], quiet_nil, quiet_nil, ?_⟩
          simp only [step, asksAt, frameAt, isMoved, Option.any_some, Option.bind_some]
          rfl
      | some link =>
          obtain ⟨acts, moved⟩ := link
          obtain ⟨quiet, codec⟩ := moveLink_quiet isMoved
          obtain ⟨back, quietBack, after⟩ := afterLink_acts moved tick
          refine ⟨acts, back, quiet, quietBack, ?_⟩
          simp only [step, asksAt, frameAt, isMoved, Option.any_some, Option.isSome_some,
            Bool.true_and, Option.bind_some, if_true]
          rw [after, codec]

/-- Everything the loop does in these ticks. -/
def acts (loop : EncodeLoop) (ticks : List Tick) : List Act :=
  (history step (some loop) ticks).flatMap Event.out

/-- Between a dropped frame and the next one handed over the encoder is asked for a keyframe. -/
def Requested (acts : List Act) : Prop :=
  ∀ before dropped between handed after,
    acts = before ++ .tooLarge dropped :: (between ++ .handOver handed :: after) →
    (∀ act ∈ between, ¬HandsOver act) → .requestKeyframe ∈ between

/-- No reference is lost: what is handed over next after a dropped frame is a keyframe. -/
def Unbroken (acts : List Act) : Prop :=
  ∀ before dropped between handed after,
    acts = before ++ .tooLarge dropped :: (between ++ .handOver handed :: after) →
    (∀ act ∈ between, ¬HandsOver act) → handed.keyframe = true

/-- The encoder honours a request: the first frame it makes after it is a keyframe. -/
def Honours (acts : List Act) : Prop :=
  NextMeets Asks (fun act => Drops act ∨ HandsOver act) Intra acts

/-- The frame of the tick is too large. -/
def dropsAt (e : Ticked) : Prop :=
  ∃ frame, frameAt e.pre e.op = some frame ∧ checkFrame frame = .tooLarge

/-- The frame of the tick passes the checks. -/
def handsAt (e : Ticked) : Prop :=
  ∃ frame, frameAt e.pre e.op = some frame ∧ checkFrame frame = .handedOver

/-- After a tick with a frame that is too large, the guest's request waits at a tick that comes to
the encoder before, or at the latest when, a frame passes the checks again. -/
def AskedInTime (loop : EncodeLoop) (ticks : List Tick) : Prop :=
  NextMeets dropsAt (fun e => handsAt e ∨ asksAt e.pre e.op = true)
    (fun e => asksAt e.pre e.op = true) (history step (some loop) ticks)

/-- A drop is followed by a request before the next frame goes out. -/
def Answered (acts : List Act) : Prop :=
  NextMeets Drops (fun act => HandsOver act ∨ Asks act) Asks acts

theorem Quiet.noStop {acts : List Act} (quiet : Quiet acts) :
    ∀ act ∈ acts, ¬(HandsOver act ∨ Asks act) :=
  fun act member stops => stops.elim (quiet act member).2.1 (quiet act member).2.2

theorem Quiet.noDrop {acts : List Act} (quiet : Quiet acts) : ∀ act ∈ acts, ¬Drops act :=
  fun act member => (quiet act member).1

/-- A tick, as what is still to be answered sees it. -/
theorem firstMeets_tick {e : Ticked} (isEvent : e = Event.of step e.pre e.op) (behind : List Act) :
    FirstMeets (fun act => HandsOver act ∨ Asks act) Asks (e.out ++ behind) ↔
      (handsAt e ∨ asksAt e.pre e.op = true → asksAt e.pre e.op = true) ∧
      (¬(handsAt e ∨ asksAt e.pre e.op = true) →
        FirstMeets (fun act => HandsOver act ∨ Asks act) Asks behind) := by
  obtain ⟨front, back, quiet, quiet', isOut⟩ := acts_eq e.pre e.op
  have out : e.out = (step e.pre e.op).1 := by
    rw [isEvent]
    rfl
  rw [out, isOut, List.append_assoc, firstMeets_append quiet.noStop]
  by_cases asked : asksAt e.pre e.op = true
  · rw [if_pos asked, List.append_assoc, List.singleton_append, firstMeets_cons]
    constructor
    · exact fun _ => ⟨fun _ => asked, fun not => absurd (.inr asked) not⟩
    · exact fun _ => ⟨fun _ => rfl, fun not => absurd (.inr rfl) not⟩
  · rw [if_neg asked, List.nil_append, List.append_assoc]
    have noFrame (passes : ¬handsAt e) (clear : ∀ act ∈ frameActs (frameAt e.pre e.op),
        ¬(HandsOver act ∨ Asks act)) :
        FirstMeets (fun act => HandsOver act ∨ Asks act) Asks
          (frameActs (frameAt e.pre e.op) ++ (back ++ behind)) ↔
        (handsAt e ∨ asksAt e.pre e.op = true → asksAt e.pre e.op = true) ∧
        (¬(handsAt e ∨ asksAt e.pre e.op = true) →
          FirstMeets (fun act => HandsOver act ∨ Asks act) Asks behind) := by
      rw [firstMeets_append clear, firstMeets_append quiet'.noStop]
      constructor
      · exact fun rest => ⟨fun stops => stops.elim (fun hands => absurd hands passes) id,
          fun _ => rest⟩
      · exact fun both => both.2 fun stops => stops.elim passes asked
    cases isFrame : frameAt e.pre e.op with
    | none =>
        rw [← isFrame]
        apply noFrame
        · rintro ⟨frame, some, -⟩
          cases isFrame.symm.trans some
        · rw [isFrame]
          exact quiet_nil.noStop
    | some frame =>
        cases checked : checkFrame frame with
        | handedOver =>
            have hands : handsAt e := ⟨frame, isFrame, checked⟩
            simp only [frameActs, checked, List.singleton_append]
            rw [firstMeets_cons]
            constructor
            · intro first
              cases first.1 (.inl ⟨frame, rfl⟩)
            · intro both
              exact absurd (both.1 (.inl hands)) asked
        | empty =>
            rw [← isFrame]
            apply noFrame
            · rintro ⟨other, some, hands⟩
              obtain rfl := Option.some.inj (isFrame.symm.trans some)
              cases checked.symm.trans hands
            · rw [isFrame]
              simp only [frameActs, checked]
              exact quiet_nil.noStop
        | tooLarge =>
            rw [← isFrame]
            apply noFrame
            · rintro ⟨other, some, hands⟩
              obtain rfl := Option.some.inj (isFrame.symm.trans some)
              cases checked.symm.trans hands
            · rw [isFrame]
              simp only [frameActs, checked]
              intro act member stops
              obtain rfl := List.mem_singleton.mp member
              rcases stops with ⟨handed, isHanded⟩ | isAsked
              · cases isHanded
              · cases isAsked

/-- A tick, as what it leaves to be answered. -/
theorem nextMeets_tick {e : Ticked} (isEvent : e = Event.of step e.pre e.op) (behind : List Act) :
    Answered (e.out ++ behind) ↔
      (dropsAt e → FirstMeets (fun act => HandsOver act ∨ Asks act) Asks behind) ∧
        Answered behind := by
  obtain ⟨front, back, quiet, quiet', isOut⟩ := acts_eq e.pre e.op
  have out : e.out = (step e.pre e.op).1 := by
    rw [isEvent]
    rfl
  have asked : ∀ act ∈ (if asksAt e.pre e.op then [Act.requestKeyframe] else []), ¬Drops act := by
    intro act member
    split at member
    · obtain rfl := List.mem_singleton.mp member
      rintro ⟨frame, isFrame⟩
      cases isFrame
    · cases member
  rw [out, isOut, List.append_assoc, List.append_assoc, List.append_assoc, Answered,
    nextMeets_append quiet.noDrop, nextMeets_append asked]
  have noFrame (passes : ¬dropsAt e)
      (clear : ∀ act ∈ frameActs (frameAt e.pre e.op), ¬Drops act) :
      NextMeets Drops (fun act => HandsOver act ∨ Asks act) Asks
          (frameActs (frameAt e.pre e.op) ++ (back ++ behind)) ↔
        (dropsAt e → FirstMeets (fun act => HandsOver act ∨ Asks act) Asks behind) ∧
          Answered behind := by
    rw [nextMeets_append clear, nextMeets_append quiet'.noDrop]
    exact ⟨fun rest => ⟨fun drops => absurd drops passes, rest⟩, fun both => both.2⟩
  cases isFrame : frameAt e.pre e.op with
  | none =>
      rw [← isFrame]
      apply noFrame
      · rintro ⟨frame, some, -⟩
        cases isFrame.symm.trans some
      · rw [isFrame]
        exact quiet_nil.noDrop
  | some frame =>
      cases checked : checkFrame frame with
      | tooLarge =>
          have drops : dropsAt e := ⟨frame, isFrame, checked⟩
          simp only [frameActs, checked, List.singleton_append]
          rw [nextMeets_cons, firstMeets_append quiet'.noStop, nextMeets_append quiet'.noDrop]
          exact ⟨fun both => ⟨fun _ => both.1 ⟨frame, rfl⟩, both.2⟩,
            fun both => ⟨fun _ => both.1 drops, both.2⟩⟩
      | empty =>
          rw [← isFrame]
          apply noFrame
          · rintro ⟨other, some, drops⟩
            obtain rfl := Option.some.inj (isFrame.symm.trans some)
            cases checked.symm.trans drops
          · rw [isFrame]
            simp only [frameActs, checked]
            exact quiet_nil.noDrop
      | handedOver =>
          rw [← isFrame]
          apply noFrame
          · rintro ⟨other, some, drops⟩
            obtain rfl := Option.some.inj (isFrame.symm.trans some)
            cases checked.symm.trans drops
          · rw [isFrame]
            simp only [frameActs, checked]
            intro act member
            obtain rfl := List.mem_singleton.mp member
            rintro ⟨dropped, isDropped⟩
            cases isDropped

theorem answered_iff_askedInTime (loop : EncodeLoop) (ticks : List Tick) :
    Answered (acts loop ticks) ↔ AskedInTime loop ticks := by
  apply nextMeets_flatMap
  · exact fun e member behind => firstMeets_tick (eq_of_mem_history member) behind
  · exact fun e member behind => nextMeets_tick (eq_of_mem_history member) behind

theorem requested_iff_answered {acts : List Act} : Requested acts ↔ Answered acts := by
  constructor
  · rintro requested before item behind split ⟨dropped, rfl⟩ between next after isBehind clear stops
    rcases stops with ⟨handed, rfl⟩ | asks
    · subst isBehind
      have quiet := fun act member hands => clear act member (.inl hands)
      have asked := requested before dropped between handed after split quiet
      exact absurd (.inr rfl) (clear _ asked)
    · exact asks
  · intro answered before dropped between handed after split quiet
    by_contra silent
    have clear : ∀ act ∈ between, ¬(HandsOver act ∨ Asks act) := by
      rintro act member (hands | rfl)
      · exact quiet act member hands
      · exact silent member
    cases answered before _ _ split ⟨dropped, rfl⟩ between _ after rfl clear (.inl ⟨handed, rfl⟩)

/-- With an encoder that honours requests, a request in between makes the next frame a keyframe. -/
theorem Answered.unbroken {acts : List Act} (answered : Answered acts) (honours : Honours acts) :
    Unbroken acts := by
  have apart (act : Act) (hands : HandsOver act) : ¬Asks act := by
    obtain ⟨frame, rfl⟩ := hands
    exact Act.noConfusion
  have intra : NextMeets Drops HandsOver Intra acts := answered.trans apart honours
  intro before dropped between handed after split quiet
  exact intra before _ _ split ⟨dropped, rfl⟩ between _ after rfl quiet ⟨handed, rfl⟩ handed
    (.inr rfl)

/-- With an encoder that honours requests, whatever the ticks: what is handed over next after a
dropped frame is a keyframe that was asked for in between if and only if the guest's own request
waits in time. -/
theorem unbroken_iff (loop : EncodeLoop) (ticks : List Tick) (honours : Honours (acts loop ticks)) :
    (Requested (acts loop ticks) ∧ Unbroken (acts loop ticks)) ↔ AskedInTime loop ticks := by
  rw [← answered_iff_askedInTime, requested_iff_answered]
  exact ⟨fun both => both.1, fun answered => ⟨answered, answered.unbroken honours⟩⟩

/-! ## A frame past the bound -/

/-- The encoder made this frame, on a free link and without a preset; the guest's request waits, or
does not. -/
def encodedTick (frame : EncodedFrame) (request : Bool) : Tick :=
  { startedAt := 0, manualCap := none, setsBitrate := true, held := none, slot := .free
    captured := .frame, keyframeRequest := request, encoded := .frame frame
    settling := { feedback := none, sentKbps := 0, backlog := none, now := 0, stamp := 0
                  fpsCap := none, manualCap := none, setsBitrate := true, rebuilds := true } }

/-- A frame of one byte more than the bound. -/
def huge : EncodedFrame :=
  { keyframe := false, timestampUs := 1, data := List.replicate (maxMediaFrameBytes + 1) 0 }

theorem checkFrame_huge : checkFrame huge = .tooLarge := by
  have long : huge.data.length = maxMediaFrameBytes + 1 := List.length_replicate
  have some : huge.data.isEmpty = false := by
    rw [List.isEmpty_eq_false_iff, ← List.length_pos_iff, long]
    exact Nat.succ_pos _
  rw [checkFrame, some, if_neg Bool.false_ne_true, long]
  exact if_pos (Nat.lt_succ_self _)

/-- A frame of one byte. -/
def small (keyframe : Bool) : EncodedFrame := { keyframe, timestampUs := 2, data := [0] }

/-- A loop that encodes AV1 at 60 frames a second. -/
def av1 : EncodeLoop := start .av1 60 60

theorem step_of_tooLarge {frame : EncodedFrame} (large : checkFrame frame = .tooLarge) :
    step (some av1) (encodedTick frame false) = ([.tooLarge frame], some av1) := by
  simp [step, moveLink, linkMoved, LinkPressure.release, LinkPressure.default, afterLink, capture,
    encode, rewritten, took, large, encodedTick, av1, start]

theorem acts_of_tooLarge {frame : EncodedFrame} (large : checkFrame frame = .tooLarge)
    (request keyframe : Bool) :
    acts av1 [encodedTick frame false, encodedTick (small keyframe) request] =
      .tooLarge frame :: if request then [.requestKeyframe, .handOver (small keyframe)]
        else [.handOver (small keyframe)] := by
  unfold acts
  rw [history_cons, List.flatMap_cons, Event.of_out, step_of_tooLarge large]
  cases request <;> cases keyframe <;> rfl

/-- A frame is dropped and the next one refers to it. -/
theorem huge_breaks_references : ¬∀ loop ticks, Honours (acts loop ticks) →
    Requested (acts loop ticks) ∧ Unbroken (acts loop ticks) := by
  intro always
  have shape := acts_of_tooLarge checkFrame_huge false false
  have honours : Honours (acts av1 [encodedTick huge false, encodedTick (small false) false]) := by
    rw [shape]
    simp [Honours, nextMeets_cons, Asks]
  have kept := (always _ _ honours).2 [] huge [] (small false) [] shape (by simp)
  cases kept

/-- The guest asks in time. -/
theorem unbroken_of_request :
    Requested (acts av1 [encodedTick huge false, encodedTick (small true) true]) ∧
      Unbroken (acts av1 [encodedTick huge false, encodedTick (small true) true]) := by
  have shape := acts_of_tooLarge checkFrame_huge true true
  have honours : Honours (acts av1 [encodedTick huge false, encodedTick (small true) true]) := by
    rw [shape]
    simp [Honours, nextMeets_cons, firstMeets_cons, Asks, Intra, small]
  refine (unbroken_iff _ _ honours).mpr ?_
  have shape := acts_of_tooLarge checkFrame_huge true true
  rw [← answered_iff_askedInTime, shape]
  simp [Answered, nextMeets_cons, firstMeets_cons, Asks, Drops, HandsOver]

end Lumepeer.Runtime.EncodeLoop
