import Lumepeer.Lib.Run
import Lumepeer.Media.Abr

/-!
# The cap of the link's pressure

What one closed window does to the bitrate, in numbers, and from it what a whole
run leaves: a cap that only pressed windows lower, never below the floor, and
that clear windows give back. The step up is taken from a product that saturates
at `u32::MAX`, so that it stops at `highestRaise`; no target of a session is
near it.
-/

namespace Lumepeer.Media.LinkPressure
open Lumepeer.Lib Lumepeer.Core

/-- The largest bitrate a step up can lead to. -/
def highestRaise : UInt32 := 42949672

/-- What a window that has run is found to be. -/
inductive Verdict where
  | pressed
  | between
  | clear
  deriving DecidableEq

/-- The verdict on the window that closes when `due` is asked at `now`, if one does. -/
def verdict (link : LinkPressure) (now : Instant) : Option Verdict :=
  let elapsed := now - link.started.getD now
  if elapsed < keepUpWindow then none
  else if elapsed * pressedHeldPercent.toNat ≤ link.held * percent.toNat then some .pressed
  else if link.held * percent.toNat ≤ elapsed * clearHeldPercent.toNat then some .clear
  else some .between

/-- The step up from `cap`. -/
def raised (cap : UInt32) : UInt32 := saturatingMul32 cap recoveryStepPercent / percent

theorem toNat_raised (cap : UInt32) :
    (raised cap).toNat = min (cap.toNat * 150) (2 ^ 32 - 1) / 100 := by
  have step : recoveryStepPercent.toNat = 150 := rfl
  have whole : percent.toNat = 100 := rfl
  rw [raised, UInt32.toNat_div, toNat_saturatingMul32, step, whole]

/-- Below the highest one every step up leads higher. -/
theorem lt_raised {cap : UInt32} (some : 2 ≤ cap.toNat) (below : cap.toNat < 42949672) :
    cap.toNat < (raised cap).toNat := by
  rw [toNat_raised]
  omega

theorem toNat_current_of_cap {link : LinkPressure} {cap : UInt32} (capped : link.capKbps = some cap)
    (ceiling : UInt32) : (link.current ceiling).toNat = min cap.toNat ceiling.toNat := by
  rw [current, capped]
  exact toNat_min32 cap ceiling

theorem current_le (link : LinkPressure) (ceiling : UInt32) :
    (link.current ceiling).toNat ≤ ceiling.toNat := by
  cases capped : link.capKbps with
  | none =>
      have isCeiling : link.current ceiling = ceiling := by
        unfold current
        rw [capped]
      exact Nat.le_of_eq (congrArg UInt32.toNat isCeiling)
  | some cap =>
      rw [toNat_current_of_cap capped]
      exact Nat.min_le_right _ _

/-! ## One window -/

/-- What a pressed window does. -/
theorem closePressed_cases (link : LinkPressure) (elapsed : Duration) (bytes frames : UInt64)
    (ceiling : UInt32) (fps : UInt8) :
    (link.closePressed elapsed bytes frames ceiling fps).2.pressed =
        saturatingAdd32 link.pressed 1 ∧
    (link.closePressed elapsed bytes frames ceiling fps).2.clear = 0 ∧
    (((link.closePressed elapsed bytes frames ceiling fps).1 = none ∧
        (link.closePressed elapsed bytes frames ceiling fps).2.capKbps = link.capKbps) ∨
      ∃ lowered, (link.closePressed elapsed bytes frames ceiling fps).1 = some lowered ∧
        (link.closePressed elapsed bytes frames ceiling fps).2.capKbps = some lowered ∧
        2 ≤ (saturatingAdd32 link.pressed 1).toNat ∧ 300 ≤ lowered.toNat ∧
        lowered.toNat < (link.current ceiling).toNat ∧
        lowered.toNat ≤ max 300 ((link.current ceiling).toNat / 2)) := by
  have two : (2 : UInt32).toNat = 2 := rfl
  have floor : abrMinBitrateKbps.toNat = 300 := rfl
  unfold closePressed
  simp only
  by_cases few : saturatingAdd32 link.pressed 1 < pressedWindows
  · rw [if_pos few]
    exact ⟨rfl, rfl, .inl ⟨rfl, rfl⟩⟩
  · rw [if_neg few]
    have many : 2 ≤ (saturatingAdd32 link.pressed 1).toNat :=
      UInt32.le_iff_toNat_le.mp (UInt32.not_lt.mp few)
    generalize isBasis :
      (if (link.heavy || heavyFrames bytes frames (link.current ceiling) fps) = true then
        min (link.current ceiling) (sentKbps bytes elapsed) else link.current ceiling) = basis
    have atMost : basis.toNat ≤ (link.current ceiling).toNat := by
      rw [← isBasis]
      split
      · rw [toNat_min32]
        exact Nat.min_le_left _ _
      · exact Nat.le_refl _
    by_cases enough : max (basis / 2) abrMinBitrateKbps ≥ link.current ceiling
    · rw [if_pos enough]
      exact ⟨rfl, rfl, .inl ⟨rfl, rfl⟩⟩
    · rw [if_neg enough]
      have less := UInt32.lt_iff_toNat_lt.mp (UInt32.not_le.mp enough)
      rw [toNat_max32, UInt32.toNat_div, two, floor] at less
      refine ⟨rfl, rfl, .inr ⟨_, rfl, rfl, many, ?_, ?_, ?_⟩⟩
      all_goals
        rw [toNat_max32, UInt32.toNat_div, two, floor]
        omega

/-- What a window that was not pressed does. -/
theorem closeUnpressed_cases (link : LinkPressure) (waited : Bool) (ceiling : UInt32) :
    (link.closeUnpressed waited ceiling).2.pressed = 0 ∧
    (((link.closeUnpressed waited ceiling).1 = none ∧
        (link.closeUnpressed waited ceiling).2.capKbps = link.capKbps ∧
        (link.capKbps ≠ none → waited = false → link.clear.toNat = 0 ∧
          (link.closeUnpressed waited ceiling).2.clear.toNat = 1)) ∨
      ∃ cap, link.capKbps = some cap ∧ waited = false ∧
        (link.closeUnpressed waited ceiling).2.clear = saturatingAdd32 link.clear 1 ∧
        2 ≤ (saturatingAdd32 link.clear 1).toNat ∧
        (link.closeUnpressed waited ceiling).1 = some (min (raised cap) ceiling) ∧
        (link.closeUnpressed waited ceiling).2.capKbps =
          if raised cap < ceiling then some (raised cap) else none) := by
  unfold closeUnpressed
  simp only
  cases link.capKbps with
  | none => exact ⟨rfl, .inl ⟨rfl, rfl, fun absent => absurd rfl absent⟩⟩
  | some cap =>
      cases waited with
      | true =>
          refine ⟨rfl, .inl ⟨rfl, rfl, ?_⟩⟩
          intro _ quiet
          cases quiet
      | false =>
          simp only [Bool.false_eq_true, if_false]
          by_cases few : saturatingAdd32 link.clear 1 < clearWindows
          · rw [if_pos few]
            have less : (saturatingAdd32 link.clear 1).toNat < 2 := UInt32.lt_iff_toNat_lt.mp few
            have one : (1 : UInt32).toNat = 1 := rfl
            rw [toNat_saturatingAdd32, one] at less
            refine ⟨rfl, .inl ⟨rfl, rfl, fun _ _ => ⟨by omega, ?_⟩⟩⟩
            rw [toNat_saturatingAdd32, one]
            omega
          · rw [if_neg few]
            have many : 2 ≤ (saturatingAdd32 link.clear 1).toNat :=
              UInt32.le_iff_toNat_le.mp (UInt32.not_lt.mp few)
            exact ⟨rfl, .inr ⟨cap, rfl, trivial, rfl, many, rfl, rfl⟩⟩

/-- What `due` does to the bitrate, by the verdict on the window it closes. -/
theorem due_cases {link next : LinkPressure} {now : Instant} {ceiling : UInt32} {fps : UInt8}
    {moved : Option UInt32} (answered : link.due now ceiling fps = some (moved, next)) :
    (link.verdict now = none ∧ moved = none ∧ next.pressed = link.pressed ∧
      next.clear = link.clear ∧ next.capKbps = link.capKbps) ∨
    (link.verdict now = some .pressed ∧ next.pressed = saturatingAdd32 link.pressed 1 ∧
      ((moved = none ∧ next.capKbps = link.capKbps) ∨
        ∃ lowered, moved = some lowered ∧ next.capKbps = some lowered ∧
          2 ≤ next.pressed.toNat ∧ 300 ≤ lowered.toNat ∧
          lowered.toNat < (link.current ceiling).toNat ∧
          lowered.toNat ≤ max 300 ((link.current ceiling).toNat / 2))) ∨
    ((link.verdict now = some .between ∨ link.verdict now = some .clear) ∧ next.pressed = 0 ∧
      ((moved = none ∧ next.capKbps = link.capKbps ∧
          (link.capKbps ≠ none → link.verdict now = some .clear →
            link.clear.toNat = 0 ∧ next.clear.toNat = 1)) ∨
        ∃ cap, link.capKbps = some cap ∧ link.verdict now = some .clear ∧
          2 ≤ next.clear.toNat ∧ moved = some (min (raised cap) ceiling) ∧
          next.capKbps = if raised cap < ceiling then some (raised cap) else none)) := by
  unfold due at answered
  simp only [Option.pure_def, Option.bind_eq_bind] at answered
  by_cases soon : now - link.started.getD now < keepUpWindow
  · rw [if_pos soon] at answered
    obtain ⟨rfl, rfl⟩ := Prod.mk.inj (Option.some.inj answered)
    exact .inl ⟨if_pos soon, rfl, rfl, rfl, rfl⟩
  · rw [if_neg soon] at answered
    obtain ⟨share, isShare, answered⟩ := Option.bind_eq_some_iff.mp answered
    obtain ⟨half, isHalf, answered⟩ := Option.bind_eq_some_iff.mp answered
    obtain rfl : link.held * percent.toNat = share := by
      unfold durationMul at isShare
      split at isShare
      · exact Option.some.inj isShare
      · cases isShare
    obtain rfl : (now - link.started.getD now) * pressedHeldPercent.toNat = half := by
      unfold durationMul at isHalf
      split at isHalf
      · exact Option.some.inj isHalf
      · cases isHalf
    by_cases pressed : (now - link.started.getD now) * pressedHeldPercent.toNat ≤
        link.held * percent.toNat
    · rw [if_pos pressed] at answered
      have isVerdict : link.verdict now = some .pressed := by
        unfold verdict
        simp only
        rw [if_neg soon, if_pos pressed]
      have step := closePressed_cases
        { link with held := 0, bytes := 0, frames := 0, started := some now }
        (now - link.started.getD now) link.bytes link.frames ceiling fps
      rw [Option.some.inj answered] at step
      obtain ⟨isPressed, -, out⟩ := step
      refine .inr (.inl ⟨isVerdict, isPressed, ?_⟩)
      rcases out with kept | ⟨lowered, isMoved, isCap, many, rest⟩
      · exact .inl kept
      · refine .inr ⟨lowered, isMoved, isCap, ?_, rest⟩
        rw [isPressed]
        exact many
    · rw [if_neg pressed] at answered
      have isVerdict : link.verdict now =
          if link.held * percent.toNat ≤
            (now - link.started.getD now) * clearHeldPercent.toNat then some .clear
          else some .between := by
        unfold verdict
        simp only
        rw [if_neg soon, if_neg pressed]
      have step := closeUnpressed_cases
        { link with held := 0, bytes := 0, frames := 0, started := some now }
        (link.held * percent.toNat > (now - link.started.getD now) * clearHeldPercent.toNat)
        ceiling
      rw [Option.some.inj answered] at step
      obtain ⟨unpressed, out⟩ := step
      refine .inr (.inr ⟨?_, unpressed, ?_⟩)
      · rw [isVerdict]
        split
        · exact .inr rfl
        · exact .inl rfl
      · rcases out with ⟨isMoved, isCap, counted⟩ | ⟨cap, capped, quiet, isClear, many, out⟩
        · refine .inl ⟨isMoved, isCap, fun capped clear => counted capped ?_⟩
          rw [isVerdict] at clear
          split at clear
          · rename_i quiet
            exact decide_eq_false (Nat.not_lt.mpr quiet)
          · cases clear
        · have quiet := Nat.not_lt.mp (of_decide_eq_false quiet)
          refine .inr ⟨cap, capped, ?_, ?_, out⟩
          · rw [isVerdict]
            exact if_pos quiet
          · rw [isClear]
            exact many

/-! ## Runs -/

/-- A call of a run. -/
abbrev Call := Event (Option LinkPressure) Op Answer

/-- The pressed windows in a row after one more call; a release forgets them. -/
def countPressed (inARow : Nat) (call : Call) : Nat :=
  match call.pre, call.op with
  | some link, .due now _ _ =>
      match link.verdict now with
      | none => inARow
      | some .pressed => inARow + 1
      | some .between | some .clear => 0
  | some _, .release => 0
  | _, _ => inARow

/-- How many windows in a row, the last one included, these calls found pressed. -/
def pressedRun (calls : List Call) : Nat := calls.foldl countPressed 0

/-- A call whose ceiling a step up can reach. -/
def WithinRaise : Op → Prop
  | .due _ ceiling _ => ceiling ≤ highestRaise
  | .held _ | .sent _ | .release => True

/-- What a moved bitrate is, after the calls `before`. -/
def MovesAsPressed (before : List Call) (call : Call) : Prop :=
  ∀ link now ceiling fps bitrate, call.pre = some link → call.op = .due now ceiling fps →
    call.out = .due (some bitrate) →
    bitrate ≤ ceiling ∧
    (bitrate < link.current ceiling ↔ 2 ≤ pressedRun (before ++ [call])) ∧
    (bitrate < link.current ceiling →
      bitrate ≤ max abrMinBitrateKbps (link.current ceiling / 2))

/-- A cap is between the floor and the highest step up. -/
def CapInRange (link : LinkPressure) : Prop :=
  ∀ cap, link.capKbps = some cap → 300 ≤ cap.toNat ∧ cap.toNat ≤ 42949672

/-- The cap of a state, if it has one. -/
def capOf (state : Option LinkPressure) : Option UInt32 := state.bind capKbps

/-- A run keeps count of the pressed windows, and its cap in range. -/
def Sound (calls : List Call) (state : Option LinkPressure) : Prop :=
  ∀ link, state = some link →
    link.pressed.toNat = min (pressedRun calls) (2 ^ 32 - 1) ∧ link.CapInRange

theorem step_due (link : LinkPressure) (now : Instant) (ceiling : UInt32) (fps : UInt8) :
    ((step (some link) (.due now ceiling fps)).1 = .panicked ∧
      (step (some link) (.due now ceiling fps)).2 = none) ∨
    ∃ moved next, link.due now ceiling fps = some (moved, next) ∧
      (step (some link) (.due now ceiling fps)).1 = .due moved ∧
      (step (some link) (.due now ceiling fps)).2 = some next := by
  simp only [step]
  cases link.due now ceiling fps with
  | none => exact .inl ⟨rfl, rfl⟩
  | some answer => exact .inr ⟨answer.1, answer.2, rfl, rfl, rfl⟩

/-- A window leaves the cap in range. -/
theorem capInRange_due {link next : LinkPressure} {now : Instant} {ceiling : UInt32} {fps : UInt8}
    {moved : Option UInt32} (inRange : link.CapInRange) (within : ceiling ≤ highestRaise)
    (answered : link.due now ceiling fps = some (moved, next)) : next.CapInRange := by
  have within : ceiling.toNat ≤ 42949672 := UInt32.le_iff_toNat_le.mp within
  have below := current_le link ceiling
  intro cap capped
  rcases due_cases answered with
    ⟨-, -, -, -, same⟩ | ⟨-, -, ⟨-, same⟩ | ⟨lowered, -, isCap, -, floor, less, -⟩⟩ |
      ⟨-, -, ⟨-, same, -⟩ | ⟨old, isOld, -, -, -, isCap⟩⟩
  · exact inRange cap (same ▸ capped)
  · exact inRange cap (same ▸ capped)
  · obtain rfl : lowered = cap := Option.some.inj (isCap.symm.trans capped)
    omega
  · exact inRange cap (same ▸ capped)
  · rw [capped] at isCap
    split at isCap
    · obtain rfl := Option.some.inj isCap
      have := inRange old isOld
      rw [toNat_raised]
      omega
    · cases isCap

/-- The invariant of runs whose ceilings a step up can reach. -/
theorem sound_history (ops : List Op) (within : ∀ op ∈ ops, WithinRaise op) :
    Sound (history step (some default) ops) (exec step (some default) ops) := by
  induction ops using List.reverseRecOn with
  | nil =>
      rintro link ⟨⟩
      exact ⟨rfl, fun cap capped => by cases capped⟩
  | append_singleton ops op ih =>
      have sound := ih (fun op member => within op (List.mem_append_left _ member))
      have allowed := within op (List.mem_append_right _ (List.mem_singleton.mpr rfl))
      rw [exec_concat, history_concat]
      intro next isNext
      rw [pressedRun, List.foldl_append, ← pressedRun, List.foldl_cons, List.foldl_nil]
      cases state : exec step (some default) ops with
      | none =>
          rw [state] at isNext
          cases isNext
      | some link =>
          rw [state] at isNext
          obtain ⟨counted, inRange⟩ := sound link state
          cases op with
          | held took =>
              obtain rfl := Option.some.inj isNext
              exact ⟨counted, inRange⟩
          | sent bytes =>
              obtain rfl := Option.some.inj isNext
              exact ⟨counted, inRange⟩
          | release =>
              obtain rfl := Option.some.inj isNext
              exact ⟨rfl, fun cap capped => by cases capped⟩
          | due now ceiling fps =>
              rcases step_due link now ceiling fps with
                ⟨-, gone⟩ | ⟨moved, following, answered, -, isPost⟩
              · rw [gone] at isNext
                cases isNext
              · obtain rfl : following = next := Option.some.inj (isPost.symm.trans isNext)
                refine ⟨?_, capInRange_due inRange allowed answered⟩
                have one : (1 : UInt32).toNat = 1 := rfl
                show following.pressed.toNat = min (countPressed _ ⟨some link, _, _, _⟩) _
                unfold countPressed
                rcases due_cases answered with
                  ⟨verdict, -, pressed, -⟩ | ⟨verdict, pressed, -⟩ |
                    ⟨verdict | verdict, pressed, -⟩
                · simp only [verdict, pressed]
                  exact counted
                · simp only [verdict, pressed, toNat_saturatingAdd32, one]
                  omega
                · simp only [verdict, pressed]
                  rfl
                · simp only [verdict, pressed]
                  rfl

/-- Every call of such a run moves the bitrate as the pressed windows before it say. -/
theorem movesAsPressed {ops : List Op} (within : ∀ op ∈ ops, WithinRaise op)
    {before after : List Call} {call : Call}
    (split : history step (some default) ops = before ++ call :: after) :
    MovesAsPressed before call := by
  obtain ⟨first, second, rfl, rfl, isCall⟩ := history_split split
  have sound := sound_history first (fun op member => within op (List.mem_append_left _ member))
  intro link now ceiling fps bitrate isLink isOp isOut
  have allowed : ceiling ≤ highestRaise := by
    have := within call.op (List.mem_append_right _ (List.mem_cons_self ..))
    rwa [isOp] at this
  have allowed : ceiling.toNat ≤ 42949672 := UInt32.le_iff_toNat_le.mp allowed
  have state : exec step (some default) first = some link := by
    rw [isCall] at isLink
    exact isLink
  obtain ⟨counted, inRange⟩ := sound link state
  rw [isCall, isOp, state] at isOut
  rcases step_due link now ceiling fps with
    ⟨panicked, -⟩ | ⟨moved, next, answered, isDue, -⟩
  · rw [Event.of_out, panicked] at isOut
    cases isOut
  · rw [Event.of_out, isDue] at isOut
    obtain rfl : moved = some bitrate := Answer.due.inj isOut
    have one : (1 : UInt32).toNat = 1 := rfl
    have two : (2 : UInt32).toNat = 2 := rfl
    have floor : abrMinBitrateKbps.toNat = 300 := rfl
    have atMost := current_le link ceiling
    rw [pressedRun, List.foldl_append, ← pressedRun, List.foldl_cons, List.foldl_nil,
      UInt32.le_iff_toNat_le, UInt32.le_iff_toNat_le, UInt32.lt_iff_toNat_lt, toNat_max32,
      UInt32.toNat_div, two, floor]
    unfold countPressed
    rw [isLink, isOp]
    rcases due_cases answered with
      ⟨-, absent, -⟩ |
        ⟨verdict, pressed, ⟨absent, -⟩ | ⟨lowered, isMoved, -, many, -, less, half⟩⟩ |
        ⟨-, -, ⟨absent, -⟩ | ⟨cap, capped, verdict, -, isMoved, -⟩⟩
    · cases absent
    · cases absent
    · obtain rfl := Option.some.inj isMoved
      rw [pressed, toNat_saturatingAdd32, one] at many
      simp only [verdict]
      omega
    · cases absent
    · obtain rfl := Option.some.inj isMoved
      have notPast := inRange cap capped
      rw [toNat_current_of_cap capped, toNat_min32, toNat_raised]
      simp only [verdict]
      omega

/-- A call that closes no window but a clear one, and neither panics nor releases. -/
def StaysClear (call : Call) : Prop :=
  call.post ≠ none ∧ call.op ≠ .release ∧
    ∀ link now ceiling fps, call.pre = some link → call.op = .due now ceiling fps →
      link.verdict now = none ∨ link.verdict now = some .clear

/-- A call that closes a window. -/
def closesWindow (call : Call) : Bool :=
  match call.pre, call.op with
  | some link, .due now _ _ => (link.verdict now).isSome
  | _, _ => false

/-- A call that removes the cap and answers with the ceiling. -/
def Removes (call : Call) : Prop :=
  ∃ now ceiling fps, call.op = .due now ceiling fps ∧ capOf call.pre ≠ none ∧
    capOf call.post = none ∧ call.out = .due (some ceiling)

/-- How many clear windows a cap needs at most to be removed. -/
def clearWindowsLeft (link : LinkPressure) : Nat :=
  match link.capKbps with
  | none => 0
  | some cap => 42949672 - cap.toNat + 2 - min link.clear.toNat 1

/-- One call of a clear link removes the cap or comes closer to it. -/
theorem removes_or_closer {link : LinkPressure} {op : Op} (inRange : link.CapInRange)
    (capped : link.capKbps ≠ none) (within : WithinRaise op)
    (clear : StaysClear (Event.of step (some link) op)) :
    Removes (Event.of step (some link) op) ∨
      ∃ next, (step (some link) op).2 = some next ∧ next.CapInRange ∧ next.capKbps ≠ none ∧
        next.clearWindowsLeft + (closesWindow (Event.of step (some link) op)).toNat ≤
          link.clearWindowsLeft := by
  obtain ⟨lives, keeps, onlyClear⟩ := clear
  cases op with
  | held took => exact .inr ⟨_, rfl, inRange, capped, Nat.le_refl _⟩
  | sent bytes => exact .inr ⟨_, rfl, inRange, capped, Nat.le_refl _⟩
  | release => exact absurd rfl keeps
  | due now ceiling fps =>
      rcases step_due link now ceiling fps with
        ⟨-, gone⟩ | ⟨moved, next, answered, isOut, isPost⟩
      · exact absurd gone lives
      · have nextInRange := capInRange_due inRange within answered
        have reachable : ceiling.toNat ≤ 42949672 := UInt32.le_iff_toNat_le.mp within
        have closes : closesWindow (Event.of step (some link) (.due now ceiling fps)) =
            (link.verdict now).isSome := rfl
        obtain ⟨cap, isCap⟩ := Option.ne_none_iff_exists'.mp capped
        have bounds := inRange cap isCap
        have left : link.clearWindowsLeft = 42949672 - cap.toNat + 2 - min link.clear.toNat 1 := by
          unfold clearWindowsLeft
          rw [isCap]
        rcases due_cases answered with
          ⟨verdict, -, -, sameClear, same⟩ | ⟨verdict, -⟩ |
            ⟨kind, -, ⟨-, same, counted⟩ | ⟨old, isOld, verdict, counted, isMoved, isNext⟩⟩
        · refine .inr ⟨next, isPost, nextInRange, same.trans_ne capped, ?_⟩
          rw [closes, verdict]
          unfold clearWindowsLeft
          rw [same, sameClear]
          exact Nat.le_refl _
        · rcases onlyClear link now ceiling fps rfl rfl with other | other
          · cases verdict.symm.trans other
          · cases verdict.symm.trans other
        · refine .inr ⟨next, isPost, nextInRange, same.trans_ne capped, ?_⟩
          have nextLeft : next.clearWindowsLeft =
              42949672 - cap.toNat + 2 - min next.clear.toNat 1 := by
            unfold clearWindowsLeft
            rw [same.trans isCap]
          rw [closes, left, nextLeft]
          rcases onlyClear link now ceiling fps rfl rfl with verdict | verdict
          · rcases kind with other | other
            · cases verdict.symm.trans other
            · cases verdict.symm.trans other
          · obtain ⟨before, after⟩ := counted capped verdict
            rw [verdict, before, after]
            simp only [Option.isSome_some, Bool.toNat_true]
            omega
        · obtain rfl : old = cap := Option.some.inj (isOld.symm.trans isCap)
          by_cases below : raised old < ceiling
          · rw [if_pos below] at isNext
            have higher := UInt32.lt_iff_toNat_lt.mp below
            refine .inr ⟨next, isPost, nextInRange, ?_, ?_⟩
            · rw [isNext]
              exact Option.some_ne_none _
            · have isRaised := toNat_raised old
              have steps : old.toNat < (raised old).toNat := lt_raised (by omega) (by omega)
              have nextLeft : next.clearWindowsLeft =
                  42949672 - (raised old).toNat + 2 - min next.clear.toNat 1 := by
                unfold clearWindowsLeft
                rw [isNext]
              rw [closes, verdict, left, nextLeft]
              simp only [Option.isSome_some, Bool.toNat_true]
              omega
          · rw [if_neg below] at isNext
            refine .inl ⟨now, ceiling, fps, rfl, ?_, ?_, ?_⟩
            · exact capped
            · rw [Event.of_post, isPost]
              exact isNext
            · rw [Event.of_out, isOut, isMoved]
              have least : min (raised old) ceiling = ceiling := by
                apply UInt32.toNat_inj.mp
                have := UInt32.le_iff_toNat_le.mp (UInt32.not_lt.mp below)
                rw [toNat_min32]
                omega
              rw [least]

/-- A link that stays clear for that many windows loses its cap on the way. -/
theorem exists_removes {link : LinkPressure} (inRange : link.CapInRange)
    (capped : link.capKbps ≠ none) {more : List Op} (within : ∀ op ∈ more, WithinRaise op)
    (clear : ∀ call ∈ history step (some link) more, StaysClear call)
    (enough : link.clearWindowsLeft ≤ (history step (some link) more).countP closesWindow) :
    ∃ call ∈ history step (some link) more, Removes call := by
  induction more generalizing link with
  | nil =>
      obtain ⟨cap, isCap⟩ := Option.ne_none_iff_exists'.mp capped
      have bounds := inRange cap isCap
      unfold clearWindowsLeft at enough
      rw [isCap] at enough
      simp only [history_nil, List.countP_nil] at enough
      omega
  | cons op more ih =>
      rw [history_cons] at clear enough ⊢
      have first := clear _ (List.mem_cons_self ..)
      rcases removes_or_closer inRange capped (within op (List.mem_cons_self ..)) first with
        removes | ⟨next, isNext, nextInRange, nextCapped, closer⟩
      · exact ⟨_, List.mem_cons_self .., removes⟩
      · rw [isNext] at clear enough ⊢
        have fewer : next.clearWindowsLeft ≤
            (history step (some next) more).countP closesWindow := by
          rw [List.countP_cons] at enough
          cases closes : closesWindow (Event.of step (some link) op) with
          | true =>
              rw [closes] at closer enough
              simp only [Bool.toNat_true, if_true] at closer enough
              omega
          | false =>
              rw [closes] at closer enough
              simp only [Bool.toNat_false, Bool.false_eq_true, if_false] at closer enough
              omega
        obtain ⟨call, member, removes⟩ := ih nextInRange nextCapped
          (fun op member => within op (List.mem_cons_of_mem _ member))
          (fun call member => clear call (List.mem_cons_of_mem _ member)) fewer
        exact ⟨call, List.mem_cons_of_mem _ member, removes⟩

/-- While the ceiling stays what it is, a cap that comes up is below it. -/
theorem cap_lt_of_constant {start : Option LinkPressure} {ops : List Op} {ceiling : UInt32}
    (free : capOf start = none)
    (constant : ∀ now other fps, .due now other fps ∈ ops → other = ceiling)
    {cap : UInt32} (capped : capOf (exec step start ops) = some cap) : cap < ceiling := by
  have keep (state : Option LinkPressure) (op : Op)
      (below : ∀ cap, capOf state = some cap → cap.toNat < ceiling.toNat)
      (same : ∀ now other fps, op = .due now other fps → other = ceiling) :
      ∀ cap, capOf (step state op).2 = some cap → cap.toNat < ceiling.toNat := by
    intro cap capped
    cases state with
    | none => cases capped
    | some link =>
        cases op with
        | held took => exact below cap capped
        | sent bytes => exact below cap capped
        | release => cases capped
        | due now other fps =>
            obtain rfl := same now other fps rfl
            rcases step_due link now other fps with ⟨-, gone⟩ | ⟨moved, next, answered, -, isNext⟩
            · rw [gone] at capped
              cases capped
            · rw [isNext] at capped
              have isCap : next.capKbps = some cap := capped
              rcases due_cases answered with
                ⟨-, -, -, -, kept⟩ | ⟨-, -, ⟨-, kept⟩ | ⟨lowered, -, isLow, -, -, less, -⟩⟩ |
                  ⟨-, -, ⟨-, kept, -⟩ | ⟨old, -, -, -, -, isRaised⟩⟩
              · exact below cap (kept.symm.trans isCap)
              · exact below cap (kept.symm.trans isCap)
              · obtain rfl : lowered = cap := Option.some.inj (isLow.symm.trans isCap)
                exact Nat.lt_of_lt_of_le less (current_le link other)
              · exact below cap (kept.symm.trans isCap)
              · rw [isRaised] at isCap
                split at isCap
                · rename_i higher
                  obtain rfl := Option.some.inj isCap
                  exact UInt32.lt_iff_toNat_lt.mp higher
                · cases isCap
  have allowed : ∀ call ∈ history step start ops,
      ∀ now other fps, call.op = .due now other fps → other = ceiling := by
    intro call member now other fps isOp
    exact constant now other fps (isOp ▸ op_mem_of_mem_history member)
  have noCap : ∀ cap, capOf start = some cap → cap.toNat < ceiling.toNat := by
    intro cap capped
    cases free.symm.trans capped
  exact UInt32.lt_iff_toNat_lt.mpr (exec_induction keep noCap allowed cap capped)

/-- Of every run whose ceilings a step up can reach: every bitrate that `due` answers with is at
most the ceiling, is lower than the one in force exactly after two pressed windows in a row, and then at
most half of it or the floor; and a cap is at least the floor, below a ceiling that has not changed
since there was none, and gone with the ceiling as the answer after finitely many clear windows. -/
theorem cap_follows_pressure (ops : List Op) (within : ∀ op ∈ ops, WithinRaise op) :
    (∀ before call after, history step (some default) ops = before ++ call :: after →
      MovesAsPressed before call) ∧
    ∀ link cap, exec step (some default) ops = some link → link.capKbps = some cap →
      abrMinBitrateKbps ≤ cap ∧
      (∀ before after ceiling, ops = before ++ after →
        capOf (exec step (some default) before) = none →
        (∀ now other fps, .due now other fps ∈ after → other = ceiling) → cap < ceiling) ∧
      ∃ windows, ∀ more, (∀ op ∈ more, WithinRaise op) →
        (∀ call ∈ history step (some link) more, StaysClear call) →
        windows ≤ (history step (some link) more).countP closesWindow →
        ∃ call ∈ history step (some link) more, Removes call := by
  refine ⟨fun before call after split => movesAsPressed within split, ?_⟩
  intro link cap isLink capped
  have inRange := (sound_history ops within link isLink).2
  refine ⟨?_, ?_, ⟨link.clearWindowsLeft, ?_⟩⟩
  · exact UInt32.le_iff_toNat_le.mpr (inRange cap capped).1
  · rintro before after ceiling rfl free constant
    rw [exec_append] at isLink
    apply cap_lt_of_constant free constant
    rw [isLink]
    exact capped
  · intro more allowed clear enough
    have present : link.capKbps ≠ none := capped ▸ Option.some_ne_none cap
    exact exists_removes inRange present allowed clear enough

/-- The second in which the calls `window` closes the window of `now`. -/
def window (now : Nat) (waited : Duration) (ceiling : UInt32) : List Op :=
  [.held waited, .due (Duration.fromSecs now) ceiling 60]

/-- Two seconds of waiting for the link, after the call that opens the first window. -/
def stall (ceiling : UInt32) : List Op :=
  .due 0 ceiling 60 :: (window 1 (Duration.fromMillis 900) ceiling ++
    window 2 (Duration.fromMillis 900) ceiling)

theorem cap_follows_pressure_of_stall :
    ∃ link cap, exec step (some default) (stall 8000) = some link ∧ link.capKbps = some cap ∧
      abrMinBitrateKbps ≤ cap ∧ cap < 8000 := by
  have within : ∀ op ∈ stall 8000, WithinRaise op := by
    simp [stall, window, WithinRaise, highestRaise]
  refine ⟨_, 4000, rfl, rfl, ?_⟩
  obtain ⟨floor, constant, -⟩ := (cap_follows_pressure (stall 8000) within).2 _ 4000 rfl rfl
  refine ⟨floor, constant [] (stall 8000) 8000 rfl rfl ?_⟩
  intro now other fps member
  simp only [stall, window, List.cons_append, List.nil_append, List.mem_cons, List.not_mem_nil,
    Op.due.injEq, reduceCtorEq, false_or, or_false] at member
  rcases member with ⟨-, same, -⟩ | ⟨-, same, -⟩ | ⟨-, same, -⟩ <;> exact same

example : capOf (exec step (some default) (stall 8000)) = some 4000 := by decide

/-- Under a ceiling that no step up can reach, the second clear window in a row lowers the
bitrate. -/
theorem cap_lowered_by_clear_windows :
    ¬∀ (ops : List Op) (before : List Call) (call : Call) (after : List Call),
      history step (some default) ops = before ++ call :: after → MovesAsPressed before call := by
  intro always
  have moved := always (stall 0xffffffff ++ window 3 0 0xffffffff ++ window 4 0 0xffffffff)
    ((history step (some default) (stall 0xffffffff ++ window 3 0 0xffffffff ++
      window 4 0 0xffffffff)).take 8) _ [] rfl
  obtain ⟨-, exactly, -⟩ := moved _ _ _ _ _ rfl rfl rfl
  exact absurd (exactly.mp (by decide)) (by decide)

end Lumepeer.Media.LinkPressure
