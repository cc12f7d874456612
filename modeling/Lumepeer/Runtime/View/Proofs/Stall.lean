import Lumepeer.Runtime.View.Proofs.Acks

/-!
# A link that stalls

The guest stops acknowledging and keeps its stream open. The frames in flight
stay, so the oldest of them gets later and later; but the delays are remembered
for a window only, and when the last of them is forgotten a frame is admitted
again. What a question finds depends on the delays that were remembered at the
last acknowledgement and on the latest moment at which somebody looked at them.
-/

namespace Lumepeer.Runtime.FrameAcks
open Lumepeer.Lib

/-- An executed call. -/
abbrev Call := Event AckState Op Answer

/-- The guest acknowledges nothing and its stream does not end. -/
def Stalls : Op → Prop
  | .acked _ _ | .closed => False
  | .opened | .sent _ | .admits _ _ | .best _ => True

/-- The moment at which a call looks at the delays; a question that finds nothing in flight does
not. -/
def looked (e : Call) : Nat :=
  match e.op with
  | .admits now _ => if e.pre.inFlight = [] then 0 else now
  | .best now => now
  | .opened | .closed | .sent _ | .acked _ _ => 0

/-- The latest moment at which the calls look at the delays. -/
def latest (calls : List Call) : Nat := calls.foldl (fun latest e => max latest (looked e)) 0

/-- A run up to an acknowledgement that times a frame, and the calls of the stall behind it. -/
structure Stall where
  before : List Op
  count : UInt64
  time : Nat
  delay : Nat
  calls : List Op
  timed : noted (Event.of step (exec step .new before) (.acked count time)) = some (time, delay)
  stalls : ∀ op ∈ calls, Stalls op

/-- The loop hands a frame over only after an answer that there is room, and one for each answer
(`view.rs:1581-2016`). -/
def Gated (calls : List Call) : Prop :=
  ∀ before e after time, calls = before ++ e :: after → e.op = .sent time →
    ∃ earlier ask between, before = earlier ++ ask :: between ∧ ask.out = .admits true ∧
      ∀ other ∈ between, (∀ time, other.op ≠ .sent time) ∧ ∀ now slack, other.op ≠ .admits now slack

namespace Stall

/-- The calls up to the last acknowledgement. -/
def toAcked (stall : Stall) : List Op := stall.before ++ [.acked stall.count stall.time]

/-- All calls. -/
def ops (stall : Stall) : List Op := stall.toAcked ++ stall.calls

/-- The state that the last acknowledgement leaves. -/
def acked (stall : Stall) : AckState := exec step .new stall.toAcked

/-- The state after the first calls of the stall. -/
def after (stall : Stall) (first : List Op) : AckState := exec step stall.acked first

/-- A moment is later than the oldest frame in flight, the best delay known at the last
acknowledgement and the slack allow. -/
def Overdue (stall : Stall) (oldest now slack : Nat) : Prop :=
  ∃ known, (best stall.acked stall.time).1 = some known ∧ oldest + known + slack < now

/-- The oldest frame in flight was handed over at this moment. -/
def Oldest (state : AckState) (oldest : Nat) : Prop :=
  (state.inFlight.head?.map Prod.snd) = some oldest

/-- Every question that is overdue is answered with no. -/
def StaysHeld (stall : Stall) : Prop :=
  ∀ first now slack second oldest, stall.calls = first ++ .admits now slack :: second →
    Oldest (stall.after first) oldest → stall.Overdue oldest now slack →
    (admits (stall.after first) now slack).1 = false

/-- From an overdue question on, as long as the questions are overdue, the frames in flight stay
the same. -/
def StopsGrowing (stall : Stall) : Prop :=
  Gated (history step .new stall.ops) →
    ∀ first now slack second oldest, stall.calls = first ++ .admits now slack :: second →
      Oldest (stall.after first) oldest → stall.Overdue oldest now slack →
      (∀ now slack, .admits now slack ∈ second → stall.Overdue oldest now slack) →
      (stall.after stall.calls).inFlight = (stall.after first).inFlight

/-- Every question that is overdue finds a delay that is still remembered and is overdue by it. -/
def Remembers (stall : Stall) : Prop :=
  ∀ first now slack second oldest, stall.calls = first ++ .admits now slack :: second →
    Oldest (stall.after first) oldest → stall.Overdue oldest now slack →
    ∃ kept, (SlidingMin.prune mediaAckBestWindow
        (max (latest (history step stall.acked first)) now) stall.acked.best).head? = some kept ∧
      oldest + kept.2 + slack < now

end Stall

/-! ## The calls of a stall -/

/-- A call of a stall forgets what is too old at the moment at which it looks. -/
theorem best_step {state : AckState} {op : Op} (stalls : Stalls op) :
    (step state op).2.best =
      SlidingMin.prune mediaAckBestWindow (looked (Event.of step state op)) state.best := by
  cases op with
  | opened => exact SlidingMin.prune_zero.symm
  | closed => cases stalls
  | sent time =>
      have same : (sent state time).best = state.best := by
        unfold sent
        split <;> rfl
      exact same.trans SlidingMin.prune_zero.symm
  | acked count time => cases stalls
  | admits now slack =>
      cases waiting : state.inFlight with
      | nil =>
          simp only [step, admits, looked, Event.of_op, Event.of_pre, waiting, if_true]
          exact SlidingMin.prune_zero.symm
      | cons frame rest =>
          simp only [step, admits, looked, Event.of_op, Event.of_pre, waiting, AckState.bestDelay]
          rw [if_neg (List.cons_ne_nil _ _)]
          cases (SlidingMin.prune mediaAckBestWindow now state.best).head? with
          | none => rfl
          | some kept => rfl
  | best now => rfl

/-- A call of a stall puts its frame behind those in flight. -/
theorem inFlight_step (state : AckState) {op : Op} (stalls : Stalls op) :
    ∃ more, (step state op).2.inFlight = state.inFlight ++ more ∧
      ((∀ time, op ≠ .sent time) → more = []) := by
  cases op with
  | opened => exact ⟨[], (List.append_nil _).symm, fun _ => rfl⟩
  | closed => cases stalls
  | sent time =>
      simp only [step, sent]
      cases state.live with
      | true => exact ⟨_, rfl, fun quiet => absurd rfl (quiet time)⟩
      | false => exact ⟨[], (List.append_nil _).symm, fun _ => rfl⟩
  | acked count time => cases stalls
  | admits now slack =>
      obtain ⟨left, isLeft, -⟩ := admits_eq state now slack
      refine ⟨[], ?_, fun _ => rfl⟩
      simp only [step, isLeft, List.append_nil]
  | best now => exact ⟨[], (List.append_nil _).symm, fun _ => rfl⟩

/-- What is remembered after calls of a stall. -/
theorem best_exec {state : AckState} {calls : List Op} (stalls : ∀ op ∈ calls, Stalls op) :
    (exec step state calls).best =
      SlidingMin.prune mediaAckBestWindow (latest (history step state calls)) state.best := by
  induction calls using List.reverseRecOn with
  | nil => exact SlidingMin.prune_zero.symm
  | append_singleton calls op ih =>
      rw [exec_concat, history_concat, best_step (stalls op (by simp)),
        ih fun op member => stalls op (List.mem_append_left _ member), SlidingMin.prune_prune]
      simp only [latest, List.foldl_append, List.foldl_cons, List.foldl_nil]

/-- Frames only come behind those in flight, and none without a hand-over. -/
theorem inFlight_exec (state : AckState) {calls : List Op} (stalls : ∀ op ∈ calls, Stalls op) :
    ∃ more, (exec step state calls).inFlight = state.inFlight ++ more ∧
      ((∀ time, .sent time ∉ calls) → more = []) := by
  induction calls generalizing state with
  | nil => exact ⟨[], (List.append_nil _).symm, fun _ => rfl⟩
  | cons op calls ih =>
      obtain ⟨here, isHere, silent⟩ := inFlight_step state (stalls op (by simp))
      obtain ⟨later, isLater, silent'⟩ :=
        ih (step state op).2 fun op member => stalls op (List.mem_cons_of_mem _ member)
      refine ⟨here ++ later, ?_, fun quiet => ?_⟩
      · rw [exec_cons, isLater, isHere, List.append_assoc]
      · rw [silent fun time isSent => quiet time (by simp [isSent]),
          silent' fun time member => quiet time (List.mem_cons_of_mem _ member)]
        rfl

/-- The oldest frame stays the oldest. -/
theorem oldest_exec {state : AckState} {calls : List Op} {oldest : Nat}
    (stalls : ∀ op ∈ calls, Stalls op) (isOldest : Stall.Oldest state oldest) :
    Stall.Oldest (exec step state calls) oldest := by
  obtain ⟨more, isMore, -⟩ := inFlight_exec state stalls
  unfold Stall.Oldest at isOldest ⊢
  rw [isMore]
  cases waiting : state.inFlight with
  | nil =>
      rw [waiting] at isOldest
      cases isOldest
  | cons frame rest =>
      rw [waiting] at isOldest
      exact isOldest

/-- A question with a frame in flight is answered with no where a delay is remembered by which the
frame is late. -/
theorem admits_eq_false_iff {state : AckState} {oldest now slack : Nat}
    (isOldest : Stall.Oldest state oldest) :
    (admits state now slack).1 = false ↔
      ∃ kept, (SlidingMin.prune mediaAckBestWindow now state.best).head? = some kept ∧
        oldest + kept.2 + slack < now := by
  unfold Stall.Oldest at isOldest
  cases waiting : state.inFlight with
  | nil =>
      rw [waiting] at isOldest
      cases isOldest
  | cons frame rest =>
      obtain ⟨number, handedOver⟩ := frame
      rw [waiting] at isOldest
      obtain rfl := Option.some.inj isOldest
      simp only [admits, waiting, AckState.bestDelay]
      cases (SlidingMin.prune mediaAckBestWindow now state.best).head? with
      | none => simp
      | some kept =>
          simp only [Option.map_some, decide_eq_false_iff_not, Option.some.injEq, exists_eq_left']
          omega

namespace Stall

theorem stalls_first {stall : Stall} {first second : List Op}
    (split : stall.calls = first ++ second) : ∀ op ∈ first, Stalls op := by
  intro op member
  apply stall.stalls op
  rw [split]
  exact List.mem_append_left _ member

/-- A question of the stall is answered by what the last acknowledgement left. -/
theorem admits_after_eq_false_iff {stall : Stall} {first second : List Op} {oldest now slack : Nat}
    (split : stall.calls = first ++ .admits now slack :: second)
    (isOldest : Oldest (stall.after first) oldest) :
    (admits (stall.after first) now slack).1 = false ↔
      ∃ kept, (SlidingMin.prune mediaAckBestWindow
          (max (latest (history step stall.acked first)) now) stall.acked.best).head? = some kept ∧
        oldest + kept.2 + slack < now := by
  rw [admits_eq_false_iff isOldest, after, best_exec (stalls_first split), SlidingMin.prune_prune]

theorem staysHeld_iff_remembers (stall : Stall) : stall.StaysHeld ↔ stall.Remembers := by
  constructor
  · intro held first now slack second oldest split isOldest overdue
    exact (admits_after_eq_false_iff split isOldest).mp
      (held first now slack second oldest split isOldest overdue)
  · intro remembers first now slack second oldest split isOldest overdue
    exact (admits_after_eq_false_iff split isOldest).mpr
      (remembers first now slack second oldest split isOldest overdue)

/-- What is held stops growing. -/
theorem StaysHeld.stopsGrowing {stall : Stall} (held : stall.StaysHeld) : stall.StopsGrowing := by
  intro gated first now slack second oldest split isOldest overdue later
  have stalls : ∀ op ∈ .admits now slack :: second, Stalls op := by
    intro op member
    apply stall.stalls op
    rw [split]
    exact List.mem_append_right _ member
  have isAfter : stall.after stall.calls =
      exec step (stall.after first) (.admits now slack :: second) := by
    rw [after, split, exec_append]
    rfl
  -- Every question from here on is answered with no.
  have refused : ∀ before now' slack' behind,
      .admits now slack :: second = before ++ .admits now' slack' :: behind →
      (admits (exec step (stall.after first) before) now' slack').1 = false := by
    intro before now' slack' behind isSplit
    have whole : stall.calls = (first ++ before) ++ .admits now' slack' :: behind := by
      rw [split, isSplit, List.append_assoc]
    have reached : stall.after (first ++ before) = exec step (stall.after first) before :=
      exec_append _ _ _
    rw [← reached]
    apply held _ now' slack' behind oldest whole
    · rw [reached]
      apply oldest_exec _ isOldest
      intro op member
      apply stalls op
      rw [isSplit]
      exact List.mem_append_left _ member
    · have member : .admits now' slack' ∈ .admits now slack :: second := by simp [isSplit]
      rcases List.mem_cons.mp member with same | member
      · obtain ⟨rfl, rfl⟩ := Op.admits.inj same
        exact overdue
      · exact later now' slack' member
  have silent : ∀ time, .sent time ∉ .admits now slack :: second := by
    intro time member
    obtain ⟨asked, rest, isSplit⟩ := List.append_of_mem member
    have isOps : stall.ops = (stall.toAcked ++ first) ++ (asked ++ .sent time :: rest) := by
      rw [ops, split, isSplit, List.append_assoc]
    have reached : exec step .new (stall.toAcked ++ first) = stall.after first := exec_append _ _ _
    have isHistory : history step .new stall.ops =
        (history step .new (stall.toAcked ++ first) ++
          history step (stall.after first) asked) ++
        Event.of step (exec step (stall.after first) asked) (.sent time) ::
          history step (step (exec step (stall.after first) asked) (.sent time)).2 rest := by
      rw [isOps, history_append _ (stall.toAcked ++ first), reached, history_append _ asked,
        history_cons, List.append_assoc]
    obtain ⟨earlier, ask, between, isBefore, room, quiet⟩ := gated _ _ _ time isHistory rfl
    have isAsked : ask ∈ history step (stall.after first) asked := by
      rcases List.append_eq_append_iff.mp isBefore with ⟨gap, -, behind⟩ | ⟨gap, -, behind⟩
      · simp [behind]
      · cases gap with
        | nil =>
            rw [List.nil_append] at behind
            rw [← behind]
            exact List.mem_cons_self
        | cons head gap =>
            -- The overdue question itself would stand between the answer and the frame.
            cases asked with
            | nil => cases isSplit
            | cons question asked =>
                obtain ⟨rfl, -⟩ := List.cons.inj isSplit
                obtain ⟨-, rfl⟩ := List.cons.inj behind
                exact absurd rfl ((quiet (Event.of step (stall.after first) (.admits now slack))
                  (by simp)).2 now slack)
    obtain ⟨front, back, isAskedSplit, isAsk⟩ := exists_prefix_of_mem_history isAsked
    rw [isAsk] at room
    cases isOp : ask.op with
    | admits now' slack' =>
        have no := refused front now' slack' (back ++ .sent time :: rest) (by
          rw [isSplit, isAskedSplit, isOp, List.append_assoc, List.cons_append])
        rw [isOp] at room
        have yes := Answer.admits.inj room
        cases no.symm.trans yes
    | opened | closed | sent | acked | best =>
        rw [isOp] at room
        cases room
  obtain ⟨more, isMore, none⟩ := inFlight_exec (stall.after first) stalls
  rw [isAfter, isMore, none silent, List.append_nil]

/-- In every run and every stall: whatever is asked past the bound is refused and the frames in
flight stop growing if and only if every such question finds a delay that is still remembered and
is late by it. -/
theorem held_iff (stall : Stall) : stall.StaysHeld ∧ stall.StopsGrowing ↔ stall.Remembers := by
  rw [← staysHeld_iff_remembers]
  exact ⟨fun both => both.1, fun held => ⟨held, held.stopsGrowing⟩⟩

/-- A frame that took 40 ms, a second one that is never acknowledged, and a question six seconds
later. -/
def sixSeconds : Stall :=
  { before := [.opened, .sent 0], count := 1, time := 40000000, delay := 40000000
    calls := [.sent 50000000, .admits 6000000000 16000000]
    timed := rfl
    stalls := by simp [Stalls] }

/-- The stalled link is given another frame. -/
theorem sixSeconds_not_held : ¬∀ stall : Stall, stall.StaysHeld ∧ stall.StopsGrowing := by
  intro always
  have overdue : sixSeconds.Overdue 50000000 6000000000 16000000 := ⟨40000000, rfl, by decide⟩
  have held := (always sixSeconds).1 [.sent 50000000] 6000000000 16000000 [] 50000000 rfl rfl
    overdue
  have room : (admits (sixSeconds.after [.sent 50000000]) 6000000000 16000000).1 = true := by decide
  cases held.symm.trans room

end Stall

end Lumepeer.Runtime.FrameAcks
