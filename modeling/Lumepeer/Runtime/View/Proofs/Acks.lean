import Lumepeer.Runtime.View

/-!
# Frames in flight

A frame waits with its number from the moment it is handed over to the first
acknowledgement that covers it. The numbers that wait stand above `acked` as long
as no frame is handed over while the guest is ahead: a frame whose number the
guest has already named waits for an acknowledgement that `acked` ignores. The
delays are the sliding minimum of `SlidingMin` whatever the guest says.
-/

namespace Lumepeer.Runtime.FrameAcks
open Lumepeer.Lib

/-- The frames in flight are in order, unacknowledged and sent, and acknowledging all leaves none. -/
structure Bookkept (state : AckState) : Prop where
  ordered : (state.inFlight.map Prod.fst).Pairwise (· < ·)
  within : ∀ frame ∈ state.inFlight, state.acked < frame.1 ∧ frame.1 ≤ state.sent
  drains : ∀ time, (acked state state.sent time).inFlight = []

/-- A frame is handed over to an open stream only where the guest is not ahead of it. -/
def NotAhead (state : AckState) (op : Op) : Prop :=
  ∀ time, op = .sent time → state.live = true → state.acked ≤ state.sent

/-- ... and where the counter of frames has a next value. -/
def Counted (state : AckState) (op : Op) : Prop :=
  NotAhead state op ∧
    ∀ time, op = .sent time → state.live = true → state.sent.toNat < 2 ^ 64 - 1

/-- The moment of a call. -/
def Op.time? : Op → Option Nat
  | .opened => none
  | .closed => none
  | .sent time => some time
  | .acked _ time => some time
  | .admits now _ => some now
  | .best now => some now

/-- The delay that an acknowledgement notes, with its moment. -/
def noted (e : Event AckState Op Answer) : Option (Nat × Nat) :=
  match e.op with
  | .acked count time =>
      if count ≤ e.pre.acked then none
      else (newest e.pre count).map fun frame => (time, time - frame.2)
  | _ => none

/-- The delays noted in a run. -/
def notes (ops : List Op) : List (Nat × Nat) := (history step .new ops).filterMap noted

/-! ## Numbers -/

/-- In a queue in order, the frames that an acknowledgement leaves are those above it. -/
theorem lt_of_mem_dropWhile {queue : List (UInt64 × Nat)} {count : UInt64} {frame : UInt64 × Nat}
    (ordered : (queue.map Prod.fst).Pairwise (· < ·))
    (member : frame ∈ queue.dropWhile fun frame => frame.1 ≤ count) : count < frame.1 := by
  induction queue with
  | nil => simp at member
  | cons first queue ih =>
      rw [List.map_cons, List.pairwise_cons] at ordered
      rw [List.dropWhile_cons] at member
      split at member
      · exact ih ordered.2 member
      · rename_i above
        have here : count < first.1 := by simpa using above
        rcases List.mem_cons.mp member with rfl | later
        · exact here
        · exact UInt64.lt_trans here (ordered.1 frame.1 (List.mem_map_of_mem later))

/-- What an acknowledgement that says something new does. -/
theorem acked_eq (state : AckState) {count : UInt64} (time : Nat) (new : ¬count ≤ state.acked) :
    ∃ last jitter, acked state count time =
      { state with
        acked := count
        inFlight := state.inFlight.dropWhile fun frame => frame.1 ≤ count
        best := (newest state count).elim state.best fun frame =>
          SlidingMin.note state.best time (time - frame.2)
        lastDelay := last
        jitter := jitter } := by
  unfold acked
  rw [if_neg new]
  split
  · rename_i nothing
    exact ⟨_, _, by rw [nothing]; rfl⟩
  · rename_i found
    dsimp only
    split <;> exact ⟨_, _, by rw [found]; rfl⟩

theorem acked_of_le {state : AckState} {count : UInt64} (time : Nat) (old : count ≤ state.acked) :
    acked state count time = state := by
  rw [acked, if_pos old]

/-- Frames with numbers above `acked` drain when everything is acknowledged. -/
theorem drains_of_within {state : AckState}
    (within : ∀ frame ∈ state.inFlight, state.acked < frame.1 ∧ frame.1 ≤ state.sent) (time : Nat) :
    (acked state state.sent time).inFlight = [] := by
  by_cases old : state.sent ≤ state.acked
  · rw [acked_of_le time old, List.eq_nil_iff_forall_not_mem]
    intro frame member
    obtain ⟨above, below⟩ := within frame member
    exact UInt64.lt_irrefl _ (UInt64.lt_of_lt_of_le above (UInt64.le_trans below old))
  · obtain ⟨last, jitter, isAcked⟩ := acked_eq state time old
    rw [isAcked, List.dropWhile_eq_nil_iff]
    intro frame member
    exact decide_eq_true (within frame member).2

/-- The queue is in order and between what is acknowledged and what is sent. -/
theorem bookkept_iff {state : AckState} :
    Bookkept state ↔ (state.inFlight.map Prod.fst).Pairwise (· < ·) ∧
      ∀ frame ∈ state.inFlight, state.acked < frame.1 ∧ frame.1 ≤ state.sent := by
  constructor
  · exact fun kept => ⟨kept.ordered, kept.within⟩
  · rintro ⟨ordered, within⟩
    exact { ordered := ordered, within := within, drains := drains_of_within within }

theorem bookkept_sent {state : AckState} {time : Nat} (kept : Bookkept state)
    (counted : Counted state (.sent time)) : Bookkept (sent state time) := by
  have grows : state.sent ≤ saturatingAdd64 state.sent 1 := by
    rw [UInt64.le_iff_toNat_le, toNat_saturatingAdd64]
    have := state.sent.toNat_lt
    simp only [UInt64.toNat_one]
    omega
  unfold sent
  split
  · rename_i live
    have notAhead := counted.1 time rfl live
    have room := counted.2 time rfl live
    have next : (saturatingAdd64 state.sent 1).toNat = state.sent.toNat + 1 := by
      rw [toNat_saturatingAdd64, UInt64.toNat_one]
      omega
    rw [bookkept_iff]
    constructor
    · simp only [List.map_append, List.map_cons, List.map_nil]
      refine List.pairwise_append.mpr ⟨kept.ordered, List.pairwise_singleton _ _, ?_⟩
      intro number member last isLast
      obtain ⟨frame, inFlight, rfl⟩ := List.mem_map.mp member
      have below := UInt64.le_iff_toNat_le.mp (kept.within frame inFlight).2
      rw [List.mem_singleton] at isLast
      rw [isLast, UInt64.lt_iff_toNat_lt, next]
      omega
    · intro frame member
      rcases List.mem_append.mp member with earlier | isLast
      · exact ⟨(kept.within frame earlier).1, UInt64.le_trans (kept.within frame earlier).2 grows⟩
      · rw [List.mem_singleton] at isLast
        subst isLast
        have := UInt64.le_iff_toNat_le.mp notAhead
        refine ⟨?_, UInt64.le_refl _⟩
        rw [UInt64.lt_iff_toNat_lt, next]
        exact Nat.lt_succ_of_le this
  · rw [bookkept_iff]
    refine ⟨kept.ordered, fun frame member => ?_⟩
    exact ⟨(kept.within frame member).1, UInt64.le_trans (kept.within frame member).2 grows⟩

theorem bookkept_acked {state : AckState} (kept : Bookkept state) (count : UInt64) (time : Nat) :
    Bookkept (acked state count time) := by
  by_cases old : count ≤ state.acked
  · rwa [acked_of_le time old]
  · obtain ⟨last, jitter, isAcked⟩ := acked_eq state time old
    rw [isAcked, bookkept_iff]
    have smaller : (state.inFlight.dropWhile fun frame => frame.1 ≤ count).Sublist state.inFlight :=
      List.dropWhile_sublist _
    refine ⟨kept.ordered.sublist (smaller.map Prod.fst), fun frame member => ?_⟩
    exact ⟨lt_of_mem_dropWhile kept.ordered member, (kept.within frame (smaller.subset member)).2⟩

/-- Asking prunes the delays and nothing else. -/
theorem admits_eq (state : AckState) (now slack : Nat) :
    ∃ left, (admits state now slack).2 = { state with best := left } ∧
      (left = state.best ∨ left = SlidingMin.prune mediaAckBestWindow now state.best) := by
  unfold admits
  split
  · exact ⟨state.best, rfl, .inl rfl⟩
  · split
    · rename_i asked
      exact ⟨_, (congrArg Prod.snd asked).symm, .inr rfl⟩
    · rename_i asked
      exact ⟨_, (congrArg Prod.snd asked).symm, .inr rfl⟩

theorem bookkept_of_best {state : AckState} (kept : Bookkept state) (left : List (Nat × Nat)) :
    Bookkept { state with best := left } :=
  bookkept_iff.mpr ⟨kept.ordered, kept.within⟩

/-- A call keeps the book where it counts its frame. -/
theorem bookkept_step {state : AckState} {op : Op} (kept : Bookkept state)
    (counted : Counted state op) : Bookkept (step state op).2 := by
  cases op with
  | opened => exact bookkept_iff.mpr ⟨kept.ordered, kept.within⟩
  | closed => exact bookkept_iff.mpr ⟨List.Pairwise.nil, by simp [step, closed]⟩
  | sent time => exact bookkept_sent kept counted
  | acked count time => exact bookkept_acked kept count time
  | admits now slack =>
      obtain ⟨left, isLeft, -⟩ := admits_eq state now slack
      simp only [step, isLeft]
      exact bookkept_of_best kept left
  | best now => exact bookkept_of_best kept _

/-- A frame handed over while the guest is ahead waits with a number that is acknowledged. -/
theorem notAhead_of_bookkept {state : AckState} {op : Op} (kept : Bookkept (step state op).2) :
    NotAhead state op := by
  rintro time rfl live
  have last : (saturatingAdd64 state.sent 1, time) ∈ (step state (.sent time)).2.inFlight := by
    simp [step, sent, live]
  have isAcked : (step state (.sent time)).2.acked = state.acked := by simp [step, sent, live]
  have above := (kept.within _ last).1
  rw [isAcked, UInt64.lt_iff_toNat_lt, toNat_saturatingAdd64, UInt64.toNat_one] at above
  rw [UInt64.le_iff_toNat_le]
  omega

/-! ## Delays -/

theorem tracks_step {state : AckState} {op : Op} {taken : List (Nat × Nat)} {t : Nat}
    (tracks : SlidingMin.Tracks mediaAckBestWindow taken state.best t)
    (now : ∀ time ∈ op.time?, time = t) :
    SlidingMin.Tracks mediaAckBestWindow (taken ++ (noted (Event.of step state op)).toList)
      (step state op).2.best t := by
  cases op with
  | opened => simpa [noted, step, opened] using tracks
  | closed => simpa [noted, step, closed] using tracks
  | sent time =>
      have same : (sent state time).best = state.best := by
        unfold sent
        split <;> rfl
      simpa [noted, step, same] using tracks
  | acked count time =>
      obtain rfl : time = t := now time rfl
      by_cases old : count ≤ state.acked
      · simpa [noted, step, old, acked_of_le time old] using tracks
      · obtain ⟨last, jitter, isAcked⟩ := acked_eq state time old
        have isNoted : noted (Event.of step state (.acked count time)) =
            (newest state count).map fun frame => (time, time - frame.2) := if_neg old
        simp only [isNoted, step, isAcked]
        cases newest state count with
        | none => simpa using tracks
        | some frame => exact tracks.note (time - frame.2) (Nat.le_refl time)
  | admits time slack =>
      obtain rfl : time = t := now time rfl
      obtain ⟨left, isLeft, unchanged | pruned⟩ := admits_eq state time slack
      · simpa [noted, step, isLeft, unchanged] using tracks
      · simpa [noted, step, isLeft, pruned] using tracks.prune (Nat.le_refl time)
  | best time =>
      obtain rfl : time = t := now time rfl
      simpa [noted, step, best, AckState.bestDelay] using tracks.prune (Nat.le_refl time)

/-- The queue of delays stands for all that a run with its times in order has noted. -/
theorem tracks_exec (ops : List Op) {t : Nat}
    (ordered : (ops.filterMap Op.time?).Pairwise (· ≤ ·))
    (early : ∀ time ∈ ops.filterMap Op.time?, time ≤ t) :
    SlidingMin.Tracks mediaAckBestWindow (notes ops) (exec step .new ops).best t := by
  -- One call more at the end: it happens at its own time, and `t` comes after that.
  induction ops using List.reverseRecOn generalizing t with
  | nil => exact SlidingMin.tracks_nil
  | append_singleton ops op ih =>
      rw [List.filterMap_append, List.pairwise_append] at ordered
      simp only [List.filterMap_append, List.mem_append] at early
      have taken : notes (ops ++ [op]) =
          notes ops ++ (noted (Event.of step (exec step .new ops) op)).toList := by
        simp only [notes, history_concat, List.filterMap_append]
        cases found : noted (Event.of step (exec step .new ops) op) <;> simp [found]
      rw [taken, exec_concat]
      cases found : op.time? with
      | none =>
          exact tracks_step (ih ordered.1 fun time member => early time (.inl member))
            (by simp [found])
      | some now =>
          have last : now ∈ [op].filterMap Op.time? := by simp [found]
          have before := ih ordered.1 fun time member => ordered.2.2 time member now last
          exact (tracks_step before (by simp [found])).mono (early now (.inr last))

/-! ## Whole runs -/

/-- For every run with its times in order: where every frame is handed over with the guest not
ahead (and the counter not at its end), every state reached has its frames in flight in order,
above `acked` and not above `sent`, and acknowledging all that is sent leaves none in flight; a
frame handed over with the guest ahead breaks that; and `best` is the least delay noted in the
window whatever the guest says. -/
theorem frames_in_flight_kept_unless_ahead (ops : List Op) (now : Nat)
    (ordered : (ops.filterMap Op.time?).Pairwise (· ≤ ·))
    (late : ∀ time ∈ ops.filterMap Op.time?, time ≤ now) :
    ((∀ e ∈ history step .new ops, Counted e.pre e.op) →
      ∀ e ∈ history step .new ops, Bookkept e.post) ∧
    ((∀ e ∈ history step .new ops, Bookkept e.post) →
      ∀ e ∈ history step .new ops, NotAhead e.pre e.op) ∧
    (∀ delay, (best (exec step .new ops) now).1 = some delay ↔
      IsLeast (SlidingMin.recent mediaAckBestWindow now (notes ops)) delay) ∧
    ((best (exec step .new ops) now).1 = none ↔
      SlidingMin.recent mediaAckBestWindow now (notes ops) = ∅) := by
  have start : Bookkept .new := bookkept_iff.mpr ⟨List.Pairwise.nil, by simp [AckState.new]⟩
  have tracks := tracks_exec ops ordered late
  refine ⟨?_, ?_, fun delay => tracks.front_eq_some (Nat.le_refl now),
    tracks.front_eq_none (Nat.le_refl now)⟩
  · intro counted e member
    exact (history_induction (fun _ _ => bookkept_step) start counted e member).2
  · intro kept e member
    have here := kept e member
    rw [eq_of_mem_history member] at here
    exact notAhead_of_bookkept here

/-- Two frames, each acknowledged in its turn. -/
theorem frames_in_flight_kept_in_turn :
    (∀ e ∈ history step .new [.opened, .sent 10, .acked 1 30, .sent 40, .acked 2 50],
      Bookkept e.post) ∧
    (best (exec step .new [.opened, .sent 10, .acked 1 30, .sent 40, .acked 2 50]) 60).1 =
      some 10 := by
  have run := frames_in_flight_kept_unless_ahead
    [.opened, .sent 10, .acked 1 30, .sent 40, .acked 2 50] 60 (by decide) (by decide)
  refine ⟨run.1 ?_, rfl⟩
  simp [Counted, NotAhead, Event.of, step, opened, sent, acked, newest, AckState.new,
    AckState.noteDelay, saturatingAdd64]

/-- A guest that acknowledges a frame too many before it is sent: the frame stays in flight, and
its acknowledgement changes nothing. -/
theorem frame_waits_for_a_guest_ahead :
    ¬∀ ops : List Op, (ops.filterMap Op.time?).Pairwise (· ≤ ·) →
      ∀ e ∈ history step .new ops, Bookkept e.post := by
  intro all
  have kept := all [.opened, .acked 1 10, .sent 20] (by decide)
    (Event.of step (exec step .new [.opened, .acked 1 10]) (.sent 20)) (by simp)
  have stuck : (acked (exec step .new [.opened, .acked 1 10, .sent 20]) 1 30).inFlight = [(1, 20)] := rfl
  have drained := kept.drains 30
  cases drained.symm.trans stuck

end Lumepeer.Runtime.FrameAcks
