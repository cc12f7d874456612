import Lumepeer.Runtime.View
import Mathlib.Algebra.GroupWithZero.Nat
import Mathlib.Data.List.Basic

/-!
# No gap is hidden

A pushed frame is known by the number of its call, and its fate is decided by
the first call from its push on that empties the queue: a drain returns it, a
desync or an overflowing push discards it. The queue holds the frames that no
call has emptied yet, and its flag is up from a discard to the next drain.
-/

namespace Lumepeer.Runtime.BitstreamFeed
open Lumepeer.Lib

/-- The states of a feed before each call of a run. -/
def before (ops : List Op) (n : Nat) : BitstreamQueue := exec step new (ops.take n)

/-- The call is a drain. -/
def Op.isDrain : Op → Bool
  | .drain => true
  | _ => false

/-- The frame that a call pushes. -/
def Op.frame? : Op → Option EncodedFrame
  | .push frame => some frame
  | _ => none

/-- The frame pushed by the call of number `i`. -/
def frameAt (ops : List Op) (i : Nat) : Option EncodedFrame := ops[i]?.bind Op.frame?

/-- A push that finds no room for its frame. -/
def overflows (queue : BitstreamQueue) (frame : EncodedFrame) : Bool :=
  queue.frames.length + 1 > bitstreamQueueFrames ||
    queue.bytes + frame.data.length > bitstreamQueueBytes

/-- A call that throws the queue's frames away: a desync, or a push that overflows. -/
def discards (queue : BitstreamQueue) : Op → Bool
  | .push frame => overflows queue frame
  | .desync => true
  | .drain => false

/-- What becomes of a pushed frame, with the number of the call that decides it. -/
inductive Fate where
  | returned (call : Nat)
  | discarded (call : Nat)
  | queued
  deriving DecidableEq

/-- The frames of one fate, in push order. -/
def framesOf (ops : List Op) (fate : Nat → Fate) (which : Fate) : List EncodedFrame :=
  (List.range ops.length).filterMap fun i => if fate i = which then frameAt ops i else none

/-- The drain of number `k` says that the stream was broken. -/
def Flagged (ops : List Op) (k : Nat) : Prop :=
  ∃ e frames, (history step new ops)[k]? = some e ∧ e.op = .drain ∧ e.out = some (frames, true)

/-- The call of number `k` throws frames away. -/
def Discards (ops : List Op) (k : Nat) : Prop :=
  ∃ e, (history step new ops)[k]? = some e ∧ discards e.pre e.op = true

/-- Every pushed frame has one fate, which the calls bear out, and no gap is hidden. -/
structure Accounted (ops : List Op) (fate : Nat → Fate) : Prop where
  /-- A drain returns the frames whose fate it is, and no other. -/
  returned : ∀ k e, (history step new ops)[k]? = some e → e.op = .drain →
    (e.out.getD ([], false)).1 = framesOf ops fate (.returned k)
  /-- It is a drain that returns a frame, after its push. -/
  later : ∀ i k, (frameAt ops i).isSome → fate i = .returned k → i < k ∧ ops[k]? = some .drain
  /-- It is an overflow or a desync that discards a frame, not before its push. -/
  discarded : ∀ i k, (frameAt ops i).isSome → fate i = .discarded k → i ≤ k ∧ Discards ops k
  /-- What is neither returned nor discarded is in the queue. -/
  queued : (exec step new ops).frames = framesOf ops fate .queued
  /-- A gap between two returned frames is announced after the discard and with the later frame
  at the latest. -/
  gap : ∀ i j l a m b, (frameAt ops i).isSome → (frameAt ops j).isSome → (frameAt ops l).isSome →
    i < j → j < l → fate i = .returned a → fate j = .discarded m → fate l = .returned b →
    ∃ k, m < k ∧ k ≤ b ∧ Flagged ops k

theorem push_eq (queue : BitstreamQueue) (frame : EncodedFrame) :
    push queue frame =
      if overflows queue frame then { frames := [], bytes := 0, desync := true }
      else
        { queue with
          frames := queue.frames ++ [frame]
          bytes := queue.bytes + frame.data.length } := by
  -- A count that saturates is beyond the bound anyway.
  have bound : bitstreamQueueBytes < 2 ^ 64 - 1 := by decide
  unfold push overflows
  simp only [List.length_append, List.length_singleton, Bool.or_eq_true, decide_eq_true_eq]
  split
  · rw [if_pos (by omega)]
  · rw [if_neg (by omega), Nat.min_eq_left (by omega)]

/-- A call that leaves nothing in the queue. -/
def empties (queue : BitstreamQueue) (op : Op) : Bool := op.isDrain || discards queue op

/-- A call empties the queue or puts its frame behind what is there. -/
theorem frames_step (queue : BitstreamQueue) (op : Op) :
    (step queue op).2.frames = if empties queue op then [] else queue.frames ++ op.frame?.toList := by
  cases op with
  | push frame =>
      simp only [step, push_eq, empties, Op.isDrain, discards, Bool.false_or, Op.frame?]
      split <;> rfl
  | desync => rfl
  | drain =>
      simp only [step, drain, empties, Op.isDrain, Bool.true_or, if_true]
      split
      · rename_i nothing
        simp only [Bool.and_eq_true, List.isEmpty_iff] at nothing
        exact nothing.1
      · rfl

/-- The flag goes up with a discard and down with a drain. -/
theorem desync_step (queue : BitstreamQueue) (op : Op) :
    (step queue op).2.desync = (discards queue op || queue.desync && !op.isDrain) := by
  cases op with
  | push frame =>
      simp only [step, push_eq, discards, Op.isDrain]
      split <;> simp_all
  | desync => rfl
  | drain =>
      simp only [step, drain, discards, Op.isDrain]
      split <;> simp_all

/-- A drain answers with what the queue holds. -/
theorem drain_frames (queue : BitstreamQueue) : ((drain queue).1.getD ([], false)).1 = queue.frames := by
  unfold drain
  split
  · rename_i nothing
    simp only [Bool.and_eq_true, List.isEmpty_iff] at nothing
    exact nothing.1.symm
  · rfl

theorem drain_flag (queue : BitstreamQueue) :
    (∃ frames, (drain queue).1 = some (frames, true)) ↔ queue.desync = true := by
  unfold drain
  split <;> simp_all

/-- The calls that others make during a wait. -/
def Wait.others : Wait → List Op
  | .notified others => others
  | .timedOut others => others

section
variable {ops : List Op}

theorem before_succ {n : Nat} {op : Op} (called : ops[n]? = some op) :
    before ops (n + 1) = (step (before ops n) op).2 := by
  rw [before, List.take_add_one, called, Option.toList_some, exec_concat]
  rfl

theorem before_length : before ops ops.length = exec step new ops := by
  rw [before, List.take_length]

theorem flagged_iff {k : Nat} :
    Flagged ops k ↔ ops[k]? = some .drain ∧ (before ops k).desync = true := by
  simp only [Flagged, getElem?_history, Option.map_eq_some_iff]
  constructor
  · rintro ⟨_, frames, ⟨op, called, rfl⟩, isDrain, answer⟩
    rw [Event.of_op] at isDrain
    subst isDrain
    exact ⟨called, (drain_flag _).mp ⟨frames, answer⟩⟩
  · rintro ⟨called, flag⟩
    obtain ⟨frames, answer⟩ := (drain_flag _).mpr flag
    exact ⟨_, frames, ⟨_, called, rfl⟩, rfl, answer⟩

theorem discards_iff {k : Nat} :
    Discards ops k ↔ ∃ op, ops[k]? = some op ∧ discards (before ops k) op = true := by
  simp only [Discards, getElem?_history, Option.map_eq_some_iff]
  constructor
  · rintro ⟨_, ⟨op, called, rfl⟩, discarded⟩
    exact ⟨op, called, discarded⟩
  · rintro ⟨op, called, discarded⟩
    exact ⟨_, ⟨op, called, rfl⟩, discarded⟩

/-- The call of number `k` leaves nothing in the queue. -/
def emptiesAt (ops : List Op) (k : Nat) : Bool := ops[k]?.any (empties (before ops k))

/-- No call from `i` on empties the queue before the call `n`. -/
def stands (ops : List Op) (i n : Nat) : Bool := (List.range' i (n - i)).all fun k => !emptiesAt ops k

theorem stands_iff {i n : Nat} :
    stands ops i n = true ↔ ∀ k, i ≤ k → k < n → emptiesAt ops k = false := by
  simp only [stands, List.all_eq_true, List.mem_range'_1, Bool.not_eq_true']
  constructor
  · intro all k low high
    exact all k ⟨low, by omega⟩
  · intro all k within
    exact all k within.1 (by omega)

/-- The queue holds the frames pushed since it was last emptied. -/
theorem frames_before {n : Nat} (within : n ≤ ops.length) :
    (before ops n).frames =
      (List.range n).filterMap fun i => if stands ops i n then frameAt ops i else none := by
  induction n with
  | zero => simp [before, new]
  | succ n ih =>
      obtain ⟨op, called⟩ : ∃ op, ops[n]? = some op := ⟨_, List.getElem?_eq_getElem within⟩
      have here : emptiesAt ops n = empties (before ops n) op := by simp [emptiesAt, called]
      rw [before_succ called, frames_step]
      split
      · rename_i emptied
        symm
        rw [List.filterMap_eq_nil_iff]
        intro i member
        rw [if_neg]
        intro standing
        have kept := stands_iff.mp standing n (by simpa [Nat.lt_succ_iff] using member) (by omega)
        simp [here, emptied] at kept
      · rename_i kept
        have same : ∀ i ≤ n, stands ops i (n + 1) = stands ops i n := by
          intro i low
          rw [Bool.eq_iff_iff, stands_iff, stands_iff]
          constructor
          · intro all k first last
            exact all k first (by omega)
          · intro all k first last
            by_cases isLast : k = n
            · subst isLast
              simpa [here] using kept
            · exact all k first (by omega)
        have new : stands ops n n = true := by simp [stands]
        rw [ih (by omega), List.range_succ, List.filterMap_append]
        congr 1
        · apply List.filterMap_congr
          intro i member
          rw [same i (Nat.le_of_lt (List.mem_range.mp member))]
        · have last := same n (Nat.le_refl n)
          cases op <;> simp [frameAt, called, Op.frame?, last, new]

/-! ## Fates -/

/-- The fate of the frame of call `i` is decided by the first call that empties the queue. -/
def fate (ops : List Op) (i : Nat) : Fate :=
  match (List.range' i (ops.length - i)).find? (emptiesAt ops) with
  | none => .queued
  | some k => if ops[k]?.any Op.isDrain then .returned k else .discarded k

theorem isDrain_iff {op : Op} : op.isDrain = true ↔ op = .drain := by
  cases op <;> simp [Op.isDrain]

theorem drain_iff {k : Nat} : ops[k]?.any Op.isDrain = true ↔ ops[k]? = some .drain := by
  simp [Option.any_eq_true_iff_get, isDrain_iff, Option.eq_some_iff_get_eq]

theorem emptiesAt_of_drain {k : Nat} (called : ops[k]? = some .drain) : emptiesAt ops k = true := by
  simp [emptiesAt, called, empties, Op.isDrain]

theorem emptiesAt_iff {k : Nat} :
    emptiesAt ops k = true ↔ ops[k]? = some .drain ∨ Discards ops k := by
  rw [discards_iff]
  constructor
  · intro emptied
    obtain ⟨op, called, empty⟩ := (Option.any_eq_true _ _).mp emptied
    simp only [empties, Bool.or_eq_true, isDrain_iff] at empty
    rcases empty with rfl | discarded
    · exact .inl called
    · exact .inr ⟨op, called, discarded⟩
  · rintro (called | ⟨op, called, discarded⟩)
    · exact emptiesAt_of_drain called
    · simp [emptiesAt, called, empties, discarded]

theorem fate_eq_queued {i : Nat} : fate ops i = .queued ↔ stands ops i ops.length = true := by
  unfold fate
  split
  · rename_i none
    simp only [List.find?_eq_none, Bool.not_eq_true] at none
    simpa [stands] using none
  · rename_i k found
    have emptied := List.find?_some found
    have member := List.mem_of_find?_eq_some found
    rw [List.mem_range'_1] at member
    have falls : stands ops i ops.length ≠ true := by
      intro standing
      have kept := stands_iff.mp standing k member.1 (by omega)
      simp [emptied] at kept
    split <;> simp [falls]

/-- The frame is the one that call `k` decides about. -/
theorem find_eq {i k : Nat} :
    (List.range' i (ops.length - i)).find? (emptiesAt ops) = some k ↔
      i ≤ k ∧ k < ops.length ∧ stands ops i k = true ∧ emptiesAt ops k = true := by
  rw [List.find?_range'_eq_some, List.mem_range'_1, stands_iff]
  simp only [Bool.not_eq_true']
  constructor
  · rintro ⟨emptied, within, kept⟩
    exact ⟨within.1, by omega, kept, emptied⟩
  · rintro ⟨low, high, kept, emptied⟩
    exact ⟨emptied, ⟨low, by omega⟩, kept⟩

theorem fate_eq_returned {i k : Nat} :
    fate ops i = .returned k ↔ i ≤ k ∧ stands ops i k = true ∧ ops[k]? = some .drain := by
  unfold fate
  constructor
  · intro decided
    split at decided
    · cases decided
    · rename_i call found
      obtain ⟨low, -, standing, -⟩ := find_eq.mp found
      split at decided
      · rename_i drained
        cases decided
        exact ⟨low, standing, drain_iff.mp drained⟩
      · cases decided
  · rintro ⟨low, standing, called⟩
    have found := find_eq.mpr ⟨low, (List.getElem?_eq_some_iff.mp called).1, standing,
      emptiesAt_of_drain called⟩
    simp [found, called, Op.isDrain]

theorem fate_eq_discarded {i k : Nat} (decided : fate ops i = .discarded k) :
    i ≤ k ∧ stands ops i k = true ∧ Discards ops k := by
  unfold fate at decided
  split at decided
  · cases decided
  · rename_i call found
    obtain ⟨low, -, standing, emptied⟩ := find_eq.mp found
    split at decided
    · cases decided
    · rename_i other
      cases decided
      rw [drain_iff] at other
      exact ⟨low, standing, (emptiesAt_iff.mp emptied).resolve_left other⟩

/-- Frames beyond a call have no part in what it decides. -/
theorem filterMap_range {f : Nat → Option EncodedFrame} {k n : Nat} (le : k ≤ n)
    (none : ∀ i, k ≤ i → f i = none) : (List.range n).filterMap f = (List.range k).filterMap f := by
  induction le with
  | refl => rfl
  | @step n low ih => simp [List.range_succ, ih, none n low]

/-! ## The flag -/

/-- A discard is announced by a drain or the flag is still up. -/
theorem discard_announced {m n : Nat} (discarded : Discards ops m) (low : m < n)
    (within : n ≤ ops.length) :
    (∃ k, m < k ∧ k < n ∧ Flagged ops k) ∨ (before ops n).desync = true := by
  induction low with
  | refl =>
      obtain ⟨op, called, discard⟩ := discards_iff.mp discarded
      rw [Nat.succ_eq_add_one, before_succ called, desync_step, discard]
      exact .inr rfl
  | @step n low ih =>
      obtain ⟨op, called⟩ : ∃ op, ops[n]? = some op := ⟨_, List.getElem?_eq_getElem within⟩
      rcases ih (by omega) with ⟨k, first, last, flagged⟩ | up
      · exact .inl ⟨k, first, by omega, flagged⟩
      · rw [before_succ called, desync_step, up]
        by_cases drained : op = .drain
        · subst drained
          exact .inl ⟨n, low, by omega, flagged_iff.mpr ⟨called, up⟩⟩
        · have other : op.isDrain = false := by rwa [← Bool.not_eq_true, isDrain_iff]
          exact .inr (by simp [other])

/-! ## Whole runs -/

theorem accounted (ops : List Op) : Accounted ops (fate ops) where
  returned k e called isDrain := by
    rw [getElem?_history, Option.map_eq_some_iff] at called
    obtain ⟨op, called, rfl⟩ := called
    rw [Event.of_op] at isDrain
    subst isDrain
    have within := (List.getElem?_eq_some_iff.mp called).1
    change ((drain (before ops k)).1.getD ([], false)).1 = _
    rw [drain_frames, frames_before (Nat.le_of_lt within), framesOf,
      filterMap_range (Nat.le_of_lt within)]
    · apply List.filterMap_congr
      intro i member
      have low := List.mem_range.mp member
      by_cases standing : stands ops i k = true
      · rw [if_pos standing, if_pos (fate_eq_returned.mpr ⟨Nat.le_of_lt low, standing, called⟩)]
      · rw [if_neg standing, if_neg]
        intro decided
        exact standing (fate_eq_returned.mp decided).2.1
    · intro i low
      split
      · rename_i decided
        have here : i = k := Nat.le_antisymm (fate_eq_returned.mp decided).1 low
        simp [here, frameAt, called, Op.frame?]
      · rfl
  later i k pushed decided := by
    obtain ⟨low, -, called⟩ := fate_eq_returned.mp decided
    refine ⟨Nat.lt_of_le_of_ne low ?_, called⟩
    rintro rfl
    simp [frameAt, called, Op.frame?] at pushed
  discarded i k _ decided := by
    obtain ⟨low, -, discarded⟩ := fate_eq_discarded decided
    exact ⟨low, discarded⟩
  queued := by
    rw [← before_length, frames_before (Nat.le_refl _), framesOf]
    simp only [fate_eq_queued]
  gap i j l a m b _ _ pushed _ between _ dropped returned := by
    obtain ⟨low, standing, discarded⟩ := fate_eq_discarded dropped
    obtain ⟨behind, -, drained⟩ := fate_eq_returned.mp returned
    have within := (List.getElem?_eq_some_iff.mp drained).1
    -- A drain before the discard would have returned the frame that the discard lost.
    have order : m < b := by
      by_contra early
      by_cases same : b = m
      · subst same
        obtain ⟨op, called, discard⟩ := discards_iff.mp discarded
        rw [drained, Option.some.injEq] at called
        simp [← called, discards] at discard
      · have kept := stands_iff.mp standing b (by omega) (by omega)
        simp [emptiesAt_of_drain drained] at kept
    rcases discard_announced discarded order (Nat.le_of_lt within) with ⟨k, first, last, flagged⟩ | up
    · exact ⟨k, first, Nat.le_of_lt last, flagged⟩
    · exact ⟨b, order, Nat.le_refl b, flagged_iff.mpr ⟨drained, up⟩⟩

end

end Lumepeer.Runtime.BitstreamFeed
