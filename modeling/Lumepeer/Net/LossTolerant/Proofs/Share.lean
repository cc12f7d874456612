import Lumepeer.Lib.HalfLife
import Lumepeer.Net.LossTolerant

/-!
# What the loss share forgets

The counts are halved once by the call that ends a silence, however long it was,
and not at all by a reading of the window. So what was counted before a silence
is forgotten by halves exactly if the silence was shorter than two half-lives,
or than one where the window is read, or if there was nothing to forget.
-/

namespace Lumepeer.Net.LossTolerant
open Lumepeer.Lib Lumepeer.Core

universe u
variable {κ ρ ω : Type u}

/-- When a call is made, as far as the counts are concerned. -/
def Op.time : Op ρ ω → Option Instant
  | .onAck now .. | .onCongestionEvent now .. | .window now => some now
  | .other _ => none

/-- When a call counts something. -/
def Op.noted : Op ρ ω → Option Instant
  | .onAck now .. | .onCongestionEvent now .. => some now
  | .window _ | .other _ => none

/-- The times of the calls of a run do not decrease. -/
def Ordered (start : Instant) (ops : List (Op ρ ω)) : Prop :=
  (start :: ops.filterMap Op.time).Pairwise (· ≤ ·)

/-- When something was last counted. -/
def lastNoted (start : Instant) : List (Op ρ ω) → Instant
  | [] => start
  | op :: ops => lastNoted (op.noted.getD start) ops

/-- How long nothing had been counted when this call came. -/
def idle (start : Instant) (before : List (Op ρ ω)) (op : Op ρ ω) : Duration :=
  (op.time.map fun now => now - lastNoted start before).getD 0

/-- What is left of the counts where a call decides by them: `acked` and `lost`. -/
def carried (s : LossTolerant κ) : Op ρ ω → UInt64 × UInt64
  | .onAck now .. | .onCongestionEvent now .. => ((s.decay now).acked, (s.decay now).lost)
  | .window _ | .other _ => (s.acked, s.lost)

/-- What a call counts itself. -/
def added : Op ρ ω → UInt64 × UInt64
  | .onAck _ _ bytes .. => (bytes, 0)
  | .onCongestionEvent _ _ _ _ lostBytes _ => (0, lostBytes)
  | .window _ | .other _ => (0, 0)

/-- The counts from before the call are forgotten by halves; the window depends on `acked` only. -/
def Forgotten (s : LossTolerant κ) (idle : Duration) (op : Op ρ ω) : Prop :=
  match op with
  | .onAck .. | .onCongestionEvent .. =>
      Forgets shareHalfLife idle s.acked.toNat (carried s op).1.toNat ∧
        Forgets shareHalfLife idle s.lost.toNat (carried s op).2.toNat
  | .window _ => Forgets shareHalfLife idle s.acked.toNat (carried s op).1.toNat
  | .other _ => True

/-- The silence before the call was short, or there was nothing to forget. -/
def Recent (s : LossTolerant κ) (idle : Duration) : Op ρ ω → Prop
  | .onAck .. | .onCongestionEvent .. =>
      idle < 2 * shareHalfLife ∨ s.acked.toNat ≤ 1 ∧ s.lost.toNat ≤ 1
  | .window _ => idle < shareHalfLife ∨ s.acked.toNat = 0
  | .other _ => True

theorem decay_late {s : LossTolerant κ} {now : Instant} (late : shareHalfLife ≤ now - s.since) :
    s.decay now = { s with acked := s.acked / 2, lost := s.lost / 2, since := now } :=
  if_pos late

theorem decay_soon {s : LossTolerant κ} {now : Instant} (soon : now - s.since < shareHalfLife) :
    s.decay now = s :=
  if_neg (Nat.not_le.mpr soon)

theorem decay_since_le {s : LossTolerant κ} {now : Instant} (past : s.since ≤ now) :
    (s.decay now).since ≤ now := by
  by_cases late : shareHalfLife ≤ now - s.since
  · exact Nat.le_of_eq (congrArg LossTolerant.since (decay_late late))
  · rw [decay_soon (Nat.not_le.mp late)]
    exact past

theorem noteRtt_counts (s : LossTolerant κ) (minRtt : Duration) :
    (s.noteRtt minRtt).acked = s.acked ∧ (s.noteRtt minRtt).lost = s.lost ∧
      (s.noteRtt minRtt).since = s.since := by
  unfold noteRtt
  split <;> exact ⟨rfl, rfl, rfl⟩

theorem onAck_counts (c : Controller κ ρ ω) (s : LossTolerant κ) (now sent : Instant)
    (bytes pn : UInt64) (appLimited : Bool) (rtt : ρ) :
    (s.onAck c now sent bytes pn appLimited rtt).acked =
        saturatingAdd64 (s.decay now).acked bytes ∧
      (s.onAck c now sent bytes pn appLimited rtt).lost = (s.decay now).lost ∧
      (s.onAck c now sent bytes pn appLimited rtt).since = (s.decay now).since :=
  noteRtt_counts (s.noteAcked now bytes) (c.rttMin rtt)

theorem onCongestionEvent_counts (c : Controller κ ρ ω) (s : LossTolerant κ) (now sent : Instant)
    (isPersistentCongestion isEcn : Bool) (lostBytes largestLostPn : UInt64) :
    let s' := s.onCongestionEvent c now sent isPersistentCongestion isEcn lostBytes largestLostPn
    s'.acked = (s.decay now).acked ∧ s'.lost = saturatingAdd64 (s.decay now).lost lostBytes ∧
      s'.since = (s.decay now).since := by
  unfold onCongestionEvent
  simp only
  split <;> exact ⟨rfl, rfl, rfl⟩

/-- The counts a call leaves are those it carried over and its own. -/
theorem step_counts (c : Controller κ ρ ω) (s : LossTolerant κ) (op : Op ρ ω) :
    (step c s op).2.acked = saturatingAdd64 (carried s op).1 (added op).1 ∧
      (step c s op).2.lost = saturatingAdd64 (carried s op).2 (added op).2 := by
  have none (n : UInt64) : n = saturatingAdd64 n 0 := by
    rw [← UInt64.toNat_inj, toNat_saturatingAdd64, UInt64.toNat_zero, Nat.add_zero]
    exact (Nat.min_eq_left (Nat.le_pred_of_lt n.toNat_lt)).symm
  cases op with
  | onAck now sent bytes pn appLimited rtt =>
      obtain ⟨acked, lost, -⟩ := onAck_counts c s now sent bytes pn appLimited rtt
      exact ⟨acked, lost.trans (none _)⟩
  | onCongestionEvent now sent persistent ecn lostBytes largestLostPn =>
      obtain ⟨acked, lost, -⟩ :=
        onCongestionEvent_counts c s now sent persistent ecn lostBytes largestLostPn
      exact ⟨acked.trans (none _), lost⟩
  | window now => exact ⟨none _, none _⟩
  | other call => exact ⟨none _, none _⟩

/-- A call counts at its own time, and the counts were halved no later than that. -/
theorem step_since_le (c : Controller κ ρ ω) {s : LossTolerant κ} {start : Instant} {op : Op ρ ω}
    (past : s.since ≤ start) (later : ∀ now ∈ op.time, start ≤ now) :
    (step c s op).2.since ≤ op.noted.getD start := by
  cases op with
  | onAck now sent bytes pn appLimited rtt =>
      obtain ⟨-, -, since⟩ := onAck_counts c s now sent bytes pn appLimited rtt
      have ahead : start ≤ now := later now rfl
      show (s.onAck c now sent bytes pn appLimited rtt).since ≤ now
      rw [since]
      exact decay_since_le (Nat.le_trans past ahead)
  | onCongestionEvent now sent persistent ecn lostBytes largestLostPn =>
      obtain ⟨-, -, since⟩ :=
        onCongestionEvent_counts c s now sent persistent ecn lostBytes largestLostPn
      have ahead : start ≤ now := later now rfl
      show (s.onCongestionEvent c now sent persistent ecn lostBytes largestLostPn).since ≤ now
      rw [since]
      exact decay_since_le (Nat.le_trans past ahead)
  | window now => exact past
  | other call => exact past

theorem Ordered.first {start : Instant} {op : Op ρ ω} {ops : List (Op ρ ω)}
    (ordered : Ordered start (op :: ops)) : ∀ now ∈ op.time, start ≤ now := by
  intro now isTime
  unfold Ordered at ordered
  rw [List.filterMap_cons_some isTime] at ordered
  exact List.rel_of_pairwise_cons ordered (List.mem_cons_self ..)

theorem Ordered.rest {start : Instant} {op : Op ρ ω} {ops : List (Op ρ ω)}
    (ordered : Ordered start (op :: ops)) : Ordered (op.noted.getD start) ops := by
  unfold Ordered at ordered ⊢
  cases op with
  | onAck now => exact ordered.of_cons
  | onCongestionEvent now => exact ordered.of_cons
  | window now =>
      exact ordered.sublist ((List.sublist_cons_self _ _).cons_cons start)
  | other call => exact ordered

/-- In every run the counts were last halved no later than the last time something was counted. -/
theorem since_le_lastNoted (c : Controller κ ρ ω) {s : LossTolerant κ} {start : Instant}
    {ops : List (Op ρ ω)} (past : s.since ≤ start) (ordered : Ordered start ops) :
    (exec (step c) s ops).since ≤ lastNoted start ops := by
  induction ops generalizing s start with
  | nil => exact past
  | cons op ops ih => exact ih (step_since_le c past ordered.first) ordered.rest

theorem Ordered.before {start : Instant} {before after : List (Op ρ ω)}
    (ordered : Ordered start (before ++ after)) : Ordered start before := by
  unfold Ordered at ordered ⊢
  rw [List.filterMap_append, ← List.cons_append] at ordered
  exact (List.pairwise_append.mp ordered).1

/-- One call forgets by halves exactly if the silence before it was short enough for what there was
to forget. -/
theorem forgotten_iff_recent {s : LossTolerant κ} {start : Instant} {before : List (Op ρ ω)}
    (past : s.since ≤ lastNoted start before) (op : Op ρ ω) :
    Forgotten s (idle start before op) op ↔ Recent s (idle start before op) op := by
  have counting (now : Instant) :
      (Forgets shareHalfLife (now - lastNoted start before) s.acked.toNat
          (s.decay now).acked.toNat ∧
        Forgets shareHalfLife (now - lastNoted start before) s.lost.toNat
          (s.decay now).lost.toNat) ↔
      now - lastNoted start before < 2 * shareHalfLife ∨
        s.acked.toNat ≤ 1 ∧ s.lost.toNat ≤ 1 := by
    by_cases late : shareHalfLife ≤ now - s.since
    · rw [decay_late late]
      simp only [UInt64.toNat_div, UInt64.reduceToNat]
      rw [forgets_half_iff, forgets_half_iff, or_and_left]
    · rw [decay_soon (Nat.not_le.mp late)]
      have soon : now - lastNoted start before < shareHalfLife :=
        Nat.lt_of_le_of_lt (Nat.sub_le_sub_left past now) (Nat.not_le.mp late)
      constructor
      · intro _
        exact .inl (Nat.lt_of_lt_of_le soon (Nat.le_mul_of_pos_left _ Nat.two_pos))
      · intro _
        exact ⟨forgets_of_idle_lt soon (Nat.le_refl _), forgets_of_idle_lt soon (Nat.le_refl _)⟩
  cases op with
  | onAck now sent bytes pn appLimited rtt => exact counting now
  | onCongestionEvent now sent persistent ecn lostBytes largestLostPn => exact counting now
  | window now => exact forgets_self_iff
  | other call => exact Iff.rfl

/-- At every call of every run the counts are what the call carried over and its own, and what it
carried over was forgotten by halves exactly if the silence before it was short or there was nothing
to forget. -/
theorem forgets_iff (c : Controller κ ρ ω) (inner : κ) (start : Instant) (ops : List (Op ρ ω))
    (ordered : Ordered start ops) :
    ∀ before op after, ops = before ++ op :: after →
      let s := exec (step c) (around inner start) before
      ((step c s op).2.acked = saturatingAdd64 (carried s op).1 (added op).1 ∧
        (step c s op).2.lost = saturatingAdd64 (carried s op).2 (added op).2) ∧
      (Forgotten s (idle start before op) op ↔ Recent s (idle start before op) op) := by
  rintro before op after rfl
  have past : (exec (step c) (around inner start) before).since ≤ lastNoted start before :=
    since_le_lastNoted c (Nat.le_refl start) ordered.before
  exact ⟨step_counts c _ op, forgotten_iff_recent past op⟩

/-- A controller that does nothing of its own. -/
def sampleController : Controller Unit Duration Unit where
  onAck _ _ _ _ _ _ _ := ()
  onCongestionEvent _ _ _ _ _ _ _ := ()
  other _ _ := ()
  window _ := UInt64.ofNat (2 ^ 64 - 1)
  rttMin rtt := rtt

/-- A megabyte acknowledged, a silence, and four packets lost. -/
def sampleOps (silence : Duration) : List (Op Duration Unit) :=
  [.onAck 0 0 1000000 1 false (Duration.fromMillis 250),
    .onCongestionEvent silence 0 false false 4800 2]

theorem sampleOps_ordered (silence : Duration) : Ordered 0 (sampleOps silence) := by
  simp [Ordered, sampleOps, Op.time]

/-- After a second and a half the loss is judged by half of the megabyte, as it should be. -/
theorem forgets_soon :
    let op := .onCongestionEvent (Duration.fromMillis 1500) 0 false false 4800 2
    let before := (sampleOps (Duration.fromMillis 1500)).take 1
    Forgotten (exec (step sampleController) (around () 0) before) (idle 0 before op) op := by
  have iff := forgets_iff sampleController () 0 (sampleOps (Duration.fromMillis 1500))
    (sampleOps_ordered _) [_] _ [] rfl
  exact iff.2.mpr (.inl (by decide))

/-- After ten seconds half of the megabyte still judges the loss. -/
theorem not_forgets :
    ¬ ∀ (c : Controller Unit Duration Unit) (start : Instant) (ops : List (Op Duration Unit)),
      Ordered start ops → ∀ before op after, ops = before ++ op :: after →
        Forgotten (exec (step c) (around () start) before) (idle start before op) op := by
  intro all
  have forgotten := (all sampleController 0 (sampleOps (Duration.fromSecs 10))
    (sampleOps_ordered _) [_] _ [] rfl).1
  have tenth := forgotten 10 (by decide)
  revert tenth
  decide

end Lumepeer.Net.LossTolerant
