import Lumepeer.Core.License.Proofs.Guard

/-!
# When a check ends a rollback hold

An exchange clears the flag but keeps the high water mark, and the mark is the
highest reading of the whole run. The next `evaluate` compares with it again, so
a clock that once ran ahead is held against the install until the corrected
clock has caught up, however many exchanges succeed on the way.
-/

namespace Lumepeer.Core.LicenseGuard
open Lumepeer.Lib

/-- The refusal of a new session while a rollback is held. -/
def heldBack : LicenseDecision :=
  .denyNewSession "system clock rolled back; an online check is required"
    clockRollbackActiveSessionCutoffSecs

/-- The mark after a step is the mark before it or the reading the step was given. -/
theorem highWaterWall_step_mem (guard : LicenseGuard) (op : GuardOp) :
    (guard.step op).2.highWaterWall = guard.highWaterWall ∨
      op.reading = some (guard.step op).2.highWaterWall := by
  have lifted (now : UInt64) :
      max guard.highWaterWall now = guard.highWaterWall ∨ max guard.highWaterWall now = now := by
    rw [← UInt64.toNat_inj, ← UInt64.toNat_inj, toNat_max64]
    omega
  cases op with
  | evaluate now =>
      simp only [step, evaluate, observe, GuardOp.reading]
      split
      · exact .inl rfl
      · exact .inr rfl
  | onHeartbeat now =>
      rcases lifted now with kept | isNow
      · exact .inl kept
      · exact .inr (congrArg some isNow.symm)
  | onOnlineCheck token now =>
      rcases lifted now with kept | isNow
      · exact .inl kept
      · exact .inr (congrArg some isNow.symm)
  | addTrialSeconds elapsedSecs => exact .inl rfl

/-- The mark is one of the readings of the run. -/
theorem highWaterWall_mem_seen (token : Option LicenseToken) (start : UInt64)
    (ops : List GuardOp) : (run token start ops).highWaterWall ∈ seen start ops := by
  induction ops using List.reverseRecOn with
  | nil => exact List.mem_cons_self
  | append_singleton ops op ih =>
      rw [run, exec_concat, mem_seen_concat]
      rcases (run token start ops).highWaterWall_step_mem op with kept | lifted
      · rw [kept]
        exact .inl ih
      · exact .inr lifted

/-- The mark lets a reading pass exactly if no reading of the run was ahead of it. -/
theorem highWaterWall_le_iff {token : Option LicenseToken} {start time : UInt64}
    {ops : List GuardOp} :
    (run token start ops).highWaterWall ≤ time ↔ ∀ earlier ∈ seen start ops, earlier ≤ time := by
  constructor
  · intro passes earlier member
    exact UInt64.le_trans ((remembers_run token start ops).high earlier member) passes
  · intro behind
    exact behind _ (highWaterWall_mem_seen token start ops)

/-- An exchange takes the flag down and is remembered as the last one. -/
theorem step_exchange {guard : LicenseGuard} {op : GuardOp} {now : UInt64}
    (exchanged : op.exchange = some now) :
    (guard.step op).2.rollbackSeen = false ∧ (guard.step op).2.lastHeartbeatWall = now ∧
      op.reading = some now := by
  cases op with
  | evaluate _ => cases exchanged
  | onHeartbeat _ =>
      cases exchanged
      exact ⟨rfl, rfl, rfl⟩
  | onOnlineCheck _ _ =>
      cases exchanged
      exact ⟨rfl, rfl, rfl⟩
  | addTrialSeconds _ => cases exchanged

/-- The token `guard` holds is in force at `now`: valid, a trial with time left, and no longer
offline than the plan's grace. -/
structure InForce (guard : LicenseGuard) (held : LicenseToken) (now : UInt64) : Prop where
  token : guard.token = some held
  unspent : held.plan = .trial → guard.trialRemainingSecs ≠ 0
  valid : held.isValidAt now = true
  grace : ∀ days, held.plan.offlineGraceDays = some days →
    now.toNat - guard.lastHeartbeatWall.toNat ≤ days.toNat * secsPerDay.toNat

theorem graceElapsed_eq_false {guard : LicenseGuard} {held : LicenseToken} {now : UInt64}
    (inForce : guard.InForce held now) : guard.graceElapsed held.plan now = false := by
  unfold graceElapsed
  cases grace : held.plan.offlineGraceDays with
  | none => rfl
  | some days =>
      have within := inForce.grace days grace
      simp only [decide_eq_false_iff_not, UInt64.lt_iff_toNat_lt, toNat_saturatingMul64,
        toNat_saturatingSub64]
      have range := now.toNat_lt
      omega

/-- With a token in force only the flag decides. -/
theorem decide_of_inForce {guard : LicenseGuard} {held : LicenseToken} {now : UInt64}
    (inForce : guard.InForce held now) :
    (guard.rollbackSeen = true → guard.decide now = heldBack) ∧
      (guard.rollbackSeen = false → ∃ left, guard.decide now = .allow held.plan left) := by
  have unspent : ¬(held.plan = .trial ∧ guard.trialRemainingSecs = 0) := by
    rintro ⟨isTrial, spent⟩
    exact inForce.unspent isTrial spent
  unfold decide
  simp only [inForce.token, if_neg unspent]
  constructor
  · intro rolled
    rw [if_pos rolled]
    rfl
  · intro forward
    simp only [forward, inForce.valid, graceElapsed_eq_false inForce, Bool.not_true,
      Bool.false_eq_true, if_false]
    split
    · exact ⟨_, rfl⟩
    · exact ⟨_, rfl⟩

theorem inForce_observe {guard : LicenseGuard} {held : LicenseToken} {now : UInt64}
    (inForce : guard.InForce held now) : (guard.observe now).InForce held now where
  token := by rw [observe_token]; exact inForce.token
  unspent isTrial := by rw [observe_trialRemainingSecs]; exact inForce.unspent isTrial
  valid := inForce.valid
  grace days grace := by
    have sameExchange : (guard.observe now).lastHeartbeatWall = guard.lastHeartbeatWall :=
      guard.lastHeartbeatWall_step (.evaluate now)
    rw [sameExchange]
    exact inForce.grace days grace

/-- With the flag down and a token in force `evaluate` compares with the mark. -/
theorem evaluate_of_inForce {guard : LicenseGuard} {held : LicenseToken} {now : UInt64}
    (inForce : guard.InForce held now) (cleared : guard.rollbackSeen = false) :
    (guard.highWaterWall ≤ now → ∃ left, (guard.evaluate now).1 = .allow held.plan left) ∧
      (¬guard.highWaterWall ≤ now → (guard.evaluate now).1 = heldBack) := by
  have verdict := decide_of_inForce (inForce_observe inForce)
  unfold evaluate
  constructor
  · intro forward
    apply verdict.2
    rw [observe, if_neg (UInt64.not_lt.mpr forward)]
    exact cleared
  · intro rolled
    apply verdict.1
    rw [observe, if_pos (UInt64.not_le.mp rolled)]

/-- After an exchange at `now`, a token in force is allowed at a later time exactly if no
reading of the run before the exchange was ahead of that time; otherwise the hold is back. -/
theorem allows_after_exchange_iff (token : Option LicenseToken) (start : UInt64)
    (ops : List GuardOp) (check : GuardOp) (now later : UInt64) (held : LicenseToken)
    (exchanged : check.exchange = some now) (notBefore : now ≤ later)
    (inForce : (run token start (ops ++ [check])).InForce held later) :
    ((∃ left, ((run token start (ops ++ [check])).evaluate later).1 = .allow held.plan left) ↔
      ∀ earlier ∈ seen start ops, earlier ≤ later) ∧
    ((∃ earlier ∈ seen start ops, later < earlier) →
      ((run token start (ops ++ [check])).evaluate later).1 = heldBack) := by
  have isStep : run token start (ops ++ [check]) = ((run token start ops).step check).2 :=
    exec_concat ..
  obtain ⟨cleared, -, isReading⟩ := @step_exchange (run token start ops) check now exchanged
  rw [← isStep] at cleared
  obtain ⟨forward, back⟩ := evaluate_of_inForce inForce cleared
  have passes : (run token start (ops ++ [check])).highWaterWall ≤ later ↔
      ∀ earlier ∈ seen start ops, earlier ≤ later := by
    rw [highWaterWall_le_iff]
    constructor
    · intro behind earlier member
      exact behind earlier (mem_seen_concat.mpr (.inl member))
    · intro behind earlier member
      rcases mem_seen_concat.mp member with old | new
      · exact behind earlier old
      · rw [isReading] at new
        cases new
        exact notBefore
  rw [passes] at forward back
  have ahead : (∃ earlier ∈ seen start ops, later < earlier) →
      ((run token start (ops ++ [check])).evaluate later).1 = heldBack := by
    rintro ⟨earlier, member, isAhead⟩
    apply back
    intro behind
    exact absurd (behind earlier member) (UInt64.not_le.mpr isAhead)
  refine ⟨⟨?_, forward⟩, ahead⟩
  rintro ⟨left, allowed⟩
  by_contra notBehind
  rw [back notBehind] at allowed
  cases allowed

/-- A Pro token valid for as long as the clock counts. -/
def sampleToken : LicenseToken where
  version := tokenVersion
  keyId := 1
  licenseId := List.Vector.replicate 16 1
  plan := .pro
  deviceId := List.Vector.replicate 16 2
  issuedAt := 0
  notBefore := 0
  expiresAt := 4000000000
  features := 0
  payloadHash := List.Vector.replicate 32 0
  signature := List.Vector.replicate 64 0

theorem sampleToken_inForce {guard : LicenseGuard} (isToken : guard.token = some sampleToken)
    (recent : guard.lastHeartbeatWall = 1020) : guard.InForce sampleToken 1030 where
  token := isToken
  unspent isTrial := by cases isTrial
  valid := by decide
  grace days grace := by
    cases grace
    rw [recent]
    decide

/-- An install whose clock never ran ahead is allowed after a heartbeat. -/
theorem allows_after_heartbeat :
    ∃ left, ((run (some sampleToken) 1000 [.evaluate 1010, .onHeartbeat 1020]).evaluate 1030).1 =
      .allow .pro left := by
  have behind : (seen 1000 [.evaluate 1010]).all (fun earlier => earlier ≤ 1030) = true := by decide
  exact (allows_after_exchange_iff (some sampleToken) 1000 [.evaluate 1010] (.onHeartbeat 1020)
    1020 1030 sampleToken rfl (by decide) (sampleToken_inForce rfl rfl)).1.mpr
      fun earlier member => of_decide_eq_true (List.all_eq_true.mp behind earlier member)

/-- A clock that was an hour ahead and is set right again is refused right after a successful
online check. -/
theorem not_allows_after_check :
    ¬∀ (token : Option LicenseToken) (start : UInt64) (ops : List GuardOp) (check : GuardOp)
      (now later : UInt64) (held : LicenseToken), check.exchange = some now → now ≤ later →
      (run token start ops).token = some held → held.isValidAt now = true →
      (run token start (ops ++ [check])).InForce held later →
      ∃ left, ((run token start (ops ++ [check])).evaluate later).1 = .allow held.plan left := by
  intro ends
  obtain ⟨left, allowed⟩ := ends (some sampleToken) 1000 [.evaluate 4600, .evaluate 1010]
    (.onOnlineCheck none 1020) 1020 1030 sampleToken rfl (by decide) rfl (by decide)
    (sampleToken_inForce rfl rfl)
  have refused : ((run (some sampleToken) 1000 ([.evaluate 4600, .evaluate 1010] ++
      [.onOnlineCheck none 1020])).evaluate 1030).1 = heldBack := by decide
  rw [refused] at allowed
  cases allowed

end Lumepeer.Core.LicenseGuard
