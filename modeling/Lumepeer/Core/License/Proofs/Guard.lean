import Lumepeer.Core.License

/-!
# Clock tricks against the licence guard

The wall clock is an input the user moves at will. The guard remembers the
highest reading it saw and the reading of the last exchange with the broker;
`Remembers` says so of whole runs. From it follow that a rollback is held
against the install until an exchange, and that a paid plan is allowed only
inside the token's validity and the offline grace since the last exchange.
-/

namespace Lumepeer.Core

namespace GuardOp

/-- The wall clock reading an operation hands to the guard. -/
def reading : GuardOp → Option UInt64
  | .evaluate now => some now
  | .onHeartbeat now => some now
  | .onOnlineCheck _ now => some now
  | .addTrialSeconds _ => none

/-- The reading of a successful exchange with the broker. -/
def exchange : GuardOp → Option UInt64
  | .onHeartbeat now => some now
  | .onOnlineCheck _ now => some now
  | .evaluate _ | .addTrialSeconds _ => none

end GuardOp

namespace LicenseGuard
open Lumepeer.Lib

/-- The wall clock readings the guard has seen. -/
def seen (start : UInt64) (ops : List GuardOp) : List UInt64 := start :: ops.filterMap GuardOp.reading

/-- The reading of the last exchange, or the one the guard was made with. -/
def lastExchange (start : UInt64) (ops : List GuardOp) : UInt64 :=
  (ops.filterMap GuardOp.exchange).getLastD start

/-- What `evaluate` answers while a rollback is held against an install with a token. -/
def HoldsRollback (guard : LicenseGuard) (now : UInt64) : Prop :=
  (guard.evaluate now).1 =
    .denyNewSession "system clock rolled back; an online check is required"
      clockRollbackActiveSessionCutoffSecs ∨
  (∃ token, guard.token = some token ∧ token.plan = .trial) ∧ guard.trialRemainingSecs = 0 ∧
    (guard.evaluate now).1 = .deny "the trial session limit is used up"

/-- The guard after a run remembers the highest reading and the last exchange. -/
structure Remembers (guard : LicenseGuard) (start : UInt64) (ops : List GuardOp) : Prop where
  high : ∀ time ∈ seen start ops, time ≤ guard.highWaterWall
  last : guard.lastHeartbeatWall = lastExchange start ops

theorem mem_seen_concat {start time : UInt64} {ops : List GuardOp} {op : GuardOp} :
    time ∈ seen start (ops ++ [op]) ↔ time ∈ seen start ops ∨ op.reading = some time := by
  simp [seen, List.filterMap_append, or_assoc]

theorem lastExchange_concat (start : UInt64) (ops : List GuardOp) (op : GuardOp) :
    lastExchange start (ops ++ [op]) = op.exchange.getD (lastExchange start ops) := by
  unfold lastExchange
  rw [List.filterMap_append]
  cases found : op.exchange with
  | none => simp [found]
  | some time => simp [found]

theorem lastExchange_mem_seen (start : UInt64) (ops : List GuardOp) :
    lastExchange start ops ∈ seen start ops := by
  induction ops using List.reverseRecOn with
  | nil => simp [lastExchange, seen]
  | append_singleton ops op ih =>
      rw [lastExchange_concat, mem_seen_concat]
      cases op with
      | onHeartbeat now => exact .inr rfl
      | onOnlineCheck token now => exact .inr rfl
      | evaluate now => exact .inl ih
      | addTrialSeconds elapsedSecs => exact .inl ih

/-- A step never lowers the high water mark and lifts it to the reading it was given. -/
theorem highWaterWall_step (guard : LicenseGuard) (op : GuardOp) :
    guard.highWaterWall.toNat ≤ (guard.step op).2.highWaterWall.toNat ∧
      ∀ now, op.reading = some now → now.toNat ≤ (guard.step op).2.highWaterWall.toNat := by
  cases op with
  | evaluate now =>
      simp only [step, evaluate, observe, GuardOp.reading, Option.some.injEq, forall_eq']
      by_cases rolled : now < guard.highWaterWall
      · rw [if_pos rolled]
        exact ⟨Nat.le_refl _, Nat.le_of_lt (UInt64.lt_iff_toNat_lt.mp rolled)⟩
      · rw [if_neg rolled]
        exact ⟨UInt64.le_iff_toNat_le.mp (UInt64.not_lt.mp rolled), Nat.le_refl _⟩
  | onHeartbeat now =>
      simp [step, onHeartbeat, GuardOp.reading, toNat_max64]
  | onOnlineCheck token now =>
      simp [step, onOnlineCheck, GuardOp.reading, toNat_max64]
  | addTrialSeconds elapsedSecs => simp [step, addTrialSeconds, GuardOp.reading]

theorem lastHeartbeatWall_step (guard : LicenseGuard) (op : GuardOp) :
    (guard.step op).2.lastHeartbeatWall = op.exchange.getD guard.lastHeartbeatWall := by
  cases op with
  | evaluate now =>
      simp only [step, evaluate, observe, GuardOp.exchange, Option.getD_none]
      split <;> rfl
  | onHeartbeat now => rfl
  | onOnlineCheck token now => rfl
  | addTrialSeconds elapsedSecs => rfl

theorem remembers_run (token : Option LicenseToken) (start : UInt64) (ops : List GuardOp) :
    (run token start ops).Remembers start ops := by
  induction ops using List.reverseRecOn with
  | nil => exact ⟨by simp [seen, new], rfl⟩
  | append_singleton ops op ih =>
      obtain ⟨keeps, lifts⟩ := (run token start ops).highWaterWall_step op
      rw [run, exec_concat]
      refine ⟨?_, ?_⟩
      · intro time member
        rw [UInt64.le_iff_toNat_le]
        rcases mem_seen_concat.mp member with old | new
        · exact (UInt64.le_iff_toNat_le.mp (ih.high time old)).trans keeps
        · exact lifts time new
      · rw [lastHeartbeatWall_step, lastExchange_concat, ih.last]

/-- Without an exchange a rollback stays on record. -/
theorem rollbackSeen_step {guard : LicenseGuard} {op : GuardOp} (rolled : guard.rollbackSeen = true)
    (offline : op.exchange = none) : (guard.step op).2.rollbackSeen = true := by
  cases op with
  | evaluate now =>
      simp only [step, evaluate, observe]
      split
      · rfl
      · exact rolled
  | onHeartbeat now => cases offline
  | onOnlineCheck token now => cases offline
  | addTrialSeconds elapsedSecs => exact rolled

/-- A reading below one already seen puts a rollback on record. -/
theorem rollbackSeen_of_lower {token : Option LicenseToken} {start low : UInt64}
    {before : List GuardOp} (lower : ∃ time ∈ seen start before, low < time) :
    ((run token start before).observe low).rollbackSeen = true := by
  obtain ⟨time, member, below⟩ := lower
  have high := (remembers_run token start before).high time member
  have rolled : low < (run token start before).highWaterWall := UInt64.lt_of_lt_of_le below high
  rw [observe, if_pos rolled]

/-- With a rollback on record `evaluate` gives nothing but the refusals of `HoldsRollback`. -/
theorem decide_of_rollbackSeen {guard : LicenseGuard} (held : guard.token.isSome)
    (rolled : guard.rollbackSeen = true) (now : UInt64) :
    guard.decide now = .denyNewSession "system clock rolled back; an online check is required"
      clockRollbackActiveSessionCutoffSecs ∨
    (∃ token, guard.token = some token ∧ token.plan = .trial) ∧ guard.trialRemainingSecs = 0 ∧
      guard.decide now = .deny "the trial session limit is used up" := by
  obtain ⟨token, isToken⟩ := Option.isSome_iff_exists.mp held
  simp only [decide, isToken, rolled, if_true]
  by_cases exhausted : token.plan = .trial ∧ guard.trialRemainingSecs = 0
  · rw [if_pos exhausted]
    exact .inr ⟨⟨token, rfl, exhausted.1⟩, exhausted.2, rfl⟩
  · rw [if_neg exhausted]
    exact .inl rfl

theorem observe_token (guard : LicenseGuard) (now : UInt64) :
    (guard.observe now).token = guard.token := by
  unfold observe
  split <;> rfl

theorem observe_trialRemainingSecs (guard : LicenseGuard) (now : UInt64) :
    (guard.observe now).trialRemainingSecs = guard.trialRemainingSecs := by
  unfold observe
  split <;> rfl

theorem holdsRollback_of_observed {guard : LicenseGuard} (held : guard.token.isSome) {now : UInt64}
    (rolled : (guard.observe now).rollbackSeen = true) : guard.HoldsRollback now := by
  have refused := decide_of_rollbackSeen (by rw [observe_token]; exact held) rolled now
  rw [observe_token, observe_trialRemainingSecs] at refused
  exact refused

/-- The checks an `allow` of a plan with an offline grace has passed. -/
theorem decide_eq_allow {guard : LicenseGuard} {now days : UInt64} {plan : Plan}
    {left : Option UInt64} (grace : plan.offlineGraceDays = some days)
    (allowed : guard.decide now = .allow plan left) :
    ∃ token, guard.token = some token ∧ token.plan = plan ∧ guard.rollbackSeen = false ∧
      token.isValidAt now = true ∧ guard.graceElapsed plan now = false := by
  unfold decide at allowed
  cases isToken : guard.token with
  | none =>
      simp only [isToken, LicenseDecision.allow.injEq] at allowed
      rw [← allowed.1] at grace
      cases grace
  | some token =>
      simp only [isToken] at allowed
      split at allowed
      · cases allowed
      · split at allowed
        · cases allowed
        · split at allowed
          · cases allowed
          · split at allowed
            · cases allowed
            · have isPlan : token.plan = plan := by
                split at allowed <;> exact (LicenseDecision.allow.inj allowed).1
              subst isPlan
              simp_all

/-- What an `allow` of a plan with an offline grace rests on. -/
theorem allow_of_grace {guard : LicenseGuard} {now days : UInt64} {plan : Plan}
    {left : Option UInt64} (grace : plan.offlineGraceDays = some days)
    (allowed : (guard.evaluate now).1 = .allow plan left) :
    (∃ token, guard.token = some token ∧ token.plan = plan ∧ token.notBefore ≤ now ∧
      now ≤ token.expiresAt) ∧
    guard.highWaterWall ≤ now ∧
    now.toNat - guard.lastHeartbeatWall.toNat ≤ days.toNat * secsPerDay.toNat := by
  obtain ⟨token, isToken, isPlan, unrolled, valid, inGrace⟩ := decide_eq_allow grace allowed
  have forward : ¬ now < guard.highWaterWall := by
    intro rolled
    simp [observe, rolled] at unrolled
  rw [observe_token] at isToken
  simp only [LicenseToken.isValidAt, Bool.and_eq_true, decide_eq_true_eq] at valid
  have sameExchange : (guard.observe now).lastHeartbeatWall = guard.lastHeartbeatWall :=
    guard.lastHeartbeatWall_step (.evaluate now)
  simp only [graceElapsed, grace, sameExchange, decide_eq_false_iff_not, UInt64.lt_iff_toNat_lt,
    toNat_saturatingMul64, toNat_saturatingSub64] at inGrace
  refine ⟨⟨token, isToken, isPlan, valid⟩, UInt64.not_lt.mp forward, ?_⟩
  omega

/-- A rollback sticks and a paid plan stays inside its terms. Once an `evaluate` is given a
reading below one the guard has seen, it and every later `evaluate` of an install with a token
refuses the token's plan until a heartbeat or an online check. And every `allow` of a Pro or
Team plan falls inside the validity of the token held and inside the plan's offline grace since
the last heartbeat or online check. -/
theorem rollback_sticks_until_exchange (token : Option LicenseToken) (start : UInt64) :
    (∀ (before : List GuardOp) (low : UInt64), (∃ time ∈ seen start before, low < time) →
      ((run token start before).token.isSome → (run token start before).HoldsRollback low) ∧
      ∀ (later : List GuardOp), (∀ op ∈ later, op.exchange = none) →
        (run token start (before ++ .evaluate low :: later)).token.isSome →
          ∀ now, (run token start (before ++ .evaluate low :: later)).HoldsRollback now) ∧
    (∀ (ops : List GuardOp) (now : UInt64) (plan : Plan) (left : Option UInt64),
      plan = .pro ∨ plan = .team →
      ((run token start ops).evaluate now).1 = .allow plan left →
        (∃ held, (run token start ops).token = some held ∧ held.plan = plan ∧
          held.notBefore ≤ now ∧ now ≤ held.expiresAt) ∧
        lastExchange start ops ≤ now ∧
        ∃ days, plan.offlineGraceDays = some days ∧
          now.toNat - (lastExchange start ops).toNat ≤ days.toNat * secsPerDay.toNat) := by
  refine ⟨?_, ?_⟩
  · intro before low lower
    have rolled := @rollbackSeen_of_lower token start low before lower
    refine ⟨fun held => holdsRollback_of_observed held rolled, ?_⟩
    intro later offline held now
    have keep (guard : LicenseGuard) (op : GuardOp) (seenHere : guard.rollbackSeen = true)
        (isOffline : op.exchange = none) : (guard.step op).2.rollbackSeen = true :=
      rollbackSeen_step seenHere isOffline
    have recorded : (run token start (before ++ .evaluate low :: later)).rollbackSeen = true := by
      rw [run, exec_append, exec_cons]
      exact exec_induction keep rolled fun e member => offline e.op (op_mem_of_mem_history member)
    exact holdsRollback_of_observed held
      (rollbackSeen_step recorded (rfl : (GuardOp.evaluate now).exchange = none))
  · intro ops now plan left paid allowed
    have remembers := remembers_run token start ops
    obtain ⟨days, grace⟩ : ∃ days, plan.offlineGraceDays = some days := by
      rcases paid with rfl | rfl <;> exact ⟨_, rfl⟩
    obtain ⟨valid, forward, inGrace⟩ := allow_of_grace grace allowed
    rw [remembers.last] at inGrace
    exact ⟨valid, UInt64.le_trans (remembers.high _ (lastExchange_mem_seen start ops)) forward,
      days, grace, inGrace⟩

end LicenseGuard

end Lumepeer.Core
