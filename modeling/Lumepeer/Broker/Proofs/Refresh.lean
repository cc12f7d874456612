import Lumepeer.Broker.Proofs.Licences
import Lumepeer.Broker.Proofs.Statements

/-!
# A refresh against a heartbeat

Both read the device's row and the row of its licence. The heartbeat also asks
whether the device was displaced and whether its trial is used up; the refresh asks
neither, so the two agree on the devices that would pass these two checks.
-/

namespace Lumepeer.Broker
open Lumepeer.Lib Lumepeer.Core

namespace Db

/-- The licence of the device's row is there, not revoked and not expired. -/
def InForce (db : Db) (deviceId : String) (now : UInt64) : Prop :=
  ∃ device license, db.device deviceId = some device ∧
    db.license device.licenseId = some license ∧ license.revokedAt = none ∧ now ≤ license.expiresAt

/-- Another device took the seat of the device. -/
def Displaced (db : Db) (deviceId : String) : Prop :=
  ∃ device, db.device deviceId = some device ∧ device.displacedAt.isSome = true

/-- The device has a trial licence, and the seconds that are recorded of it use it up. -/
def TrialUsedUp (db : Db) (deviceId : String) : Prop :=
  ∃ device license, db.device deviceId = some device ∧
    db.license device.licenseId = some license ∧ Plan.fromWireOrTrial license.plan = .trial ∧
    trialSessionLimitSecs ≤ device.trialSecondsUsed

/-- A device that gets a token by a refresh would be told that it may keep running. -/
def RefreshAgrees (db : Db) (app : AppState) (deviceId : String) (now : UInt64) : Prop :=
  (refresh app db deviceId now).1.status = .ok →
    ∀ device activeSeconds, db.device deviceId = some device →
      activeSeconds ≤ device.trialSecondsUsed →
        (heartbeat db { deviceId, activeSeconds } now).1.body = .heartbeat true none

end Db

/-- The token of the answer is good from `now` on, and not for longer than the licence. -/
def Answer.TimesRight (answer : Answer) (db : Db) (now : UInt64) : Prop :=
  ∀ text, answer.body = .token text → ∃ token license,
    text = Base32.encode (LicenseToken.encode token) ∧ answer.licenses = [license.id] ∧
      db.license license.id = some license ∧ token.notBefore = now ∧ token.issuedAt = now ∧
        now ≤ token.expiresAt ∧ token.expiresAt ≤ license.expiresAt

section
variable {app : AppState} {db : Db} {deviceId : String} {request : IssueRequest} {now : UInt64}

/-- Both requests read the device's row and the row of its licence. -/
theorem inForce_iff {device : DeviceView} {license : LicenseView}
    (isDevice : db.device deviceId = some device)
    (isLicense : db.license device.licenseId = some license) :
    db.InForce deviceId now ↔ license.revokedAt = none ∧ now ≤ license.expiresAt := by
  simp [Db.InForce, isDevice, isLicense]

theorem displaced_iff {device : DeviceView} (isDevice : db.device deviceId = some device) :
    db.Displaced deviceId ↔ device.displacedAt.isSome = true := by
  simp [Db.Displaced, isDevice]

theorem trialUsedUp_iff {device : DeviceView} {license : LicenseView}
    (isDevice : db.device deviceId = some device)
    (isLicense : db.license device.licenseId = some license) :
    db.TrialUsedUp deviceId ↔ Plan.fromWireOrTrial license.plan = .trial ∧
      trialSessionLimitSecs ≤ device.trialSecondsUsed := by
  simp [Db.TrialUsedUp, isDevice, isLicense]

/-- A refresh answers with a token exactly when the licence is in force. -/
theorem refresh_ok_iff : (refresh app db deviceId now).1.status = .ok ↔ db.InForce deviceId now := by
  unfold refresh
  cases isDevice : db.device deviceId with
  | none => simp [unknownDevice, error, Db.InForce, isDevice]
  | some device =>
      simp only [refreshAnswer]
      cases isLicense : db.license device.licenseId with
      | none => simp [error, Db.InForce, isDevice, isLicense]
      | some license =>
          rw [inForce_iff isDevice isLicense]
          by_cases isRevoked : license.revokedAt = none
          · by_cases isOver : license.expiresAt < now
            · simp [isRevoked, isOver, error, UInt64.not_le.mpr isOver]
            · simp [isRevoked, isOver, UInt64.not_lt.mp isOver]
          · simp [isRevoked, Option.isSome_iff_ne_none, error]

/-- A heartbeat that reports nothing new answers that the device may keep running exactly when
its licence is in force, its seat is its own and its trial is not used up. -/
theorem heartbeat_ok_iff {device : DeviceView} {activeSeconds : UInt64}
    (isDevice : db.device deviceId = some device)
    (le : activeSeconds ≤ device.trialSecondsUsed) :
    (heartbeat db { deviceId, activeSeconds } now).1.body = .heartbeat true none ↔
      db.InForce deviceId now ∧ ¬ db.Displaced deviceId ∧ ¬ db.TrialUsedUp deviceId := by
  have used : max device.trialSecondsUsed activeSeconds = device.trialSecondsUsed := by
    rw [← UInt64.toNat_inj, toNat_max64]
    exact max_eq_left (UInt64.le_iff_toNat_le.mp le)
  have sameLicense (id : String) :
      (db.recordHeartbeat deviceId device.trialSecondsUsed now).license id = db.license id := rfl
  simp only [heartbeat, isDevice, used, sameLicense, heartbeatAnswer]
  rw [displaced_iff isDevice]
  cases isLicense : db.license device.licenseId with
  | none => simp [Db.InForce, isDevice, isLicense]
  | some license =>
      rw [inForce_iff isDevice isLicense, trialUsedUp_iff isDevice isLicense]
      by_cases isRevoked : license.revokedAt = none
      · by_cases isOver : license.expiresAt < now
        · simp [isRevoked, isOver, UInt64.not_le.mpr isOver]
        · simp only [isRevoked, isOver, UInt64.not_lt.mp isOver]
          by_cases isDisplaced : device.displacedAt.isSome = true
          · simp [isDisplaced]
          · by_cases isUsedUp : Plan.fromWireOrTrial license.plan = .trial ∧
                trialSessionLimitSecs ≤ device.trialSecondsUsed
            · simp [isDisplaced, isUsedUp]
            · simp [isDisplaced, isUsedUp]
      · simp [isRevoked, Option.isSome_iff_ne_none]

/-- The two requests agree on the devices that pass the checks only the heartbeat makes. -/
theorem refreshAgrees_iff : db.RefreshAgrees app deviceId now ↔
    (db.InForce deviceId now → ¬ db.Displaced deviceId ∧ ¬ db.TrialUsedUp deviceId) := by
  unfold Db.RefreshAgrees
  rw [refresh_ok_iff]
  constructor
  · intro agrees inForce
    obtain ⟨device, license, isDevice, -⟩ := id inForce
    exact ((heartbeat_ok_iff isDevice (UInt64.le_refl _)).mp (agrees inForce device _ isDevice (UInt64.le_refl _))).2
  · intro passes inForce device activeSeconds isDevice le
    exact (heartbeat_ok_iff isDevice le).mpr ⟨inForce, passes inForce⟩

/-- The times of a token that is signed at `now`. -/
theorem signToken_times (license : LicenseView) : ∃ token : LicenseToken,
    signToken app license deviceId now = token.encode ∧ token.notBefore = now ∧
      token.issuedAt = now ∧ token.expiresAt ≤ license.expiresAt ∧
      (now ≤ token.expiresAt ↔ now ≤ license.expiresAt) := by
  have within : min (saturatingAdd64 now tokenLifetimeSecs) license.expiresAt ≤
      license.expiresAt := by
    rw [UInt64.le_iff_toNat_le, toNat_min64]
    exact Nat.min_le_right _ _
  have lasts : now ≤ min (saturatingAdd64 now tokenLifetimeSecs) license.expiresAt ↔
      now ≤ license.expiresAt := by
    rw [UInt64.le_iff_toNat_le, UInt64.le_iff_toNat_le, toNat_min64, toNat_saturatingAdd64]
    have := now.toNat_lt
    omega
  exact ⟨_, rfl, rfl, rfl, within, lasts⟩

theorem refresh_timesRight (ok : (refresh app db deviceId now).1.status = .ok) :
    (refresh app db deviceId now).1.TimesRight db now := by
  obtain ⟨device, license, isDevice, isLicense, isRevoked, notOver⟩ := refresh_ok_iff.mp ok
  obtain ⟨token, isToken, notBefore, issuedAt, within, lasts⟩ :=
    @signToken_times app deviceId now license
  have isId : license.id = device.licenseId := by
    obtain ⟨row, -, rfl⟩ := Option.map_eq_some_iff.mp isLicense
    rfl
  simp only [refresh, isDevice, isLicense, refreshAnswer, isRevoked, UInt64.not_lt.mpr notOver]
  intro text isText
  refine ⟨token, license, ?_, by simp [isId], ?_, notBefore, issuedAt, lasts.mpr notOver, within⟩
  · simpa [isToken] using isText.symm
  · rw [isId]
    exact isLicense

theorem issue_created (created : (issue app db request now).1.status = .created) :
    ∃ license, db.activeLicenseForAccount app.visited request.accountId now = some license ∧
      (issue app db request now).1 =
        { status := .created
          body := .token (Base32.encode (signToken app license request.deviceId now))
          licenses := [license.id] } := by
  unfold issue at created ⊢
  split at created
  · cases created
  · split at created
    · cases created
    next license active =>
      refine ⟨license, active, ?_⟩
      simp only [recordAnswer] at created ⊢
      split at created
      · cases created
      · rfl

/-- An issued token is good from `now` on as long as the clock has not left the range that SQLite
has room for. -/
theorem issue_timesRight_iff (inRange : db.InRange)
    (created : (issue app db request now).1.status = .created) :
    (issue app db request now).1.TimesRight db now ↔ now.toNat < 2 ^ 63 := by
  obtain ⟨license, active, isAnswer⟩ := issue_created created
  obtain ⟨row, found, isView, -, -, notOver⟩ := exists_row_of_active active
  obtain ⟨nonneg, lt⟩ := inRange.expiresAt _ row found
  have isLicense : db.license license.id = some license := by
    rw [Db.license, found, isView]
    rfl
  have expires : (license.expiresAt.toNat : Int) = row.expiresAt := by
    rw [isView]
    exact toNat_ofSql nonneg lt
  have covered : now ≤ license.expiresAt ↔ now.toNat < 2 ^ 63 := by
    rw [UInt64.le_iff_toNat_le]
    unfold toSql at notOver
    split at notOver <;> omega
  rw [isAnswer, ← covered]
  constructor
  · intro right
    obtain ⟨token, license', -, isId, isLicense', -, -, lasts, within⟩ := right _ rfl
    obtain rfl : license' = license := by
      rw [← (List.cons.inj isId).1, isLicense] at isLicense'
      exact (Option.some.inj isLicense').symm
    exact UInt64.le_trans lasts within
  · intro lasts text isText
    obtain ⟨token, isToken, notBefore, issuedAt, within, lasts'⟩ :=
      @signToken_times app request.deviceId now license
    refine ⟨token, license, ?_, rfl, isLicense, notBefore, issuedAt, lasts'.mpr lasts, within⟩
    simpa [isToken] using isText.symm

end

/-- In every state that statements lead to, a refresh grants a device no more than a heartbeat
would exactly when the device keeps its seat and its trial, or has no licence in force; without
one it grants nothing; a refreshed token has its times right, and so has an issued one, unless
the clock has left the range that SQLite has room for. -/
theorem refresh_grants_no_more_iff (app : AppState) (happenings : List Service.Happening) :
    let db := (exec (Service.step app) {} happenings).db
    (∀ deviceId now, db.RefreshAgrees app deviceId now ↔
      (db.InForce deviceId now → ¬ db.Displaced deviceId ∧ ¬ db.TrialUsedUp deviceId)) ∧
    (∀ deviceId now, (refresh app db deviceId now).1.status = .ok ↔ db.InForce deviceId now) ∧
    (∀ deviceId now, (refresh app db deviceId now).1.status = .ok →
      (refresh app db deviceId now).1.TimesRight db now) ∧
    ∀ request now, (issue app db request now).1.status = .created →
      ((issue app db request now).1.TimesRight db now ↔ now.toNat < 2 ^ 63) :=
  ⟨fun _ _ => refreshAgrees_iff, fun _ _ => refresh_ok_iff, fun _ _ => refresh_timesRight,
    fun _ _ => issue_timesRight_iff (Db.inRange_run app happenings)⟩

open Service.Happening in
/-- A device whose seat went to another one gets a fresh token. -/
theorem displaced_device_refreshes :
    ¬ ∀ (app : AppState) (happenings : List Service.Happening) (deviceId : String) (now : UInt64),
      (exec (Service.step app) {} happenings).db.RefreshAgrees app deviceId now := by
  intro always
  have agrees := always Served.sampleApp
    [arrive (Served.granted "e" "a" "l" 1 1) 1, run 0,
      arrive (.issue ⟨"a", "d", "k"⟩) 2, run 0, run 0, run 0, run 0,
      arrive (.issue ⟨"a", "d2", "k2"⟩) 3, run 0, run 0, run 0, run 0, run 0] "d" 4
  exact absurd (agrees (by decide) ⟨"l", 0, some 3⟩ 0 (by decide) (by decide)) (by decide)

end Lumepeer.Broker
