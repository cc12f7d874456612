import Lumepeer.Core.Unattended

/-!
# What one operation does to the gate

`verify_full`, `admit` and `admit_proof` reach `check_open` and `conclude` by
different ways. `presented` says what each of them puts before the gate and
`step_of_presented` what comes of it, the same for all three; every other
operation leaves the lockout alone unless it is `disable`.
-/

namespace Lumepeer.Core.UnattendedAccess
open Lumepeer.Lib

variable {crates : Crates}

/-- What an attempt puts before the gate: the verdict on the password, the code and the clock. -/
structure Presented where
  passwordOk : Except UnattendedError Unit
  code : Option String
  clock : Readings

/-- The verdict of `verify_full` on the password it was given. -/
def passwordVerdict (crates : Crates) (access : UnattendedAccess) (password : Option String) :
    Except UnattendedError Unit :=
  match password with
  | none => .error .missingPassword
  | some password => access.checkPassword crates password

/-- What an operation presents, if it is an attempt. -/
def presented (access : UnattendedAccess) : UnattendedOp crates → Option Presented
  | .verifyFull password code clock | .admitPassword password code clock =>
      some ⟨access.passwordVerdict crates password, code, clock⟩
  | .admitProof pending answer clock =>
      some ⟨(openProof crates pending answer).1, (openProof crates pending answer).2, clock⟩
  | .setPassword .. | .restorePasswordHash _ | .setTotpSecret _ | .clearTotpSecret | .disable
  | .setRole _ => none

/-- The attempt gets past `check_open`: its credentials are looked at. -/
def examines (e : UnattendedEvent crates) : Bool :=
  (e.pre.presented e.op).any fun shown => (e.pre.checkOpen shown.clock.opened).isOk

/-- The attempt was let in. -/
def Succeeds (e : UnattendedEvent crates) : Prop := ∃ grant, e.out = .attempt (.ok grant)

/-- What becomes of a presentation: the end of all three attempts. -/
def attempt (crates : Crates) (access : UnattendedAccess) (shown : Presented) :
    Except UnattendedError Unit × UnattendedAccess :=
  match access.checkOpen shown.clock.opened with
  | .error error => (.error error, access)
  | .ok () => access.conclude crates shown.passwordOk shown.code shown.clock

/-- The role a success hands out. -/
def withRole (concluded : Except UnattendedError Unit × UnattendedAccess) :
    Except UnattendedError Role × UnattendedAccess :=
  (concluded.1.map fun () => concluded.2.role, concluded.2)

theorem verifyFull_eq_attempt (access : UnattendedAccess) (password code : Option String)
    (clock : Readings) :
    access.verifyFull crates password code clock =
      access.attempt crates ⟨access.passwordVerdict crates password, code, clock⟩ := rfl

theorem admitPassword_eq_attempt (access : UnattendedAccess) (password code : Option String)
    (clock : Readings) :
    access.admitPassword crates password code clock =
      withRole (access.attempt crates ⟨access.passwordVerdict crates password, code, clock⟩) := rfl

theorem admitProof_eq_attempt (access : UnattendedAccess) (pending : PendingProof crates)
    (answer : ProofAnswer) (clock : Readings) :
    access.admitProof crates pending answer clock =
      withRole (access.attempt crates ⟨(openProof crates pending answer).1,
        (openProof crates pending answer).2, clock⟩) := by
  simp only [admitProof, attempt, withRole]
  cases access.checkOpen clock.opened <;> rfl

/-- The three kinds of attempt differ only in the role they hand out. -/
theorem step_eq_attempt {access : UnattendedAccess} {op : UnattendedOp crates} {shown : Presented}
    (shows : access.presented op = some shown) :
    ∃ grant, step crates access op =
      (.attempt ((access.attempt crates shown).1.map fun () => grant),
        (access.attempt crates shown).2) := by
  have mapped (result : Except UnattendedError Unit) (role : Role) :
      (result.map fun () => role).map some = result.map fun () => some role := by
    cases result <;> rfl
  cases op with
  | verifyFull password code clock =>
      cases shows
      refine ⟨none, ?_⟩
      simp only [step, verifyFull_eq_attempt]
  | admitPassword password code clock =>
      cases shows
      refine ⟨some (access.attempt crates ⟨access.passwordVerdict crates password, code, clock⟩).2.role,
        ?_⟩
      simp only [step, admitPassword_eq_attempt, withRole, mapped]
  | admitProof pending answer clock =>
      cases shows
      refine ⟨some (access.attempt crates ⟨(openProof crates pending answer).1,
        (openProof crates pending answer).2, clock⟩).2.role, ?_⟩
      simp only [step, admitProof_eq_attempt, withRole, mapped]
  | _ => cases shows

section
variable (access : UnattendedAccess) (now : Instant)

@[simp] theorem fail_failedAttempts :
    (access.fail now).failedAttempts = saturatingAdd32 access.failedAttempts 1 := by
  unfold fail
  dsimp only
  split <;> rfl

@[simp] theorem fail_lockouts :
    (access.fail now).lockouts =
      if unattendedMaxFailedAttempts ≤ saturatingAdd32 access.failedAttempts 1 then
        saturatingAdd32 access.lockouts 1
      else access.lockouts := by
  unfold fail
  dsimp only
  split <;> rfl

@[simp] theorem fail_enabled : (access.fail now).enabled = access.enabled := by
  unfold fail
  dsimp only
  split <;> rfl

@[simp] theorem fail_lastCodeStep : (access.fail now).lastCodeStep = access.lastCodeStep := by
  unfold fail
  dsimp only
  split <;> rfl

end

/-- Both factors pass, or the attempt is booked as a failure. -/
theorem conclude_cases (access : UnattendedAccess) (passwordOk : Except UnattendedError Unit)
    (code : Option String) (clock : Readings) :
    (∃ step, passwordOk = .ok () ∧ access.codeVerdict crates code clock.wall = .ok step ∧
      access.conclude crates passwordOk code clock = (.ok (), access.succeed step)) ∨
    ∃ error, access.conclude crates passwordOk code clock =
      (.error error, access.fail clock.concluded) := by
  unfold conclude
  cases passwordOk with
  | error error => exact .inr ⟨error, rfl⟩
  | ok _ =>
      cases access.codeVerdict crates code clock.wall with
      | error error => exact .inr ⟨error, rfl⟩
      | ok step => exact .inl ⟨step, rfl, rfl, rfl⟩

/-- An attempt is turned away unexamined, fails, or is let in. -/
theorem step_of_presented {access : UnattendedAccess} {op : UnattendedOp crates} {shown : Presented}
    (shows : access.presented op = some shown) :
    (∃ error, access.checkOpen shown.clock.opened = .error error ∧
      step crates access op = (.attempt (.error error), access)) ∨
    (access.checkOpen shown.clock.opened = .ok () ∧
      ∃ error, step crates access op = (.attempt (.error error), access.fail shown.clock.concluded)) ∨
    (access.checkOpen shown.clock.opened = .ok () ∧
      ∃ grant spent, shown.passwordOk = .ok () ∧
        access.codeVerdict crates shown.code shown.clock.wall = .ok spent ∧
        step crates access op = (.attempt (.ok grant), access.succeed spent)) := by
  obtain ⟨grant, isStep⟩ := step_eq_attempt shows
  rw [isStep]
  unfold attempt
  cases access.checkOpen shown.clock.opened with
  | error error => exact .inl ⟨error, rfl, rfl⟩
  | ok _ =>
      dsimp only
      rcases @conclude_cases crates access shown.passwordOk shown.code shown.clock with
        ⟨spent, isOk, verdict, concluded⟩ | ⟨error, concluded⟩
      · rw [concluded]
        exact .inr (.inr ⟨rfl, grant, spent, isOk, verdict, rfl⟩)
      · rw [concluded]
        exact .inr (.inl ⟨rfl, error, rfl⟩)

/-- `next` stands under the same lockout as `access` and is not turned off. -/
structure SameBooks (access next : UnattendedAccess) : Prop where
  failedAttempts : next.failedAttempts = access.failedAttempts
  lockouts : next.lockouts = access.lockouts
  lockedUntil : next.lockedUntil = access.lockedUntil
  enabled : access.enabled = true → next.enabled = true

/-- The other operations but `disable` leave the lockout alone. -/
theorem sameBooks_of_not_presented {access : UnattendedAccess} {op : UnattendedOp crates}
    (shows : access.presented op = none) (kept : op ≠ .disable) :
    SameBooks access (step crates access op).2 := by
  cases op with
  | setPassword password salt =>
      simp only [step, setPassword]
      split
      · exact ⟨rfl, rfl, rfl, id⟩
      · split
        · exact ⟨rfl, rfl, rfl, id⟩
        · exact ⟨rfl, rfl, rfl, fun _ => rfl⟩
  | disable => exact absurd rfl kept
  | restorePasswordHash phc => exact ⟨rfl, rfl, rfl, fun _ => rfl⟩
  | setTotpSecret secret => exact ⟨rfl, rfl, rfl, id⟩
  | clearTotpSecret => exact ⟨rfl, rfl, rfl, id⟩
  | setRole role => exact ⟨rfl, rfl, rfl, id⟩
  | verifyFull password code clock => cases shows
  | admitPassword password code clock => cases shows
  | admitProof pending answer clock => cases shows

/-- Only an attempt has an attempt's outcome. -/
theorem step_ne_attempt {access : UnattendedAccess} {op : UnattendedOp crates}
    (shows : access.presented op = none) (result : Except UnattendedError (Option Role)) :
    (step crates access op).1 ≠ .attempt result := by
  cases op with
  | verifyFull password code clock => cases shows
  | admitPassword password code clock => cases shows
  | admitProof pending answer clock => cases shows
  | _ => nofun

/-- Nobody is let in on a refused password. -/
theorem not_succeeds_of_error {access : UnattendedAccess} {op : UnattendedOp crates}
    {shown : Presented} {error : UnattendedError} (shows : access.presented op = some shown)
    (bad : shown.passwordOk = .error error) : ¬ Succeeds (Event.of (step crates) access op) := by
  rintro ⟨grant, succeeded⟩
  rw [Event.of_out] at succeeded
  rcases step_of_presented shows with
    ⟨_, -, isStep⟩ | ⟨-, _, isStep⟩ | ⟨-, _, _, good, -, isStep⟩
  · rw [isStep] at succeeded
    cases succeeded
  · rw [isStep] at succeeded
    cases succeeded
  · rw [bad] at good
    cases good

/-- `check_open` refuses while the lockout lies ahead. -/
theorem checkOpen_of_locked {access : UnattendedAccess} {now lockedUntil : Instant}
    (enabled : access.enabled = true) (locked : access.lockedUntil = some lockedUntil)
    (ahead : now < lockedUntil) :
    access.checkOpen now = .error (.lockedOut (Duration.asSecs (lockedUntil - now))) := by
  have left : ¬ lockedUntil - now = 0 := by
    have positive : 0 < lockedUntil - now := Nat.sub_pos_of_lt ahead
    exact Nat.ne_of_gt positive
  simp only [checkOpen, enabled, lockoutRemainingSecs, locked]
  rw [if_neg left]
  rfl

theorem enabled_of_checkOpen {access : UnattendedAccess} {now : Instant}
    (isOpen : access.checkOpen now = .ok ()) : access.enabled = true := by
  by_contra disabled
  rw [Bool.not_eq_true] at disabled
  simp [checkOpen, disabled] at isOpen

/-- What `check_open` lets pass has waited out its lockout. -/
theorem le_of_checkOpen {access : UnattendedAccess} {now lockedUntil : Instant}
    (isOpen : access.checkOpen now = .ok ()) (locked : access.lockedUntil = some lockedUntil) :
    lockedUntil ≤ now := by
  by_contra ahead
  rw [checkOpen_of_locked (enabled_of_checkOpen isOpen) locked (Nat.lt_of_not_le ahead)] at isOpen
  cases isOpen

/-- An operation that neither lets anybody in nor turns the gate off leaves the lockout alone,
unless it is an examined attempt, which is booked as a failure. -/
theorem step_of_steady {access : UnattendedAccess} {op : UnattendedOp crates}
    (refused : ¬ Succeeds (Event.of (step crates) access op)) (kept : op ≠ .disable) :
    (examines (Event.of (step crates) access op) = false ∧
      SameBooks access (step crates access op).2) ∨
    (examines (Event.of (step crates) access op) = true ∧
      ∃ shown, access.presented op = some shown ∧
        access.checkOpen shown.clock.opened = .ok () ∧
        (step crates access op).2 = access.fail shown.clock.concluded) := by
  cases shows : access.presented op with
  | none =>
      refine .inl ⟨?_, sameBooks_of_not_presented shows kept⟩
      simp [examines, shows]
  | some shown =>
      rcases step_of_presented shows with
        ⟨error, closed, isStep⟩ | ⟨isOpen, error, isStep⟩ | ⟨isOpen, grant, spent, -, -, isStep⟩
      · refine .inl ⟨?_, ?_⟩
        · simp [examines, shows, closed, Except.isOk, Except.toBool]
        · rw [isStep]
          exact ⟨rfl, rfl, rfl, id⟩
      · refine .inr ⟨?_, shown, rfl, isOpen, by rw [isStep]⟩
        simp [examines, shows, isOpen, Except.isOk, Except.toBool]
      · exact absurd ⟨grant, by rw [Event.of_out, isStep]⟩ refused

end Lumepeer.Core.UnattendedAccess
