import Lumepeer.Core.Unattended.Proofs.Attempt
import Lumepeer.Core.Unattended.Proofs.Crates
import Lumepeer.Lib.Backoff

/-!
# How often the gate can be guessed at

Between two successes the gate's counters are a function of the number of
attempts it has examined, and the lockout it stands under is the one that number
calls for. So every examined attempt past the free ones has waited out all the
lockouts before it, whichever of the three calls it came through.
-/

namespace Lumepeer.Core.UnattendedAccess
open Lumepeer.Lib

variable {crates : Crates}

/-- The monotonic clock readings of an operation. -/
def readings : UnattendedOp crates → List Instant
  | .verifyFull _ _ clock | .admitPassword _ _ clock | .admitProof _ _ clock =>
      [clock.opened, clock.concluded]
  | _ => []

/-- The monotonic clock stands at `begun` or later and never goes back. -/
def Timed (begun : Instant) (ops : List (UnattendedOp crates)) : Prop :=
  (begun :: ops.flatMap readings).Pairwise (· ≤ ·)

/-- No failure is on the books: a new gate, or one after a success or a `disable`. -/
structure Fresh (access : UnattendedAccess) : Prop where
  failedAttempts : access.failedAttempts = 0
  lockouts : access.lockouts = 0
  lockedUntil : access.lockedUntil = none

/-- The run neither lets anybody in nor turns the gate off. -/
def Steady (run : List (UnattendedEvent crates)) : Prop :=
  ∀ e ∈ run, ¬ Succeeds e ∧ e.op ≠ .disable

/-- The number of attempts examined in a run. -/
def examined (run : List (UnattendedEvent crates)) : Nat := run.countP examines

/-- The attempt was made at `time` or before. -/
def madeBy (time : Instant) (e : UnattendedEvent crates) : Bool :=
  (e.pre.presented e.op).any fun shown => shown.clock.opened ≤ time

/-- The number of attempts examined by `time`. -/
def examinedBy (time : Instant) (run : List (UnattendedEvent crates)) : Nat :=
  run.countP fun e => examines e && madeBy time e

/-- The length of the `n`-th lockout, `n` from 1. -/
def lockoutLength (n : Nat) : Duration :=
  Duration.fromSecs
    (min (unattendedLockoutDurationSecs.toNat * 2 ^ (n - 1)) unattendedLockoutMaxSecs.toNat)

/-- The number of lockouts that fit into `elapsed`. -/
def lockoutsFitting (elapsed : Duration) : Nat := fitting (fun i => lockoutLength (i + 1)) elapsed

/-- `UNATTENDED_MAX_FAILED_ATTEMPTS`. -/
abbrev maxFailed : Nat := unattendedMaxFailedAttempts.toNat

theorem lockoutLength_mono : Monotone lockoutLength := by
  intro n m below
  have powers : 2 ^ (n - 1) ≤ 2 ^ (m - 1) :=
    Nat.pow_le_pow_right (by decide) (Nat.sub_le_sub_right below 1)
  have doubled := Nat.mul_le_mul_left unattendedLockoutDurationSecs.toNat powers
  exact Nat.mul_le_mul_right 1000000000 (min_le_min_right _ doubled)

/-- From the tenth on every lockout has the longest length. -/
theorem lockoutLength_of_le {n : Nat} (late : 10 ≤ n) :
    lockoutLength n = Duration.fromSecs unattendedLockoutMaxSecs.toNat := by
  have powers : 2 ^ 9 ≤ 2 ^ (n - 1) := Nat.pow_le_pow_right (by decide) (by omega)
  have duration : unattendedLockoutDurationSecs.toNat = 300 := rfl
  have longest : unattendedLockoutMaxSecs.toNat = 86400 := rfl
  unfold lockoutLength
  rw [Nat.min_eq_right]
  rw [duration, longest]
  omega

theorem lockoutLength_pos (n : Nat) : 0 < lockoutLength n := by
  have first : 0 < lockoutLength 0 := by decide
  exact first.trans_le (lockoutLength_mono (Nat.zero_le n))

/-- The clamped shift is a power of two. -/
theorem toNat_one_shiftLeft {doublings : UInt32} (clamped : doublings.toNat ≤ 63) :
    ((1 : UInt64) <<< doublings.toUInt64).toNat = 2 ^ doublings.toNat := by
  have small : 2 ^ doublings.toNat < 2 ^ 64 := Nat.pow_lt_pow_right (by decide) (by omega)
  rw [UInt64.toNat_shiftLeft, UInt32.toNat_toUInt64, Nat.mod_eq_of_lt (by omega : doublings.toNat < 64)]
  rw [Nat.shiftLeft_eq, UInt64.toNat_one, one_mul, Nat.mod_eq_of_lt small]

/-- `lockout_secs` computes the lengths without overflow. -/
theorem lockoutSecs_eq_lockoutLength (nth : UInt32) :
    Duration.fromSecs (lockoutSecs nth).toNat = lockoutLength nth.toNat := by
  have duration : unattendedLockoutDurationSecs.toNat = 300 := rfl
  have longest : unattendedLockoutMaxSecs.toNat = 86400 := rfl
  have doublings : (min (saturatingSub32 nth 1) (64 - 1)).toNat = min (nth.toNat - 1) 63 := by
    rw [toNat_min32, toNat_saturatingSub32]
    rfl
  have shifted := toNat_one_shiftLeft (doublings.trans_le (min_le_right _ _))
  unfold lockoutLength lockoutSecs
  rw [toNat_min64, toNat_saturatingMul64, shifted, doublings, duration, longest]
  apply congrArg Duration.fromSecs
  by_cases few : nth.toNat - 1 ≤ 63
  · rw [Nat.min_eq_left few]
    omega
  · have powers : 2 ^ 63 ≤ 2 ^ (nth.toNat - 1) := Nat.pow_le_pow_right (by decide) (by omega)
    rw [Nat.min_eq_right (by omega : 63 ≤ nth.toNat - 1)]
    omega

/-- The lockout in force once `count` attempts have failed, the last of them at `now`. -/
def lockoutAfter (count : Nat) (now : Instant) : Option Instant :=
  if count < maxFailed then none else some (now + lockoutLength (count - (maxFailed - 1)))

/-- The books of a gate that has examined `count` attempts since `begun` and let nobody in. -/
structure Booked (access : UnattendedAccess) (begun : Instant) (count : Nat) : Prop where
  failed : access.failedAttempts.toNat = min count (2 ^ 32 - 1)
  lockouts : access.lockouts.toNat = min (count - (maxFailed - 1)) (2 ^ 32 - 1)
  unlocked : count < maxFailed → access.lockedUntil = none
  locked : maxFailed ≤ count → ∃ lockedUntil, access.lockedUntil = some lockedUntil ∧
    access.enabled = true ∧
    begun + waited (fun i => lockoutLength (i + 1)) (count - (maxFailed - 1)) ≤ lockedUntil

theorem booked_of_fresh {access : UnattendedAccess} (fresh : Fresh access) (begun : Instant) :
    Booked access begun 0 where
  failed := by simp [fresh.failedAttempts]
  lockouts := by simp [fresh.lockouts]
  unlocked := fun _ => fresh.lockedUntil
  locked := fun none => absurd none (by decide)

/-- The counter reaches the threshold with the attempt that does. -/
theorem locks_iff {access : UnattendedAccess} {begun : Instant} {count : Nat}
    (booked : Booked access begun count) :
    unattendedMaxFailedAttempts ≤ saturatingAdd32 access.failedAttempts 1 ↔
      maxFailed ≤ count + 1 := by
  have one : (1 : UInt32).toNat = 1 := rfl
  have five : maxFailed = 5 := rfl
  rw [UInt32.le_iff_toNat_le, toNat_saturatingAdd32, booked.failed, one]
  show maxFailed ≤ _ ↔ _
  omega

theorem toNat_lockouts_succ {access : UnattendedAccess} {begun : Instant} {count : Nat}
    (booked : Booked access begun count) (late : maxFailed ≤ count + 1) :
    (saturatingAdd32 access.lockouts 1).toNat =
      min (count + 1 - (maxFailed - 1)) (2 ^ 32 - 1) := by
  have one : (1 : UInt32).toNat = 1 := rfl
  have five : maxFailed = 5 := rfl
  rw [toNat_saturatingAdd32, booked.lockouts, one]
  omega

/-- One more failure sets the lockout its number calls for. -/
theorem lockedUntil_fail {access : UnattendedAccess} {begun : Instant} {count : Nat}
    (booked : Booked access begun count) (now : Instant) :
    (access.fail now).lockedUntil = lockoutAfter (count + 1) now := by
  have five : maxFailed = 5 := rfl
  have bound := locks_iff booked
  unfold fail lockoutAfter
  by_cases late : maxFailed ≤ count + 1
  · have length : lockoutLength (min (count + 1 - (maxFailed - 1)) (2 ^ 32 - 1)) =
        lockoutLength (count + 1 - (maxFailed - 1)) := by
      by_cases few : count + 1 - (maxFailed - 1) ≤ 2 ^ 32 - 1
      · rw [Nat.min_eq_left few]
      · rw [lockoutLength_of_le (by omega), lockoutLength_of_le (by omega)]
    simp only [ge_iff_le, bound.mpr late, if_true, Nat.not_lt.mpr late, if_false,
      lockoutSecs_eq_lockoutLength, toNat_lockouts_succ booked late, length]
  · simp only [ge_iff_le, mt bound.mp late, if_false, Nat.lt_of_not_le late, if_true]
    exact booked.unlocked (by omega)

/-- An examined attempt has waited out every lockout before it. -/
theorem waited_le_opened {access : UnattendedAccess} {begun opened : Instant} {count : Nat}
    (booked : Booked access begun count) (isOpen : access.checkOpen opened = .ok ())
    (after : begun ≤ opened) :
    begun + waited (fun i => lockoutLength (i + 1)) (count - (maxFailed - 1)) ≤ opened := by
  by_cases many : maxFailed ≤ count
  · obtain ⟨lockedUntil, locked, -, waitedOut⟩ := booked.locked many
    exact waitedOut.trans (le_of_checkOpen isOpen locked)
  · have none : count - (maxFailed - 1) = 0 := by omega
    rw [none, waited_zero]
    exact after

/-- An examined attempt that fails is booked. -/
theorem booked_fail {access : UnattendedAccess} {begun : Instant} {count : Nat}
    (booked : Booked access begun count) {clock : Readings}
    (isOpen : access.checkOpen clock.opened = .ok ()) (after : begun ≤ clock.opened)
    (ordered : clock.opened ≤ clock.concluded) :
    Booked (access.fail clock.concluded) begun (count + 1) := by
  have five : maxFailed = 5 := rfl
  have one : (1 : UInt32).toNat = 1 := rfl
  have sets := lockedUntil_fail booked clock.concluded
  refine ⟨?_, ?_, ?_, ?_⟩
  · rw [fail_failedAttempts, toNat_saturatingAdd32, booked.failed, one]
    omega
  · rw [fail_lockouts]
    by_cases late : maxFailed ≤ count + 1
    · rw [if_pos ((locks_iff booked).mpr late), toNat_lockouts_succ booked late]
    · rw [if_neg (mt (locks_iff booked).mp late), booked.lockouts]
      omega
  · intro few
    rw [sets, lockoutAfter, if_pos few]
  · intro many
    rw [sets, lockoutAfter, if_neg (Nat.not_lt.mpr many)]
    refine ⟨_, rfl, ?_, ?_⟩
    · rw [fail_enabled]
      exact enabled_of_checkOpen isOpen
    · have before := (waited_le_opened booked isOpen after).trans ordered
      have grown : count + 1 - (maxFailed - 1) = count - (maxFailed - 1) + 1 := by omega
      rw [grown, waited_succ, ← Nat.add_assoc]
      exact Nat.add_le_add_right before _

theorem readings_of_presented {access : UnattendedAccess} {op : UnattendedOp crates}
    {shown : Presented} (shows : access.presented op = some shown) :
    readings op = [shown.clock.opened, shown.clock.concluded] := by
  cases op with
  | verifyFull password code clock => cases shows; rfl
  | admitPassword password code clock => cases shows; rfl
  | admitProof pending answer clock => cases shows; rfl
  | _ => cases shows

/-- The readings of an attempt in a timed run are in order. -/
theorem Timed.ordered {begun : Instant} {before after : List (UnattendedOp crates)}
    {op : UnattendedOp crates} (timed : Timed begun (before ++ op :: after))
    {access : UnattendedAccess} {shown : Presented} (shows : access.presented op = some shown) :
    begun ≤ shown.clock.opened ∧ shown.clock.opened ≤ shown.clock.concluded := by
  unfold Timed at timed
  rw [List.flatMap_append, List.flatMap_cons, readings_of_presented shows, List.pairwise_cons] at timed
  obtain ⟨first, rest⟩ := timed
  refine ⟨first _ (by simp), ?_⟩
  have attempt := (List.pairwise_append.mp (List.pairwise_append.mp rest).2.1).1
  simpa using attempt

theorem Timed.before {begun : Instant} {before after : List (UnattendedOp crates)}
    (timed : Timed begun (before ++ after)) : Timed begun before := by
  unfold Timed at timed ⊢
  rw [List.flatMap_append, ← List.cons_append] at timed
  exact (List.pairwise_append.mp timed).1

theorem Steady.before {start : UnattendedAccess} {before after : List (UnattendedOp crates)}
    (steady : Steady (events crates start (before ++ after))) :
    Steady (events crates start before) := by
  intro e member
  apply steady
  rw [events, history_append]
  exact List.mem_append_left _ member

theorem Booked.same {access next : UnattendedAccess} {begun : Instant} {count : Nat}
    (booked : Booked access begun count) (same : SameBooks access next) :
    Booked next begun count := by
  refine ⟨?_, ?_, ?_, ?_⟩
  · rw [same.failedAttempts, booked.failed]
  · rw [same.lockouts, booked.lockouts]
  · intro few
    rw [same.lockedUntil, booked.unlocked few]
  · intro many
    obtain ⟨lockedUntil, locked, enabled, waitedOut⟩ := booked.locked many
    exact ⟨lockedUntil, by rw [same.lockedUntil, locked], same.enabled enabled, waitedOut⟩

/-- In a steady timed run the books count the examined attempts. -/
theorem booked_run {start : UnattendedAccess} (fresh : Fresh start) {begun : Instant}
    (ops : List (UnattendedOp crates)) (timed : Timed begun ops)
    (steady : Steady (events crates start ops)) :
    Booked (exec (step crates) start ops) begun (examined (events crates start ops)) := by
  induction ops using List.reverseRecOn with
  | nil => exact booked_of_fresh fresh begun
  | append_singleton ops op ih =>
      have booked := ih timed.before steady.before
      obtain ⟨refused, kept⟩ := steady (Event.of (step crates) (exec (step crates) start ops) op)
        (by rw [events, history_concat]; simp)
      rw [events, history_concat, exec_concat, examined, List.countP_append, List.countP_singleton]
      rcases step_of_steady refused kept with
        ⟨unexamined, same⟩ | ⟨isExamined, shown, shows, isOpen, isStep⟩
      · rw [unexamined]
        exact booked.same same
      · obtain ⟨after, ordered⟩ := timed.ordered shows
        rw [isExamined, isStep, if_pos rfl]
        exact booked_fail booked isOpen after ordered

/-- An attempt under a lockout is turned away and changes nothing. -/
theorem locked_attempt {access : UnattendedAccess} {begun : Instant} {count : Nat}
    (booked : Booked access begun count) {op : UnattendedOp crates} {shown : Presented}
    (shows : access.presented op = some shown) {lockedUntil : Instant}
    (locked : access.lockedUntil = some lockedUntil) (ahead : shown.clock.opened < lockedUntil) :
    step crates access op =
      (.attempt (.error (.lockedOut (Duration.asSecs (lockedUntil - shown.clock.opened)))), access) := by
  have many : maxFailed ≤ count := by
    by_contra few
    rw [booked.unlocked (Nat.lt_of_not_le few)] at locked
    cases locked
  obtain ⟨_, _, enabled, _⟩ := booked.locked many
  have closed := checkOpen_of_locked enabled locked ahead
  rcases step_of_presented shows with ⟨error, isClosed, isStep⟩ | ⟨isOpen, _⟩ | ⟨isOpen, _⟩
  · rw [closed] at isClosed
    cases isClosed
    exact isStep
  · rw [closed] at isOpen
    cases isOpen
  · rw [closed] at isOpen
    cases isOpen

theorem examinedBy_le_examined (time : Instant) (run : List (UnattendedEvent crates)) :
    examinedBy time run ≤ examined run := by
  apply List.countP_mono_left
  intro e _ both
  rw [Bool.and_eq_true] at both
  exact both.1

/-- The attempts examined by `time` past the free ones have waited out a lockout each. -/
theorem waited_of_examinedBy {start : UnattendedAccess} (fresh : Fresh start) {begun : Instant}
    (ops : List (UnattendedOp crates)) (timed : Timed begun ops)
    (steady : Steady (events crates start ops)) (time : Instant) :
    waited (fun i => lockoutLength (i + 1)) (examinedBy time (events crates start ops) - maxFailed) ≤
      time - begun := by
  induction ops using List.reverseRecOn with
  | nil => exact Nat.zero_le _
  | append_singleton ops op ih =>
      have earlier := ih timed.before steady.before
      rw [events, history_concat, examinedBy, List.countP_append, List.countP_singleton]
      split
      · rename_i both
        rw [Bool.and_eq_true] at both
        obtain ⟨isExamined, made⟩ := both
        obtain ⟨refused, kept⟩ := steady (Event.of (step crates) (exec (step crates) start ops) op)
          (by rw [events, history_concat]; simp)
        rcases step_of_steady refused kept with ⟨unexamined, -⟩ | ⟨-, shown, shows, isOpen, -⟩
        · rw [isExamined] at unexamined
          cases unexamined
        · have booked := booked_run fresh ops timed.before steady.before
          have waitedOut := waited_le_opened booked isOpen (timed.ordered shows).1
          have early : shown.clock.opened ≤ time := by
            simpa [madeBy, shows] using made
          have fewer := examinedBy_le_examined time (events crates start ops)
          have more : examinedBy time (events crates start ops) + 1 - maxFailed ≤
              examined (events crates start ops) - (maxFailed - 1) := by
            have five : maxFailed = 5 := rfl
            omega
          calc waited (fun i => lockoutLength (i + 1))
                (examinedBy time (events crates start ops) + 1 - maxFailed)
              ≤ waited (fun i => lockoutLength (i + 1))
                (examined (events crates start ops) - (maxFailed - 1)) := waited_mono _ more
            _ ≤ shown.clock.opened - begun := Nat.le_sub_of_add_le' waitedOut
            _ ≤ time - begun := Nat.sub_le_sub_right early begun
      · exact earlier

/-- Guessing at the gate. In a timed run from a gate without failures on its books in which
nobody is let in and the gate is not turned off: an attempt under a lockout is refused with the
seconds left and changes nothing; the first `UNATTENDED_MAX_FAILED_ATTEMPTS - 1` examined
attempts set no lockout and each one after sets the next, of doubling length up to the maximum;
`lockout_secs` computes these lengths for every `u32` and they never shrink; and by any time at
most as many attempts are examined as are free and as lockouts fit before it. -/
theorem guesses_bounded_by_lockouts (crates : Crates) (start : UnattendedAccess)
    (fresh : Fresh start) (begun : Instant) (ops : List (UnattendedOp crates))
    (timed : Timed begun ops) (steady : Steady (events crates start ops)) :
    (∀ e ∈ events crates start ops, ∀ shown lockedUntil, e.pre.presented e.op = some shown →
      e.pre.lockedUntil = some lockedUntil → shown.clock.opened < lockedUntil →
        e.out = .attempt (.error
          (.lockedOut (Duration.asSecs (lockedUntil - shown.clock.opened)))) ∧ e.post = e.pre) ∧
    (∀ before e after shown, events crates start ops = before ++ e :: after →
      e.pre.presented e.op = some shown → examines e = true →
        e.post.lockedUntil = lockoutAfter (examined before + 1) shown.clock.concluded) ∧
    (∀ nth : UInt32, Duration.fromSecs (lockoutSecs nth).toNat = lockoutLength nth.toNat) ∧
    Monotone lockoutLength ∧
    (∀ time, examinedBy time (events crates start ops) ≤
      maxFailed + lockoutsFitting (time - begun)) := by
  refine ⟨?_, ?_, lockoutSecs_eq_lockoutLength, lockoutLength_mono, ?_⟩
  · intro e member shown lockedUntil shows locked ahead
    obtain ⟨before, after, rfl, isEvent⟩ := exists_prefix_of_mem_history member
    have booked := booked_run fresh before timed.before steady.before
    rw [isEvent] at shows locked ⊢
    have isStep : step crates (exec (step crates) start before) e.op = _ :=
      locked_attempt booked shows locked ahead
    rw [Event.of_out, Event.of_post, isStep]
    exact ⟨rfl, rfl⟩
  · intro before e after shown split shows isExamined
    have member : e ∈ events crates start ops := by
      rw [split]
      simp
    obtain ⟨refused, kept⟩ := steady e member
    obtain ⟨first, second, rfl, rfl, isEvent⟩ := history_split split
    have booked := booked_run fresh first timed.before steady.before
    rw [isEvent] at refused shows isExamined ⊢
    rcases step_of_steady refused kept with ⟨unexamined, -⟩ | ⟨-, other, sameShows, -, isStep⟩
    · rw [isExamined] at unexamined
      cases unexamined
    · have same : shown = other := Option.some.inj (shows.symm.trans sameShows)
      rw [Event.of_post, isStep, same]
      exact lockedUntil_fail booked _
  · intro time
    have fits := le_fitting (fun i => lockoutLength_pos (i + 1))
      (waited_of_examinedBy fresh ops timed steady time)
    unfold lockoutsFitting
    omega

/-- An attempt without a password at `time`. -/
def knock (time : Instant) : UnattendedOp sampleCrates := .verifyFull none none ⟨time, none, time⟩

/-- Five attempts without a password are examined and the sixth, a nanosecond later, is not. -/
theorem six_knocks_bounded :
    let start : UnattendedAccess := { passwordHash := some samplePhc }
    let ops := [knock 0, knock 0, knock 0, knock 0, knock 0, knock 1]
    Fresh start ∧ Timed 0 ops ∧ Steady (events sampleCrates start ops) ∧
      examinedBy 1 (events sampleCrates start ops) = 5 ∧
      examinedBy 1 (events sampleCrates start ops) ≤ maxFailed + lockoutsFitting 1 := by
  intro start ops
  have fresh : Fresh start := ⟨rfl, rfl, rfl⟩
  have timed : Timed 0 ops := by
    simp [Timed, ops, knock, readings]
  have steady : Steady (events sampleCrates start ops) := by
    intro e member
    obtain ⟨time, isKnock⟩ : ∃ time, e.op = knock time := by
      have isOp := op_mem_of_mem_history member
      simp only [ops, List.mem_cons, List.not_mem_nil, or_false] at isOp
      rcases isOp with is | is | is | is | is | is <;> exact ⟨_, is⟩
    rw [eq_of_mem_history member, isKnock]
    exact ⟨not_succeeds_of_error rfl rfl, nofun⟩
  exact ⟨fresh, timed, steady, by decide,
    (guesses_bounded_by_lockouts sampleCrates start fresh 0 ops timed steady).2.2.2.2 1⟩

end Lumepeer.Core.UnattendedAccess
