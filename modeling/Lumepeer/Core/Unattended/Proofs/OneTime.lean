import Lumepeer.Core.Unattended.Proofs.Attempt
import Lumepeer.Core.Unattended.Proofs.Crates

/-!
# One-time codes are one-time

The gate keeps the time step of the last code that let somebody in and refuses
every code of that step or an earlier one, whatever the wall clock says. Over a
run that keeps the second factor the steps of the admissions are therefore
strictly increasing.
-/

namespace Lumepeer.Core.UnattendedAccess
open Lumepeer.Lib

variable {crates : Crates}

/-- The code an attempt was let in with and the time step it belongs to. -/
def admission (e : UnattendedEvent crates) : Option (String × UInt64) :=
  match e.out, e.pre.presented e.op, e.pre.totpSecret with
  | .attempt (.ok _), some shown, some secret =>
      shown.code.bind fun code =>
        match (Totp.mk secret.toList).matchingStep crates code (shown.clock.wall.getD 0) with
        | .ok step => some (code, step)
        | .error _ => none
  | _, _, _ => none

/-- The admissions of a run by a one-time code, oldest first. -/
def admissions (run : List (UnattendedEvent crates)) : List (String × UInt64) :=
  run.filterMap admission

/-- The operation is neither `set_totp_secret` nor `disable`. -/
def KeepsFactor (op : UnattendedOp crates) : Prop :=
  (∀ secret, op ≠ .setTotpSecret secret) ∧ op ≠ .disable

/-- The attempt was refused. -/
def Fails (e : UnattendedEvent crates) : Prop := ∃ error, e.out = .attempt (.error error)

/-- The step is later than the spent one, if there is one. -/
def Unspent (spent : Option UInt64) (step : UInt64) : Prop := ∀ last, spent = some last → last < step

/-- A code that passes is of an unspent step, if a second factor is set at all. -/
theorem codeVerdict_eq_ok {access : UnattendedAccess} {code : Option String} {wall : Option UInt64}
    {spent : Option UInt64} (passes : access.codeVerdict crates code wall = .ok spent) :
    (access.totpSecret = none ∧ spent = none) ∨
    ∃ secret text step, access.totpSecret = some secret ∧ code = some text ∧
      (Totp.mk secret.toList).matchingStep crates text (wall.getD 0) = .ok step ∧
      spent = some step ∧ Unspent access.lastCodeStep step := by
  unfold codeVerdict at passes
  cases factor : access.totpSecret with
  | none =>
      simp only [factor, Except.ok.injEq] at passes
      exact .inl ⟨rfl, passes.symm⟩
  | some secret =>
      cases code with
      | none => simp [factor] at passes
      | some text =>
          simp only [factor] at passes
          cases matched : (Totp.mk secret.toList).matchingStep crates text (wall.getD 0) with
          | error error => simp [matched] at passes
          | ok step =>
              simp only [matched] at passes
              split at passes
              · cases passes
              · rename_i unspent
                cases passes
                refine .inr ⟨secret, text, step, rfl, rfl, matched, rfl, ?_⟩
                intro last isLast
                simp only [isLast, Option.any_some, decide_eq_true_eq] at unspent
                exact UInt64.not_le.mp unspent

theorem admission_of_not_presented {access : UnattendedAccess} {op : UnattendedOp crates}
    (shows : access.presented op = none) : admission (Event.of (step crates) access op) = none := by
  unfold admission
  rw [Event.of_pre, Event.of_op, shows]
  split
  · rename_i nothing _
    cases nothing
  · rfl

theorem admission_of_error {access next : UnattendedAccess} {op : UnattendedOp crates}
    {error : UnattendedError} (isStep : step crates access op = (.attempt (.error error), next)) :
    admission (Event.of (step crates) access op) = none := by
  unfold admission
  rw [Event.of_out, isStep]

/-- The other operations leave the spent step alone while the second factor is kept. -/
theorem lastCodeStep_of_not_presented {access : UnattendedAccess} {op : UnattendedOp crates}
    (shows : access.presented op = none) (kept : KeepsFactor op) :
    (step crates access op).2.lastCodeStep = access.lastCodeStep := by
  cases op with
  | setPassword password salt =>
      simp only [step, setPassword]
      split
      · rfl
      · split <;> rfl
  | setTotpSecret secret => exact absurd rfl (kept.1 secret)
  | disable => exact absurd rfl kept.2
  | restorePasswordHash phc => rfl
  | clearTotpSecret => rfl
  | setRole role => rfl
  | verifyFull password code clock => cases shows
  | admitPassword password code clock => cases shows
  | admitProof pending answer clock => cases shows

/-- What one operation does to the spent step. -/
theorem lastCodeStep_step {access : UnattendedAccess} {op : UnattendedOp crates}
    (kept : KeepsFactor op) :
    (admission (Event.of (step crates) access op) = none ∧
      (step crates access op).2.lastCodeStep = access.lastCodeStep) ∨
    ∃ code time, admission (Event.of (step crates) access op) = some (code, time) ∧
      (step crates access op).2.lastCodeStep = some time ∧ Unspent access.lastCodeStep time := by
  cases shows : access.presented op with
  | none =>
      exact .inl ⟨admission_of_not_presented shows, lastCodeStep_of_not_presented shows kept⟩
  | some shown =>
      rcases step_of_presented shows with
        ⟨error, -, isStep⟩ | ⟨-, error, isStep⟩ | ⟨-, grant, spent, -, passes, isStep⟩
      · exact .inl ⟨admission_of_error isStep, by rw [isStep]⟩
      · exact .inl ⟨admission_of_error isStep, by rw [isStep, fail_lastCodeStep]⟩
      · rcases codeVerdict_eq_ok passes with
          ⟨factor, rfl⟩ | ⟨secret, text, time, factor, isCode, matched, rfl, unspent⟩
        · refine .inl ⟨?_, by rw [isStep]; rfl⟩
          simp [admission, isStep, shows, factor]
        · refine .inr ⟨text, time, ?_, by rw [isStep]; rfl, unspent⟩
          simp [admission, isStep, shows, factor, isCode, matched]

/-- A refused attempt spends nothing. -/
theorem lastCodeStep_of_fails {access : UnattendedAccess} {op : UnattendedOp crates}
    (fails : Fails (Event.of (step crates) access op)) :
    (step crates access op).2.lastCodeStep = access.lastCodeStep := by
  obtain ⟨error, isOut⟩ := fails
  rw [Event.of_out] at isOut
  cases shows : access.presented op with
  | none => exact absurd isOut (step_ne_attempt shows _)
  | some shown =>
      rcases step_of_presented shows with
        ⟨_, -, isStep⟩ | ⟨-, _, isStep⟩ | ⟨-, _, _, -, -, isStep⟩
      · rw [isStep]
      · rw [isStep, fail_lastCodeStep]
      · rw [isStep] at isOut
        cases isOut

/-- With a second factor set nobody is let in without a code. -/
theorem admission_isSome {access : UnattendedAccess} {op : UnattendedOp crates}
    (succeeds : Succeeds (Event.of (step crates) access op)) (factor : access.totpSecret.isSome) :
    (admission (Event.of (step crates) access op)).isSome := by
  obtain ⟨grant, isOut⟩ := succeeds
  rw [Event.of_out] at isOut
  cases shows : access.presented op with
  | none => exact absurd isOut (step_ne_attempt shows _)
  | some shown =>
      rcases step_of_presented shows with
        ⟨_, -, isStep⟩ | ⟨-, _, isStep⟩ | ⟨-, _, spent, -, passes, isStep⟩
      · rw [isStep] at isOut
        cases isOut
      · rw [isStep] at isOut
        cases isOut
      · rcases codeVerdict_eq_ok passes with
          ⟨unset, -⟩ | ⟨secret, text, time, isSecret, isCode, matched, -, -⟩
        · simp [unset] at factor
        · simp [admission, isStep, shows, isSecret, isCode, matched]

theorem admissions_concat (run : List (UnattendedEvent crates)) (e : UnattendedEvent crates) :
    admissions (run ++ [e]) = admissions run ++ (admission e).toList := by
  unfold admissions
  rw [List.filterMap_append]
  cases found : admission e <;> simp [found]

/-- The admitted steps increase, up to the spent one. -/
theorem admissions_run (start : UnattendedAccess) (ops : List (UnattendedOp crates))
    (kept : ∀ op ∈ ops, KeepsFactor op) :
    ((admissions (events crates start ops)).map Prod.snd).Pairwise (· < ·) ∧
    ∀ entry ∈ admissions (events crates start ops), ∃ last,
      (exec (step crates) start ops).lastCodeStep = some last ∧ entry.2 ≤ last := by
  induction ops using List.reverseRecOn with
  | nil => simp [admissions]
  | append_singleton ops op ih =>
      obtain ⟨increasing, spent⟩ := ih fun earlier member => kept earlier (by simp [member])
      rw [events, history_concat, exec_concat, admissions_concat]
      rcases lastCodeStep_step (kept op (by simp)) with
        ⟨nobody, same⟩ | ⟨code, time, admitted, isLast, unspent⟩
      · rw [nobody, same, Option.toList_none, List.append_nil]
        exact ⟨increasing, spent⟩
      · rw [admitted, isLast]
        have below (entry) (member : entry ∈ admissions (events crates start ops)) :
            entry.2 < time := by
          obtain ⟨last, wasLast, atMost⟩ := spent entry member
          exact UInt64.lt_of_le_of_lt atMost (unspent last wasLast)
        refine ⟨?_, ?_⟩
        · rw [Option.toList_some, List.map_append, List.pairwise_append]
          refine ⟨increasing, by simp, ?_⟩
          intro step member other isTime
          obtain ⟨entry, earlier, rfl⟩ := List.mem_map.mp member
          simp only [List.map_cons, List.map_nil, List.mem_singleton] at isTime
          rw [isTime]
          exact below entry earlier
        · intro entry member
          refine ⟨time, rfl, ?_⟩
          rcases List.mem_append.mp member with earlier | isNew
          · exact UInt64.le_of_lt (below entry earlier)
          · simp only [Option.toList_some, List.mem_singleton] at isNew
            rw [isNew]
            exact UInt64.le_refl time

/-- One-time codes admit once. In a run that keeps the second factor, with any wall clock
readings, the time steps of successive admissions are strictly increasing, a refused attempt
leaves the spent step as it is, no pair of code and step admits twice, and while the factor is
set every admission is by such a code. -/
theorem one_time_codes_admit_once (crates : Crates) (start : UnattendedAccess)
    (ops : List (UnattendedOp crates)) (kept : ∀ op ∈ ops, KeepsFactor op) :
    ((admissions (events crates start ops)).map Prod.snd).Pairwise (· < ·) ∧
    (∀ e ∈ events crates start ops, Fails e → e.post.lastCodeStep = e.pre.lastCodeStep) ∧
    (admissions (events crates start ops)).Nodup ∧
    (∀ e ∈ events crates start ops, Succeeds e → e.pre.totpSecret.isSome →
      (admission e).isSome) := by
  have increasing := (admissions_run start ops kept).1
  refine ⟨increasing, ?_, ?_, ?_⟩
  · intro e member fails
    have isEvent := eq_of_mem_history member
    rw [isEvent] at fails ⊢
    exact lastCodeStep_of_fails fails
  · apply List.Nodup.of_map Prod.snd
    apply increasing.imp
    intro earlier later below same
    rw [same] at below
    exact UInt64.lt_irrefl later below
  · intro e member succeeds factor
    have isEvent := eq_of_mem_history member
    rw [isEvent] at succeeds ⊢
    exact admission_isSome succeeds factor

/-- The code of RFC 6238 at 59 s lets its bearer in once, though it is shown twice. -/
theorem shown_twice_admits_once :
    let start : UnattendedAccess :=
      { passwordHash := some samplePhc, totpSecret := some sampleSecret }
    let show59 : UnattendedOp sampleCrates :=
      .verifyFull (some "correct horse") (some "287082") ⟨0, some 59, 0⟩
    (∀ op ∈ [show59, show59], KeepsFactor op) ∧
      admissions (events sampleCrates start [show59, show59]) = [("287082", 1)] ∧
      (admissions (events sampleCrates start [show59, show59])).Nodup := by
  intro start show59
  have kept : ∀ op ∈ [show59, show59], KeepsFactor op := by
    intro op member
    simp only [List.mem_cons, List.not_mem_nil, or_false, or_self] at member
    rw [member]
    exact ⟨nofun, nofun⟩
  exact ⟨kept, by decide +kernel,
    (one_time_codes_admit_once sampleCrates start [show59, show59] kept).2.2.1⟩

end Lumepeer.Core.UnattendedAccess
