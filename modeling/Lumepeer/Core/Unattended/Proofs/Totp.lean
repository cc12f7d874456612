import Lumepeer.Core.Unattended.Proofs.Crates

/-!
# The codes of the second factor

Dynamic truncation stays inside the digest and a code is six digits whatever the
tag is. `Totp.matchingStep` adds the drift to the clock before it clamps, so the
addition is only safe while the next time step is an `i64` too;
`Totp.meets_iff` says that this is all that is needed.
-/

namespace Lumepeer.Core
open Lumepeer.Lib

/-- HMAC-SHA1 as an arbitrary function: it takes every key. -/
def Crates.withHmacSha1 (crates : Crates) (hmac : List UInt8 → List UInt8 → Bytes 20) : Crates :=
  { crates with hmacSha1 := fun key message => some (hmac key message) }

/-- Six ASCII digits. -/
def IsSixDigits (code : String) : Prop :=
  (asBytes code).length = 6 ∧ ∀ byte ∈ asBytes code, 48 ≤ byte.toNat ∧ byte.toNat ≤ 57

namespace Totp

variable {crates : Crates} {hmac : List UInt8 → List UInt8 → Bytes 20} {totp : Totp}
  {code : String} {unixSecs : UInt64}

/-- The 31 bits dynamic truncation takes from a digest. -/
def truncated (digest : Bytes 20) : UInt32 :=
  have inside : truncationOffset digest + 3 < 20 :=
    Nat.lt_succ_of_lt (Nat.lt_succ_of_le (Nat.add_le_add_right (truncationOffset_le digest) 3))
  let offset := truncationOffset digest
  fromBeBytes32 ⟨[digest.get ⟨offset, by omega⟩ &&& 0x7f, digest.get ⟨offset + 1, by omega⟩,
    digest.get ⟨offset + 2, by omega⟩, digest.get ⟨offset + 3, by omega⟩], rfl⟩

/-- The code of a time step. -/
def codeOf (hmac : List UInt8 → List UInt8 → Bytes 20) (totp : Totp) (step : UInt64) : String :=
  sixDigits (truncated (hmac totp.secret (toBeBytes64 step)) % 1000000)

/-- Two time steps are the same or neighbours. -/
def Near (step current : UInt64) : Prop :=
  step.toNat ≤ current.toNat + 1 ∧ current.toNat ≤ step.toNat + 1

/-- The clock `matching_step` adds the drift to. -/
def clock (unixSecs : UInt64) : Int := min (unixSecs.toNat : Int) (2 ^ 63 - 1)

/-- What is asked of `matching_step` at one code and one clock: no sum leaves `i64`, what it
returns is the step of the code and near the clock, and it takes the code of every step near
the clock. -/
structure Meets (crates : Crates) (hmac : List UInt8 → List UInt8 → Bytes 20) (totp : Totp)
    (code : String) (unixSecs : UInt64) : Prop where
  fits : IsSixDigits code → ∀ drift ∈ [(0 : Int), -1, 1],
    -2 ^ 63 ≤ clock unixSecs + drift * 30 ∧ clock unixSecs + drift * 30 < 2 ^ 63
  returned : ∀ step, totp.matchingStep (crates.withHmacSha1 hmac) code unixSecs = .ok step →
    code = codeOf hmac totp step ∧ Near step (unixSecs / unattendedTotpStepSecs)
  accepted : ∀ step, Near step (unixSecs / unattendedTotpStepSecs) →
    code = codeOf hmac totp step →
    ∃ matched, totp.matchingStep (crates.withHmacSha1 hmac) code unixSecs = .ok matched

theorem generate_eq : totp.generate (crates.withHmacSha1 hmac) unixSecs =
    .ok (codeOf hmac totp (unixSecs / unattendedTotpStepSecs)) := rfl

/-- A decimal digit is one ASCII byte. -/
theorem utf8EncodeChar_of_isDigit {c : Char} (digit : c.isDigit) :
    ∃ byte : UInt8, String.utf8EncodeChar c = [byte] ∧ 48 ≤ byte.toNat ∧ byte.toNat ≤ 57 := by
  have range : 48 ≤ c.val.toNat ∧ c.val.toNat ≤ 57 := by
    simpa [Char.isDigit, UInt32.le_iff_toNat_le] using digit
  refine ⟨c.val.toUInt8, ?_, ?_⟩
  · apply String.utf8EncodeChar_eq_singleton
    unfold Char.utf8Size
    rw [if_pos]
    show c.val.toNat ≤ 127
    omega
  · have isByte : c.val.toUInt8.toNat = c.val.toNat := by
      rw [UInt32.toNat_toUInt8]
      exact Nat.mod_eq_of_lt (by omega)
    omega

/-- Digits are as many bytes as they are characters. -/
theorem asBytes_of_isDigit {chars : List Char} (digits : ∀ c ∈ chars, c.isDigit) :
    (chars.flatMap String.utf8EncodeChar).length = chars.length ∧
      ∀ byte ∈ chars.flatMap String.utf8EncodeChar, 48 ≤ byte.toNat ∧ byte.toNat ≤ 57 := by
  induction chars with
  | nil => simp
  | cons c chars ih =>
      obtain ⟨byte, isByte, range⟩ := utf8EncodeChar_of_isDigit (digits c List.mem_cons_self)
      obtain ⟨length, inRange⟩ := ih fun c member => digits c (List.mem_cons_of_mem _ member)
      rw [List.flatMap_cons, isByte]
      refine ⟨?_, ?_⟩
      · simp [length]
      · intro other member
        rcases List.mem_append.mp member with isFirst | inRest
        · rw [List.mem_singleton.mp isFirst]
          exact range
        · exact inRange other inRest

theorem isSixDigits_sixDigits {n : UInt32} (small : n.toNat < 1000000) :
    IsSixDigits (sixDigits n) := by
  have short : (Nat.toDigits 10 n.toNat).length ≤ 6 := by
    rw [Nat.length_toDigits_le_iff (by omega) (by omega)]
    exact small
  have digits : ∀ c ∈ List.replicate (6 - (Nat.toDigits 10 n.toNat).length) '0' ++
      Nat.toDigits 10 n.toNat, c.isDigit := by
    intro c member
    rcases List.mem_append.mp member with fill | digit
    · rw [List.eq_of_mem_replicate fill]
      rfl
    · exact Nat.isDigit_of_mem_toDigits (by omega) (by omega) digit
  obtain ⟨length, range⟩ := asBytes_of_isDigit digits
  unfold IsSixDigits sixDigits
  rw [asBytes_ofList]
  refine ⟨?_, range⟩
  rw [length, List.length_append, List.length_replicate]
  omega

theorem isSixDigits_codeOf (step : UInt64) : IsSixDigits (codeOf hmac totp step) := by
  apply isSixDigits_sixDigits
  rw [UInt32.toNat_mod]
  exact Nat.mod_lt _ (by decide)

/-- What the comparison has gathered is zero exactly if it was before and no two bytes
differ. -/
theorem foldl_differs (pairs : List (UInt8 × UInt8)) (differs : UInt8) :
    pairs.foldl (fun differs (a, b) => differs ||| (a ^^^ b)) differs = 0 ↔
      differs = 0 ∧ ∀ pair ∈ pairs, pair.1 = pair.2 := by
  induction pairs generalizing differs with
  | nil => simp
  | cons pair pairs ih =>
      rw [List.foldl_cons, ih, UInt8.or_eq_zero_iff, UInt8.xor_eq_zero_iff, List.forall_mem_cons,
        and_assoc]

theorem eq_of_zip {first second : List UInt8} (length : first.length = second.length)
    (agree : ∀ pair ∈ first.zip second, pair.1 = pair.2) : first = second := by
  induction first generalizing second with
  | nil => exact (List.length_eq_zero_iff.mp length.symm).symm
  | cons byte first ih =>
      cases second with
      | nil => cases length
      | cons other second =>
          rw [List.zip_cons_cons, List.forall_mem_cons] at agree
          have same : byte = other := agree.1
          rw [same, ih (Nat.succ.inj length) agree.2]

theorem sameCode_iff {expected presented : String} :
    sameCode expected presented = true ↔ expected = presented := by
  unfold sameCode
  rw [Bool.and_eq_true, beq_iff_eq, beq_iff_eq, foldl_differs]
  constructor
  · rintro ⟨length, -, agree⟩
    exact asBytes_inj (eq_of_zip length agree)
  · rintro rfl
    refine ⟨rfl, rfl, ?_⟩
    intro pair member
    obtain ⟨i, inBounds, rfl⟩ := List.mem_iff_getElem.mp member
    rw [List.getElem_zip]

theorem isSixDigits_iff : IsSixDigits code ↔
    ¬((asBytes code).length ≠ 6 || !(asBytes code).all isAsciiDigit) = true := by
  simp [IsSixDigits, isAsciiDigit, UInt8.le_iff_toNat_le]

/-- The step a drift leads to has the presented code. -/
def Hits (hmac : List UInt8 → List UInt8 → Bytes 20) (totp : Totp) (code : String)
    (unixSecs : UInt64) (drift : Int) : Bool :=
  codeOf hmac totp (candidate unixSecs drift / unattendedTotpStepSecs) = code

theorem matchingStep_of_not_digits (refused : ¬IsSixDigits code) :
    totp.matchingStep (crates.withHmacSha1 hmac) code unixSecs = .error .badCode := by
  unfold matchingStep
  rw [if_pos (not_not.mp (isSixDigits_iff.not.mp refused))]

/-- All candidates are compared and the first that hits is kept. -/
theorem foldlM_candidates (drifts : List Int) (matched : Option UInt64) :
    drifts.foldlM (fun (matched : Option UInt64) (drift : Int) => do
      let expected ← totp.generate (crates.withHmacSha1 hmac) (candidate unixSecs drift)
      return if sameCode expected code && matched.isNone then
        some (candidate unixSecs drift / unattendedTotpStepSecs) else matched) matched =
      .ok (matched.or ((drifts.find? (Hits hmac totp code unixSecs)).map fun drift =>
        candidate unixSecs drift / unattendedTotpStepSecs)) := by
  induction drifts generalizing matched with
  | nil =>
      rw [List.foldlM_nil, List.find?_nil, Option.map_none, Option.or_none]
      rfl
  | cons drift drifts ih =>
      have compared : sameCode (codeOf hmac totp (candidate unixSecs drift /
          unattendedTotpStepSecs)) code = Hits hmac totp code unixSecs drift := by
        rw [Hits, Bool.eq_iff_iff, sameCode_iff, decide_eq_true_eq]
      rw [List.foldlM_cons, generate_eq, List.find?_cons]
      simp only [bind, Except.bind, pure, Except.pure, compared] at ih ⊢
      rw [ih]
      cases matched with
      | some step => simp
      | none => cases Hits hmac totp code unixSecs drift <;> simp

theorem matchingStep_eq (digits : IsSixDigits code) :
    totp.matchingStep (crates.withHmacSha1 hmac) code unixSecs =
      match [0, -1, 1].find? (Hits hmac totp code unixSecs) with
      | some drift => .ok (candidate unixSecs drift / unattendedTotpStepSecs)
      | none => .error .badCode := by
  unfold matchingStep
  rw [if_neg (isSixDigits_iff.mp digits), foldlM_candidates, Option.none_or]
  cases [0, -1, 1].find? (Hits hmac totp code unixSecs) with
  | none => rfl
  | some drift => rfl

/-- The candidate of a drift, where the sum is an `i64`. -/
theorem toNat_candidate {drift : Int} (low : -2 ^ 63 ≤ clock unixSecs + drift * 30)
    (high : clock unixSecs + drift * 30 < 2 ^ 63) :
    (candidate unixSecs drift).toNat = (clock unixSecs + drift * 30).toNat := by
  have isStep : (unattendedTotpStepSecs.toNat : Int) = 30 := rfl
  have kept : (clock unixSecs + drift * 30).bmod (2 ^ 64) = clock unixSecs + drift * 30 :=
    Int.bmod_eq_of_le (by omega) (by omega)
  unfold candidate
  simp only [isStep]
  rw [← clock, kept, UInt64.toNat_ofNat']
  omega

/-- No sum overflows exactly if the step after the clock's is still an `i64`. -/
theorem fits_iff : (∀ drift ∈ [(0 : Int), -1, 1],
    -2 ^ 63 ≤ clock unixSecs + drift * 30 ∧ clock unixSecs + drift * 30 < 2 ^ 63) ↔
    unixSecs.toNat + 30 < 2 ^ 63 := by
  unfold clock
  constructor
  · intro fits
    have after := fits 1 (by simp)
    omega
  · intro early drift member
    rcases List.mem_cons.mp member with rfl | member
    · omega
    · rcases List.mem_cons.mp member with rfl | member
      · omega
      · rw [List.mem_singleton.mp member]
        omega

/-- Away from the end of `i64` the candidates are the steps near the clock. -/
theorem near_iff (early : unixSecs.toNat + 30 < 2 ^ 63) (step : UInt64) :
    Near step (unixSecs / unattendedTotpStepSecs) ↔
      ∃ drift ∈ [(0 : Int), -1, 1],
        candidate unixSecs drift / unattendedTotpStepSecs = step := by
  have isStep : unattendedTotpStepSecs.toNat = 30 := rfl
  have isClock : clock unixSecs = unixSecs.toNat := by
    unfold clock
    omega
  have isCandidate : ∀ drift ∈ [(0 : Int), -1, 1],
      (candidate unixSecs drift / unattendedTotpStepSecs).toNat =
        ((unixSecs.toNat : Int) + drift * 30).toNat / 30 := by
    intro drift member
    obtain ⟨low, high⟩ := fits_iff.mpr early drift member
    rw [UInt64.toNat_div, toNat_candidate low high, isStep, isClock]
  unfold Near
  rw [UInt64.toNat_div, isStep]
  constructor
  · rintro ⟨notLater, notEarlier⟩
    have which : step.toNat = unixSecs.toNat / 30 ∨ step.toNat + 1 = unixSecs.toNat / 30 ∨
        step.toNat = unixSecs.toNat / 30 + 1 := by omega
    rcases which with now | before | after
    · refine ⟨0, by simp, ?_⟩
      rw [← UInt64.toNat_inj, isCandidate 0 (by simp)]
      omega
    · refine ⟨-1, by simp, ?_⟩
      rw [← UInt64.toNat_inj, isCandidate (-1) (by simp)]
      omega
    · refine ⟨1, by simp, ?_⟩
      rw [← UInt64.toNat_inj, isCandidate 1 (by simp)]
      omega
  · rintro ⟨drift, member, rfl⟩
    rw [isCandidate drift member]
    rcases List.mem_cons.mp member with rfl | member
    · omega
    · rcases List.mem_cons.mp member with rfl | member
      · omega
      · rw [List.mem_singleton.mp member]
        omega

theorem meets_of_not_digits (refused : ¬IsSixDigits code) :
    Meets crates hmac totp code unixSecs where
  fits digits := absurd digits refused
  returned step matched := by
    rw [matchingStep_of_not_digits refused] at matched
    cases matched
  accepted step _ isCode := absurd (isCode ▸ isSixDigits_codeOf step) refused

theorem meets_of_early (early : unixSecs.toNat + 30 < 2 ^ 63) :
    Meets crates hmac totp code unixSecs where
  fits _ := fits_iff.mpr early
  returned step matched := by
    by_cases digits : IsSixDigits code
    · rw [matchingStep_eq digits] at matched
      cases hit : [(0 : Int), -1, 1].find? (Hits hmac totp code unixSecs) with
      | none =>
          rw [hit] at matched
          cases matched
      | some drift =>
          rw [hit] at matched
          cases matched
          have isCode := of_decide_eq_true (List.find?_some (p := Hits hmac totp code unixSecs) hit)
          exact ⟨isCode.symm, (near_iff early _).mpr ⟨drift, List.mem_of_find?_eq_some hit, rfl⟩⟩
    · rw [matchingStep_of_not_digits digits] at matched
      cases matched
  accepted step near isCode := by
    have digits : IsSixDigits code := isCode ▸ isSixDigits_codeOf step
    obtain ⟨drift, member, isStep⟩ := (near_iff early step).mp near
    have hits : Hits hmac totp code unixSecs drift = true := by
      rw [Hits, isStep, isCode]
      exact decide_eq_true rfl
    rw [matchingStep_eq digits]
    cases hit : [(0 : Int), -1, 1].find? (Hits hmac totp code unixSecs) with
    | none => exact absurd hits (List.find?_eq_none.mp hit drift member)
    | some first => exact ⟨_, rfl⟩

/-- The codes are six digits taken from inside the digest, and `matching_step` does what is
asked of it exactly for texts that are no code and clocks whose next step is an `i64`. -/
theorem meets_iff (crates : Crates) (hmac : List UInt8 → List UInt8 → Bytes 20) (totp : Totp) :
    (∀ digest, truncationOffset digest + 3 < 20) ∧
    (∀ unixSecs, totp.generate (crates.withHmacSha1 hmac) unixSecs =
        .ok (codeOf hmac totp (unixSecs / unattendedTotpStepSecs)) ∧
      IsSixDigits (codeOf hmac totp (unixSecs / unattendedTotpStepSecs))) ∧
    ∀ code unixSecs, Meets crates hmac totp code unixSecs ↔
      ¬IsSixDigits code ∨ unixSecs.toNat + 30 < 2 ^ 63 := by
  refine ⟨?_, fun unixSecs => ⟨generate_eq, isSixDigits_codeOf _⟩, ?_⟩
  · intro digest
    have inside := truncationOffset_le digest
    omega
  · intro code unixSecs
    constructor
    · intro meets
      rw [← imp_iff_not_or]
      intro digits
      exact fits_iff.mp (meets.fits digits)
    · rintro (refused | early)
      · exact meets_of_not_digits refused
      · exact meets_of_early early

/-- At the end of `i64` the sum wraps and the code of time step zero is taken. -/
theorem not_meets_max : ¬∀ (crates : Crates) (hmac : List UInt8 → List UInt8 → Bytes 20)
    (totp : Totp) (code : String) (unixSecs : UInt64), Meets crates hmac totp code unixSecs := by
  intro always
  have meets := always sampleCrates sampleHmacSha1 ⟨sampleSecret.toList⟩ "755224"
    9223372036854775807
  have taken : Totp.matchingStep (sampleCrates.withHmacSha1 sampleHmacSha1)
      ⟨sampleSecret.toList⟩ "755224" 9223372036854775807 = .ok 0 := by decide
  have near := (meets.returned 0 taken).2
  exact absurd near.2 (by decide)

end Totp
end Lumepeer.Core
