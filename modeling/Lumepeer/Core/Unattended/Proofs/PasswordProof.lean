import Lumepeer.Core.Unattended.Proofs.Attempt
import Lumepeer.Core.Unattended.Proofs.Crates

/-!
# The password proof against the plain password

A proof runs through key derivation, key agreement, a sealed code and a tag
before it reaches the same bookkeeping as a plain password. It confirms exactly
if the plain password would be accepted, and it carries the first 32 bytes of
the code if they are text and no code at all if they are not. The two ways into
the gate differ only in that last case.
-/

namespace Lumepeer.Core
open Lumepeer.Lib

/-- What the sealed channel delivers of a code: its first 32 bytes, if they are text. -/
def carriedCode (code : Option String) : Option String :=
  code.bind fun text => fromUtf8 ((asBytes text).take 32)

/-- The cut after 32 bytes falls inside a character of the code. -/
def CutsCharacter (code : Option String) : Prop :=
  ∃ text, code = some text ∧ fromUtf8 ((asBytes text).take 32) = none

/-- The pad undoes itself, as far as it reaches. -/
theorem map_xor_zip_self (bytes pad : List UInt8) :
    (((bytes.zip pad).map fun (byte, key) => byte ^^^ key).zip pad).map
      (fun (byte, key) => byte ^^^ key) = bytes.take pad.length := by
  induction bytes generalizing pad with
  | nil => simp
  | cons byte bytes ih =>
      cases pad with
      | nil => simp
      | cons key pad =>
          have cancel : byte ^^^ key ^^^ key = byte := by
            rw [UInt8.xor_assoc, UInt8.xor_self, UInt8.xor_zero]
          simp [ih, cancel]

theorem xorPad_xorPad (bytes : List UInt8) (pad : Bytes 32) :
    xorPad (xorPad bytes pad) pad = bytes.take 32 := by
  have undone := map_xor_zip_self bytes pad.toList
  rw [pad.toList_length] at undone
  exact undone

theorem openCode_sealCode (crates : Crates) (shared : List UInt8) (sessionId : SessionId)
    (code : String) :
    openCode crates shared sessionId (sealCode crates shared sessionId code) =
      fromUtf8 ((asBytes code).take 32) := by
  rw [openCode, sealCode, xorPad_xorPad]

theorem matchingStep_of_length_ne (crates : Crates) (totp : Totp) {code : String}
    (sized : (asBytes code).length ≠ 6) (unixSecs : UInt64) :
    totp.matchingStep crates code unixSecs = .error .badCode := by
  simp [Totp.matchingStep, sized]

/-- A code of at most 32 bytes is carried whole. -/
theorem carriedCode_of_length_le {text : String} (short : (asBytes text).length ≤ 32) :
    carriedCode (some text) = some text := by
  simp [carriedCode, List.take_of_length_le short]

namespace UnattendedAccess

/-- The gate's hash is one `set_password(password)` stored. -/
def StoredBy (crates : Crates) (access : UnattendedAccess) (password : String) : Prop :=
  ∃ before salt, (setPassword crates before password salt).1 = .ok () ∧
    access.passwordHash = (setPassword crates before password salt).2.passwordHash

/-- A password proof from beginning to end: the host begins, the guest answers, the host
decides. -/
def proofAttempt (crates : Crates) (access : UnattendedAccess) (password : String)
    (code : Option String) (host guest : NodeId) (sessionId : SessionId)
    (hostScalar guestScalar : List UInt8) (clock : Readings) :
    Except UnattendedError (Except UnattendedError Role × UnattendedAccess) :=
  match access.beginProof crates host guest sessionId hostScalar with
  | .error error => .error error
  | .ok (pending, kdf, message) =>
      match answerProof crates password code kdf message host guest sessionId guestScalar with
      | .error error => .error error
      | .ok answer => .ok (access.admitProof crates pending answer clock)

/-- The gate's hash under a lawful Argon2: salt and key of the stored password. -/
theorem wrote_of_storedBy {crates : Crates} (lawful : crates.Lawful) {access : UnattendedAccess}
    {password : String} (stored : access.StoredBy crates password) :
    ∃ (phc : String) (parsed : PasswordHash) (salt : Bytes 16) (key : List UInt8),
      access.passwordHash = some phc ∧ crates.parseHash phc = some parsed ∧
      crates.Wrote parsed salt.toList key ∧ key.length = 32 := by
  obtain ⟨before, salt, succeeded, isHash⟩ := stored
  unfold setPassword at succeeded isHash
  split at succeeded
  · cases succeeded
  · rename_i policy
    rw [if_neg policy] at isHash
    cases wrote : crates.hashPassword (asBytes password) salt with
    | none => simp [wrote] at succeeded
    | some phc =>
        rw [wrote] at isHash
        obtain ⟨parsed, key, reads, isWritten, derived⟩ := lawful.hashPassword _ _ _ wrote
        obtain ⟨same, isKey, sized⟩ := lawful.argon2id (asBytes password) salt.toList
        rw [derived] at isKey
        cases isKey
        exact ⟨phc, parsed, salt, key, isHash, reads, isWritten, sized⟩

/-- The derivation a host asks for under the default parameters. -/
def defaultKdf (salt : List UInt8) : ProofKdf :=
  { salt, memoryKib := 19456, iterations := 2, lanes := 1, outputLen := 32 }

theorem withinBounds_defaultKdf (salt : Bytes 16) : (defaultKdf salt.toList).withinBounds = true := by
  unfold ProofKdf.withinBounds defaultKdf
  rw [salt.toList_length]
  rfl

theorem storedKey_of_wrote {crates : Crates} {phc : String} {parsed : PasswordHash} {salt : Bytes 16}
    {key : List UInt8} (reads : crates.parseHash phc = some parsed)
    (wrote : crates.Wrote parsed salt.toList key) (sized : key.length = 32) :
    storedKey crates phc = .ok (defaultKdf salt.toList, key) := by
  obtain ⟨params, isParams, isM, isT, isP⟩ := wrote.params
  have bounds := withinBounds_defaultKdf salt
  unfold defaultKdf at bounds ⊢
  simp only [storedKey, reads, wrote.algorithm, wrote.version, isParams, wrote.salt, wrote.hash,
    sized, isM, isT, isP]
  simp [bounds]

theorem deriveKey_defaultKdf {crates : Crates} (lawful : crates.Lawful) (password : List UInt8)
    (salt : Bytes 16) {key : List UInt8}
    (derived : crates.argon2id .default password salt.toList 32 = some key) :
    deriveKey crates password (defaultKdf salt.toList) = .ok key := by
  have bounds := withinBounds_defaultKdf salt
  have isParams := lawful.newParams
  unfold defaultKdf at bounds ⊢
  simp [deriveKey, bounds, isParams, derived]

/-- The plain password is accepted exactly if its key is the stored one. -/
theorem checkPassword_of_wrote {crates : Crates} (lawful : crates.Lawful) {access : UnattendedAccess}
    {phc : String} {parsed : PasswordHash} {salt key guessKey : List UInt8}
    (isHash : access.passwordHash = some phc) (reads : crates.parseHash phc = some parsed)
    (wrote : crates.Wrote parsed salt key) {guess : String}
    (derived : crates.argon2id .default (asBytes guess) salt 32 = some guessKey) :
    access.checkPassword crates guess = if guessKey = key then .ok () else .error .badPassword := by
  have accepts := lawful.verifyPassword parsed salt key wrote (asBytes guess)
  rw [derived, Option.some.injEq] at accepts
  simp only [checkPassword, isHash, reads, accepts]

/-- The proof confirms exactly if the two keys are equal, and then hands over the carried
code. -/
theorem openProof_of_answer {crates : Crates} (lawful : crates.Lawful)
    {hostScalar guestScalar key guessKey hostId guestId : List UInt8} {sessionId : SessionId}
    {code : Option String} {shared : List UInt8}
    (finished : crates.finish (crates.startA guestScalar guessKey guestId hostId).1
      (crates.startB hostScalar key guestId hostId).2 = some shared) {tag : Bytes 32}
    (tagged : confirmMac crates shared sessionId
      (code.map fun text => sealCode crates shared sessionId text) = some tag) :
    openProof crates ⟨(crates.startB hostScalar key guestId hostId).1, sessionId⟩
      ⟨(crates.startA guestScalar guessKey guestId hostId).2,
        code.map fun text => sealCode crates shared sessionId text, tag⟩ =
      if guessKey = key then (.ok (), carriedCode code) else (.error .badPassword, none) := by
  obtain ⟨sharedA, sharedB, atGuest, atHost, sizeA, sizeB, agree⟩ :=
    lawful.spake2 guestScalar hostScalar guessKey key guestId hostId
  rw [finished] at atGuest
  cases atGuest
  by_cases same : guessKey = key
  · have sameShared : shared = sharedB := agree.mpr same
    rw [if_pos same]
    subst sameShared
    simp only [openProof, confirmedKey, atHost, tagged, Option.filter_some, beq_self_eq_true, if_true]
    cases code with
    | none => rfl
    | some text => simp [carriedCode, openCode_sealCode]
  · have differ : shared ≠ sharedB := fun equal => same (agree.mp equal)
    have refused : (confirmMac crates sharedB sessionId
        (code.map fun text => sealCode crates shared sessionId text) == some tag) = false := by
      rw [beq_eq_false_iff_ne, ← tagged]
      intro equal
      exact differ (lawful.separates _ _ _ sizeA sizeB equal.symm)
    rw [if_neg same]
    simp only [openProof, confirmedKey, atHost, Option.filter_some, refused, Bool.false_eq_true,
      if_false]

/-- A proof presents the verdict on the plain password and, if that is good, the carried code. -/
theorem proofAttempt_eq {crates : Crates} (lawful : crates.Lawful) {access : UnattendedAccess}
    {password : String} (stored : access.StoredBy crates password) (guess : String)
    (code : Option String) (host guest : NodeId) (sessionId : SessionId)
    (hostScalar guestScalar : List UInt8) (clock : Readings) :
    ∃ carried,
      access.proofAttempt crates guess code host guest sessionId hostScalar guestScalar clock =
        .ok (withRole (access.attempt crates ⟨access.checkPassword crates guess, carried, clock⟩)) ∧
      (access.checkPassword crates guess = .ok () → carried = carriedCode code) := by
  obtain ⟨phc, parsed, salt, key, isHash, reads, wrote, sized⟩ := wrote_of_storedBy lawful stored
  obtain ⟨guessKey, derived, -⟩ := lawful.argon2id (asBytes guess) salt.toList
  obtain ⟨shared, _, atGuest, -⟩ :=
    lawful.spake2 guestScalar hostScalar guessKey key guest.bytes.toList host.bytes.toList
  obtain ⟨tag, tagged⟩ := Option.isSome_iff_exists.mp (lawful.hmacSha256 shared (confirmMessage sessionId
    (code.map fun text => sealCode crates shared sessionId text)))
  have opened := openProof_of_answer lawful atGuest tagged
  have verdict := checkPassword_of_wrote lawful isHash reads wrote derived
  have ran : access.proofAttempt crates guess code host guest sessionId hostScalar guestScalar clock =
      .ok (access.admitProof crates
        ⟨(crates.startB hostScalar key guest.bytes.toList host.bytes.toList).1, sessionId⟩
        ⟨(crates.startA guestScalar guessKey guest.bytes.toList host.bytes.toList).2,
          code.map fun text => sealCode crates shared sessionId text, tag⟩ clock) := by
    simp only [proofAttempt, beginProof, isHash, storedKey_of_wrote reads wrote sized, answerProof,
      deriveKey_defaultKdf lawful _ salt derived, atGuest, confirmMac, tagged]
  rw [ran, admitProof_eq_attempt, opened, verdict]
  by_cases same : guessKey = key
  · rw [if_pos same, if_pos same]
    exact ⟨carriedCode code, rfl, fun _ => rfl⟩
  · rw [if_neg same, if_neg same]
    exact ⟨none, rfl, nofun⟩

/-- The second factor's verdict on the carried code is that on the code itself, unless a
character is cut. -/
theorem codeVerdict_carriedCode {crates : Crates} {access : UnattendedAccess} {code : Option String}
    (whole : ¬ (access.totpSecret.isSome ∧ CutsCharacter code)) (wall : Option UInt64) :
    access.codeVerdict crates (carriedCode code) wall = access.codeVerdict crates code wall := by
  cases factor : access.totpSecret with
  | none => simp [codeVerdict, factor]
  | some secret =>
      cases code with
      | none => rfl
      | some text =>
          by_cases short : (asBytes text).length ≤ 32
          · rw [carriedCode_of_length_le short]
          · cases carried : fromUtf8 ((asBytes text).take 32) with
            | none => exact absurd ⟨by simp [factor], text, rfl, carried⟩ whole
            | some start =>
                -- Neither the code nor what is carried of it has six bytes.
                have cut : (asBytes start).length = 32 := by
                  rw [asBytes_of_fromUtf8 carried, List.length_take]
                  omega
                have isCarried : carriedCode (some text) = some start := carried
                simp only [codeVerdict, factor, isCarried,
                  matchingStep_of_length_ne crates _ (by omega : (asBytes start).length ≠ 6),
                  matchingStep_of_length_ne crates _ (by omega : (asBytes text).length ≠ 6)]

/-- Where a character is cut, the proof is short of a code and the plain code is wrong. -/
theorem codeVerdict_of_cutsCharacter {crates : Crates} {access : UnattendedAccess}
    {code : Option String} (factor : access.totpSecret.isSome) (cuts : CutsCharacter code)
    (wall : Option UInt64) :
    access.codeVerdict crates (carriedCode code) wall = .error .missingCode ∧
      access.codeVerdict crates code wall = .error .badCode := by
  obtain ⟨secret, isSecret⟩ := Option.isSome_iff_exists.mp factor
  obtain ⟨text, rfl, noText⟩ := cuts
  have isCarried : carriedCode (some text) = none := noText
  have long : ¬ (asBytes text).length ≤ 32 := by
    intro short
    rw [carriedCode_of_length_le short] at isCarried
    cases isCarried
  refine ⟨?_, ?_⟩
  · simp only [codeVerdict, isSecret, isCarried]
  · simp only [codeVerdict, isSecret,
      matchingStep_of_length_ne crates _ (by omega : (asBytes text).length ≠ 6)]

/-- The code counts only after a good password, and only by its verdict. -/
theorem attempt_congr {crates : Crates} {access : UnattendedAccess}
    {passwordOk : Except UnattendedError Unit} {code other : Option String} {clock : Readings}
    (same : passwordOk = .ok () →
      access.codeVerdict crates code clock.wall = access.codeVerdict crates other clock.wall) :
    access.attempt crates ⟨passwordOk, code, clock⟩ =
      access.attempt crates ⟨passwordOk, other, clock⟩ := by
  unfold attempt conclude
  cases access.checkOpen clock.opened with
  | error error => rfl
  | ok _ =>
      cases passwordOk with
      | error error => rfl
      | ok _ => simp only [same rfl]

/-- The gate is open, asks for a code and has accepted the password, and the code is cut inside a
character. -/
structure LosesCode (crates : Crates) (access : UnattendedAccess) (guess : String)
    (code : Option String) (clock : Readings) : Prop where
  isOpen : access.checkOpen clock.opened = .ok ()
  accepted : access.checkPassword crates guess = .ok ()
  factor : access.totpSecret.isSome
  cuts : CutsCharacter code

/-- Where the code is lost the two ways end in different errors. -/
theorem proofAttempt_of_losesCode {crates : Crates} (lawful : crates.Lawful)
    {access : UnattendedAccess} {password : String} (stored : access.StoredBy crates password)
    {guess : String} {code : Option String} {clock : Readings}
    (loses : access.LosesCode crates guess code clock) (host guest : NodeId) (sessionId : SessionId)
    (hostScalar guestScalar : List UInt8) :
    access.proofAttempt crates guess code host guest sessionId hostScalar guestScalar clock =
        .ok (.error .missingCode, access.fail clock.concluded) ∧
      access.admitPassword crates (some guess) code clock =
        (.error .badCode, access.fail clock.concluded) := by
  obtain ⟨carried, ran, isCarried⟩ := proofAttempt_eq lawful stored guess code host guest sessionId
    hostScalar guestScalar clock
  obtain ⟨missing, bad⟩ :=
    @codeVerdict_of_cutsCharacter crates access code loses.factor loses.cuts clock.wall
  rw [ran, isCarried loses.accepted, admitPassword_eq_attempt, passwordVerdict, loses.accepted]
  refine ⟨?_, ?_⟩
  · simp only [attempt, loses.isOpen, conclude, missing, withRole]
    rfl
  · simp only [attempt, loses.isOpen, conclude, bad, withRole]
    rfl

/-- A password proof ends as the plain password would, with the same answer and the same gate,
exactly unless the gate is open, asks for a code and accepts the password, and the first 32 bytes
of the code are no text. -/
theorem proof_admits_like_password_iff (crates : Crates) (lawful : crates.Lawful)
    (access : UnattendedAccess) (password : String) (stored : access.StoredBy crates password)
    (guess : String) (code : Option String) (host guest : NodeId) (sessionId : SessionId)
    (hostScalar guestScalar : List UInt8) (clock : Readings) :
    access.proofAttempt crates guess code host guest sessionId hostScalar guestScalar clock =
        .ok (access.admitPassword crates (some guess) code clock) ↔
      ¬ access.LosesCode crates guess code clock := by
  constructor
  · intro same loses
    obtain ⟨proved, plain⟩ := proofAttempt_of_losesCode lawful stored loses host guest sessionId
      hostScalar guestScalar
    rw [proved, plain] at same
    cases same
  · intro keeps
    obtain ⟨carried, ran, isCarried⟩ := proofAttempt_eq lawful stored guess code host guest sessionId
      hostScalar guestScalar clock
    rw [ran, admitPassword_eq_attempt, passwordVerdict]
    by_cases isOpen : access.checkOpen clock.opened = .ok ()
    · congr 2
      apply attempt_congr
      intro accepted
      rw [isCarried accepted]
      apply codeVerdict_carriedCode
      rintro ⟨factor, cuts⟩
      exact keeps ⟨isOpen, accepted, factor, cuts⟩
    · unfold attempt
      cases closed : access.checkOpen clock.opened with
      | error error => rfl
      | ok _ => exact absurd closed isOpen

/-- The sample gate with a second factor. -/
def sampleGate : UnattendedAccess :=
  { passwordHash := some samplePhc, totpSecret := some sampleSecret }

/-- A peer for the two sides of the sample exchange. -/
def samplePeer : NodeId := ⟨List.Vector.replicate 32 0⟩

theorem sampleGate_stored : sampleGate.StoredBy sampleCrates "correct horse" :=
  ⟨new, sampleSalt, rfl, rfl⟩

/-- With the right password and the code of RFC 6238 at 59 s both ways let the guest in. -/
theorem sample_proof_admits :
    sampleCrates.Lawful ∧ sampleGate.StoredBy sampleCrates "correct horse" ∧
      sampleGate.proofAttempt sampleCrates "correct horse" (some "287082") samplePeer samplePeer
          (List.Vector.replicate 16 0) [] [] ⟨0, some 59, 0⟩ =
        .ok (sampleGate.admitPassword sampleCrates (some "correct horse") (some "287082")
          ⟨0, some 59, 0⟩) := by
  refine ⟨sampleCrates_lawful, sampleGate_stored, ?_⟩
  apply (proof_admits_like_password_iff sampleCrates sampleCrates_lawful sampleGate "correct horse"
    sampleGate_stored "correct horse" (some "287082") samplePeer samplePeer
    (List.Vector.replicate 16 0) [] [] ⟨0, some 59, 0⟩).mpr
  rintro ⟨-, -, -, text, isText, noText⟩
  cases isText
  exact absurd noText (by decide +kernel)

/-- Eleven three-byte characters are cut inside the last: the proof misses a code where the plain
way calls it wrong. -/
theorem cut_code_is_missing :
    ¬ ∀ (crates : Crates) (access : UnattendedAccess) (password guess : String)
      (code : Option String) (host guest : NodeId) (sessionId : SessionId)
      (hostScalar guestScalar : List UInt8) (clock : Readings),
      crates.Lawful → access.StoredBy crates password →
        access.proofAttempt crates guess code host guest sessionId hostScalar guestScalar clock =
          .ok (access.admitPassword crates (some guess) code clock) := by
  intro claimed
  let code := "€€€€€€€€€€€"
  have cuts : CutsCharacter (some code) := ⟨code, rfl, by decide +kernel⟩
  have loses : sampleGate.LosesCode sampleCrates "correct horse" (some code) ⟨0, some 59, 0⟩ :=
    ⟨rfl, by decide +kernel, rfl, cuts⟩
  have same := claimed sampleCrates sampleGate "correct horse" "correct horse" (some code)
    samplePeer samplePeer (List.Vector.replicate 16 0) [] [] ⟨0, some 59, 0⟩ sampleCrates_lawful
    sampleGate_stored
  obtain ⟨proved, plain⟩ := proofAttempt_of_losesCode sampleCrates_lawful sampleGate_stored loses
    samplePeer samplePeer (List.Vector.replicate 16 0) [] []
  rw [proved, plain] at same
  cases same

end UnattendedAccess

end Lumepeer.Core
