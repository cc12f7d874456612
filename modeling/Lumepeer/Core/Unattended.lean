import Lumepeer.Core.Consent
import Lumepeer.Lib.Run
import Lumepeer.Lib.Saturating
import Lumepeer.Lib.Utf8

/-!
# Unattended access

The gate of `crates/core/src/unattended.rs`: device password, one-time codes,
lockout and the password proof. What the source takes from other crates (HMAC,
Argon2 with its PHC strings, SPAKE2) is the record `Crates`; random draws and
clock readings are arguments of the functions that make them.
-/

namespace Lumepeer.Core
open Lumepeer.Lib

/-- `UnattendedError` (`unattended.rs:58-104`). -/
inductive UnattendedError where
  | notConfigured
  | badPassword
  | missingPassword
  | badCode
  | missingCode
  | lockedOut (remainingSecs : Nat)
  | corruptStore
  | badChallenge
  | saltGeneration
  | passwordPolicy (min max : Nat)
  deriving DecidableEq, Repr

/-- `password_hash::phc::PasswordHash`: a PHC string taken apart. -/
structure PasswordHash where
  algorithm : String
  version : Option UInt32
  params : List (String × String)
  salt : Option (List UInt8)
  hash : Option (List UInt8)
  deriving DecidableEq

/-- `argon2::Params`. -/
structure Argon2Params where
  mCost : UInt32
  tCost : UInt32
  pCost : UInt32
  outputLen : Option Nat
  deriving DecidableEq

/-- The functions the source takes from other crates. -/
structure Crates where
  /-- `Hmac::<Sha1>::new_from_slice(key)` and the tag of `message`. -/
  hmacSha1 : (key message : List UInt8) → Option (Bytes 20)
  /-- `Hmac::<Sha256>::new_from_slice(key)` and the tag of `message`. -/
  hmacSha256 : (key message : List UInt8) → Option (Bytes 32)
  /-- `PasswordHash::new(phc).ok()`. -/
  parseHash : (phc : String) → Option PasswordHash
  /-- `argon2::Params::try_from(&parsed).ok()`. -/
  paramsOf : PasswordHash → Option Argon2Params
  /-- `argon2::Params::new(m_cost, t_cost, p_cost, Some(len)).ok()`. -/
  newParams : (mCost tCost pCost : UInt32) → (len : Nat) → Option Argon2Params
  /-- `Argon2::default().hash_password(password)` with the salt it draws. -/
  hashPassword : (password : List UInt8) → (salt : Bytes 16) → Option String
  /-- `Argon2::default().verify_password(password, &parsed).is_ok()`. -/
  verifyPassword : (password : List UInt8) → PasswordHash → Bool
  /-- `Argon2::new(Argon2id, V0x13, params).hash_password_into(password, salt, _).ok()`. -/
  argon2id : Argon2Params → (password salt : List UInt8) → (len : Nat) → Option (List UInt8)
  /-- `Spake2<Ed25519Group>`: one side's secret state. -/
  Spake : Type
  /-- `Spake2::start_a(password, id_a, id_b)` with the scalar it draws. -/
  startA : (scalar password idA idB : List UInt8) → Spake × List UInt8
  /-- `Spake2::start_b(password, id_a, id_b)` with the scalar it draws. -/
  startB : (scalar password idA idB : List UInt8) → Spake × List UInt8
  /-- `Spake2::finish(message).ok()`. -/
  finish : Spake → (message : List UInt8) → Option (List UInt8)

/-- `Totp` (`unattended.rs:116-118`). -/
structure Totp where
  secret : List UInt8

/-- `b.is_ascii_digit()`. -/
def isAsciiDigit (b : UInt8) : Bool := 48 ≤ b && b ≤ 57

/-- `same_code` (`unattended.rs:217-224`). -/
def sameCode (expected presented : String) : Bool :=
  (asBytes expected).length == (asBytes presented).length
    && ((asBytes expected).zip (asBytes presented)).foldl
      (fun differs (a, b) => differs ||| (a ^^^ b)) 0 == 0

/-- `format!("{:06}", n)`. -/
def sixDigits (n : UInt32) : String :=
  let digits := Nat.toDigits 10 n.toNat
  String.ofList (List.replicate (6 - digits.length) '0' ++ digits)

/-- The low nibble of the last digest byte (`unattended.rs:145`). -/
def truncationOffset (digest : Bytes 20) : Nat := (digest.get 19 &&& 0x0f).toNat

theorem truncationOffset_le (digest : Bytes 20) : truncationOffset digest ≤ 15 := by
  unfold truncationOffset
  rw [UInt8.toNat_and]
  exact Nat.and_le_right

namespace Totp

/-- `Totp::generate` (`unattended.rs:135-151`). -/
def generate (crates : Crates) (totp : Totp) (unixSecs : UInt64) : Except UnattendedError String :=
  let counter := unixSecs / unattendedTotpStepSecs
  match crates.hmacSha1 totp.secret (toBeBytes64 counter) with
  | none => .error .badCode
  | some digest =>
      have inside := truncationOffset_le digest
      let offset := truncationOffset digest
      let binary := fromBeBytes32 ⟨[digest.get ⟨offset, by omega⟩ &&& 0x7f,
        digest.get ⟨offset + 1, by omega⟩, digest.get ⟨offset + 2, by omega⟩,
        digest.get ⟨offset + 3, by omega⟩], rfl⟩
      .ok (sixDigits (binary % 1000000))

/-- One candidate time of `matching_step` (`unattended.rs:203-205`). The sum is an `i64` and
wraps, as the release profile compiles it. -/
def candidate (unixSecs : UInt64) (drift : Int) : UInt64 :=
  let now : Int := min (unixSecs.toNat : Int) (2 ^ 63 - 1)
  let sum := (now + drift * (unattendedTotpStepSecs.toNat : Int)).bmod (2 ^ 64)
  UInt64.ofNat (max 0 (min sum (2 ^ 63 - 1))).toNat

/-- `Totp::matching_step` (`unattended.rs:197-212`). -/
def matchingStep (crates : Crates) (totp : Totp) (code : String) (unixSecs : UInt64) :
    Except UnattendedError UInt64 :=
  if (asBytes code).length ≠ 6 || !(asBytes code).all isAsciiDigit then .error .badCode
  else do
    let matched ← [0, -1, 1].foldlM (fun (matched : Option UInt64) (drift : Int) => do
      let time := candidate unixSecs drift
      let expected ← totp.generate crates time
      return if sameCode expected code && matched.isNone then some (time / unattendedTotpStepSecs)
        else matched) none
    match matched with
    | some step => .ok step
    | none => .error .badCode

end Totp

/-- `UnattendedAccess` (`unattended.rs:235-254`). -/
structure UnattendedAccess where
  passwordHash : Option String := none
  totpSecret : Option (Bytes 20) := none
  role : Role := .viewOnly
  failedAttempts : UInt32 := 0
  lockouts : UInt32 := 0
  lockedUntil : Option Instant := none
  lastCodeStep : Option UInt64 := none
  deriving DecidableEq

/-- The clock readings of one attempt, in the order it takes them: the monotonic clock in
`check_open`, the wall clock (`none` before the epoch) and the monotonic clock again in
`conclude`. -/
structure Readings where
  opened : Instant
  wall : Option UInt64
  concluded : Instant
  deriving DecidableEq

/-- `lockout_secs` (`unattended.rs:744-749`). -/
def lockoutSecs (nth : UInt32) : UInt64 :=
  let doublings := min (saturatingSub32 nth 1) (64 - 1)
  min (saturatingMul64 unattendedLockoutDurationSecs ((1 : UInt64) <<< doublings.toUInt64))
    unattendedLockoutMaxSecs

/-- `PendingProof` (`unattended.rs:574-577`). -/
structure PendingProof (crates : Crates) where
  spake : crates.Spake
  sessionId : SessionId

/-- `ProofAnswer` (`unattended.rs:589-596`). -/
structure ProofAnswer where
  guestMessage : List UInt8
  sealedCode : Option (List UInt8)
  confirm : Bytes 32
  deriving DecidableEq

/-- `PROOF_CONFIRM_CONTEXT` (`unattended.rs:643`). -/
def proofConfirmContext : List UInt8 := asBytes "lumepeer 2026 ADR 0123 unattended proof confirm"

/-- `PROOF_CODE_CONTEXT` (`unattended.rs:645`). -/
def proofCodeContext : List UInt8 := asBytes "lumepeer 2026 ADR 0123 unattended proof code"

section
variable (crates : Crates)

/-- `stored_key` (`unattended.rs:650-673`). -/
def storedKey (phc : String) : Except UnattendedError (ProofKdf × List UInt8) :=
  match crates.parseHash phc with
  | none => .error .corruptStore
  | some parsed =>
      if parsed.algorithm ≠ "argon2id" || parsed.version ≠ some 0x13 then .error .corruptStore
      else
        match crates.paramsOf parsed, parsed.salt, parsed.hash with
        | some params, some salt, some key =>
            if key.length < 2 ^ 32 then
              let kdf : ProofKdf :=
                { salt, memoryKib := params.mCost, iterations := params.tCost
                  lanes := params.pCost, outputLen := UInt32.ofNat key.length }
              if kdf.withinBounds then .ok (kdf, key) else .error .corruptStore
            else .error .corruptStore
        | _, _, _ => .error .corruptStore

/-- `derive_key` (`unattended.rs:676-688`). -/
def deriveKey (password : List UInt8) (kdf : ProofKdf) : Except UnattendedError (List UInt8) :=
  if !kdf.withinBounds then .error .badChallenge
  else
    match crates.newParams kdf.memoryKib kdf.iterations kdf.lanes kdf.outputLen.toNat with
    | none => .error .badChallenge
    | some params =>
        match crates.argon2id params password kdf.salt kdf.outputLen.toNat with
        | none => .error .badChallenge
        | some key => .ok key

/-- The bytes `confirm_mac` authenticates (`unattended.rs:697-705`). -/
def confirmMessage (sessionId : SessionId) (sealedCode : Option (List UInt8)) : List UInt8 :=
  proofConfirmContext ++ sessionId.toList ++
    match sealedCode with
    | some sealed => 1 :: sealed
    | none => [0]

/-- `confirm_mac` (`unattended.rs:691-707`): the finished tag. -/
def confirmMac (shared : List UInt8) (sessionId : SessionId) (sealedCode : Option (List UInt8)) :
    Option (Bytes 32) := crates.hmacSha256 shared (confirmMessage sessionId sealedCode)

/-- `code_pad` (`unattended.rs:711-717`). -/
def codePad (shared : List UInt8) (sessionId : SessionId) : Bytes 32 :=
  (crates.hmacSha256 shared (proofCodeContext ++ sessionId.toList)).getD
    (List.Vector.replicate 32 0)

/-- Bytes combined with the pad, as far as the shorter of the two goes. -/
def xorPad (bytes : List UInt8) (pad : Bytes 32) : List UInt8 :=
  (bytes.zip pad.toList).map fun (byte, key) => byte ^^^ key

/-- `seal_code` (`unattended.rs:719-725`). -/
def sealCode (shared : List UInt8) (sessionId : SessionId) (code : String) : List UInt8 :=
  xorPad (asBytes code) (codePad crates shared sessionId)

/-- `open_code` (`unattended.rs:729-739`). -/
def openCode (shared : List UInt8) (sessionId : SessionId) (sealed : List UInt8) : Option String :=
  fromUtf8 (xorPad sealed (codePad crates shared sessionId))

/-- `answer_proof` (`unattended.rs:611-640`); `scalar` is what `start_a` draws. -/
def answerProof (password : String) (code : Option String) (kdf : ProofKdf)
    (hostMessage : List UInt8) (host guest : NodeId) (sessionId : SessionId)
    (scalar : List UInt8) : Except UnattendedError ProofAnswer :=
  match deriveKey crates (asBytes password) kdf with
  | .error error => .error error
  | .ok key =>
      let (spake, guestMessage) := crates.startA scalar key guest.bytes.toList host.bytes.toList
      match crates.finish spake hostMessage with
      | none => .error .badChallenge
      | some shared =>
          let sealedCode := code.map fun code => sealCode crates shared sessionId code
          match confirmMac crates shared sessionId sealedCode with
          | none => .error .badChallenge
          | some confirm => .ok { guestMessage, sealedCode, confirm }

end

namespace UnattendedAccess

/-- `UnattendedAccess::new` (`unattended.rs:265-275`). -/
def new : UnattendedAccess := {}

/-- `UnattendedAccess::enabled` (`unattended.rs:279-281`). -/
def enabled (access : UnattendedAccess) : Bool := access.passwordHash.isSome

/-- `UnattendedAccess::restore_password_hash` (`unattended.rs:290-292`). -/
def restorePasswordHash (access : UnattendedAccess) (phc : String) : UnattendedAccess :=
  { access with passwordHash := some phc }

/-- `UnattendedAccess::set_password` (`unattended.rs:302-324`); `salt` is what
`hash_password` draws. -/
def setPassword (crates : Crates) (access : UnattendedAccess) (password : String)
    (salt : Bytes 16) : Except UnattendedError Unit × UnattendedAccess :=
  if (asBytes password).length < unattendedPasswordMinBytes ||
      (asBytes password).length > unattendedPasswordMaxBytes then
    (.error (.passwordPolicy unattendedPasswordMinBytes unattendedPasswordMaxBytes), access)
  else
    match crates.hashPassword (asBytes password) salt with
    | none => (.error .saltGeneration, access)
    | some phc => (.ok (), { access with passwordHash := some phc })

/-- `UnattendedAccess::set_totp_secret` (`unattended.rs:327-331`). -/
def setTotpSecret (access : UnattendedAccess) (secret : Bytes 20) : UnattendedAccess :=
  { access with totpSecret := some secret, lastCodeStep := none }

/-- `UnattendedAccess::clear_totp_secret` (`unattended.rs:353-355`). -/
def clearTotpSecret (access : UnattendedAccess) : UnattendedAccess :=
  { access with totpSecret := none }

/-- `UnattendedAccess::disable` (`unattended.rs:359-366`). -/
def disable (access : UnattendedAccess) : UnattendedAccess :=
  { access with
    passwordHash := none, totpSecret := none, failedAttempts := 0, lockouts := 0
    lockedUntil := none, lastCodeStep := none }

/-- `UnattendedAccess::set_role` (`unattended.rs:379-381`). -/
def setRole (access : UnattendedAccess) (role : Role) : UnattendedAccess := { access with role }

/-- `UnattendedAccess::lockout_remaining_secs` (`unattended.rs:390-397`). -/
def lockoutRemainingSecs (access : UnattendedAccess) (now : Instant) : Option Nat :=
  match access.lockedUntil with
  | none => none
  | some lockedUntil =>
      let left : Duration := lockedUntil - now
      if left = 0 then none else some left.asSecs

/-- `UnattendedAccess::check_open` (`unattended.rs:418-428`). -/
def checkOpen (access : UnattendedAccess) (now : Instant) : Except UnattendedError Unit :=
  if !access.enabled then .error .notConfigured
  else
    match access.lockoutRemainingSecs now with
    | some remaining => .error (.lockedOut remaining)
    | none => .ok ()

/-- `UnattendedAccess::check_password` (`unattended.rs:556-570`). -/
def checkPassword (crates : Crates) (access : UnattendedAccess) (password : String) :
    Except UnattendedError Unit :=
  match access.passwordHash with
  | none => .error .notConfigured
  | some phc =>
      match crates.parseHash phc with
      | none => .error .corruptStore
      | some parsed =>
          if crates.verifyPassword (asBytes password) parsed then .ok () else .error .badPassword

/-- The second factor's verdict in `conclude` (`unattended.rs:433-451`). -/
def codeVerdict (crates : Crates) (access : UnattendedAccess) (code : Option String)
    (wall : Option UInt64) : Except UnattendedError (Option UInt64) :=
  match access.totpSecret, code with
  | none, _ => .ok none
  | some _, none => .error .missingCode
  | some secret, some code =>
      match (Totp.mk secret.toList).matchingStep crates code (wall.getD 0) with
      | .error error => .error error
      | .ok step =>
          if access.lastCodeStep.any fun spent => step ≤ spent then .error .badCode
          else .ok (some step)

/-- The bookkeeping of a success (`unattended.rs:454-462`). -/
def succeed (access : UnattendedAccess) (step : Option UInt64) : UnattendedAccess :=
  { access with
    failedAttempts := 0, lockouts := 0, lockedUntil := none
    lastCodeStep := if step.isSome then step else access.lastCodeStep }

/-- The bookkeeping of a failure (`unattended.rs:463-470`). -/
def fail (access : UnattendedAccess) (now : Instant) : UnattendedAccess :=
  let failedAttempts := saturatingAdd32 access.failedAttempts 1
  if failedAttempts ≥ unattendedMaxFailedAttempts then
    let lockouts := saturatingAdd32 access.lockouts 1
    { access with
      failedAttempts, lockouts
      lockedUntil := some (now + Duration.fromSecs (lockoutSecs lockouts).toNat) }
  else { access with failedAttempts }

/-- `UnattendedAccess::conclude` (`unattended.rs:432-472`). -/
def conclude (crates : Crates) (access : UnattendedAccess) (passwordOk : Except UnattendedError Unit)
    (code : Option String) (clock : Readings) : Except UnattendedError Unit × UnattendedAccess :=
  match passwordOk, access.codeVerdict crates code clock.wall with
  | .ok (), .ok step => (.ok (), access.succeed step)
  | .error error, _ => (.error error, access.fail clock.concluded)
  | .ok (), .error error => (.error error, access.fail clock.concluded)

/-- `UnattendedAccess::verify_full` (`unattended.rs:405-414`). -/
def verifyFull (crates : Crates) (access : UnattendedAccess) (password code : Option String)
    (clock : Readings) : Except UnattendedError Unit × UnattendedAccess :=
  match access.checkOpen clock.opened with
  | .error error => (.error error, access)
  | .ok () =>
      let passwordOk := match password with
        | none => .error .missingPassword
        | some password => access.checkPassword crates password
      access.conclude crates passwordOk code clock

/-- `UnattendedAccess::admit` (`unattended.rs:550-553`), under a name Lean does not reserve. -/
def admitPassword (crates : Crates) (access : UnattendedAccess) (password code : Option String)
    (clock : Readings) : Except UnattendedError Role × UnattendedAccess :=
  let (result, next) := access.verifyFull crates password code clock
  (result.map fun () => next.role, next)

/-- `UnattendedAccess::begin_proof` (`unattended.rs:486-503`); `scalar` is what `start_b`
draws. -/
def beginProof (crates : Crates) (access : UnattendedAccess) (host guest : NodeId)
    (sessionId : SessionId) (scalar : List UInt8) :
    Except UnattendedError (PendingProof crates × ProofKdf × List UInt8) :=
  match access.passwordHash with
  | none => .error .notConfigured
  | some phc =>
      match storedKey crates phc with
      | .error error => .error error
      | .ok (kdf, key) =>
          let (spake, message) := crates.startB scalar key guest.bytes.toList host.bytes.toList
          .ok ({ spake, sessionId }, kdf, message)

/-- The key of a confirmed answer (`unattended.rs:516-523`). -/
def confirmedKey (crates : Crates) (pending : PendingProof crates) (answer : ProofAnswer) :
    Option (List UInt8) :=
  (crates.finish pending.spake answer.guestMessage).filter fun key =>
    confirmMac crates key pending.sessionId answer.sealedCode == some answer.confirm

/-- The password verdict and the opened code of an answer (`unattended.rs:516-533`). -/
def openProof (crates : Crates) (pending : PendingProof crates) (answer : ProofAnswer) :
    Except UnattendedError Unit × Option String :=
  match confirmedKey crates pending answer with
  | some key => (.ok (), answer.sealedCode.bind fun sealed => openCode crates key pending.sessionId sealed)
  | none => (.error .badPassword, none)

/-- `UnattendedAccess::admit_proof` (`unattended.rs:514-536`). -/
def admitProof (crates : Crates) (access : UnattendedAccess) (pending : PendingProof crates)
    (answer : ProofAnswer) (clock : Readings) : Except UnattendedError Role × UnattendedAccess :=
  match access.checkOpen clock.opened with
  | .error error => (.error error, access)
  | .ok () =>
      let (passwordOk, code) := openProof crates pending answer
      let (result, next) := access.conclude crates passwordOk code clock
      (result.map fun () => next.role, next)

end UnattendedAccess

/-- The operations that change an `UnattendedAccess`, with what each draws from the clocks and
the random generator. -/
inductive UnattendedOp (crates : Crates) where
  | verifyFull (password code : Option String) (clock : Readings)
  | admitPassword (password code : Option String) (clock : Readings)
  | admitProof (pending : PendingProof crates) (answer : ProofAnswer) (clock : Readings)
  | setPassword (password : String) (salt : Bytes 16)
  | restorePasswordHash (phc : String)
  | setTotpSecret (secret : Bytes 20)
  | clearTotpSecret
  | disable
  | setRole (role : Role)

/-- What an operation returned: an attempt (with the role, where the call gives one), a change
of password, or nothing. -/
inductive UnattendedOutcome where
  | attempt (result : Except UnattendedError (Option Role))
  | changed (result : Except UnattendedError Unit)
  | unit

namespace UnattendedAccess

/-- One operation. -/
def step (crates : Crates) (access : UnattendedAccess) :
    UnattendedOp crates → UnattendedOutcome × UnattendedAccess
  | .verifyFull password code clock =>
      let (result, next) := access.verifyFull crates password code clock
      (.attempt (result.map fun () => none), next)
  | .admitPassword password code clock =>
      let (result, next) := access.admitPassword crates password code clock
      (.attempt (result.map some), next)
  | .admitProof pending answer clock =>
      let (result, next) := access.admitProof crates pending answer clock
      (.attempt (result.map some), next)
  | .setPassword password salt =>
      let (result, next) := access.setPassword crates password salt
      (.changed result, next)
  | .restorePasswordHash phc => (.unit, access.restorePasswordHash phc)
  | .setTotpSecret secret => (.unit, access.setTotpSecret secret)
  | .clearTotpSecret => (.unit, access.clearTotpSecret)
  | .disable => (.unit, access.disable)
  | .setRole role => (.unit, access.setRole role)

/-- An event of a run of the gate. -/
abbrev UnattendedEvent (crates : Crates) :=
  Event UnattendedAccess (UnattendedOp crates) UnattendedOutcome

/-- The events of a run from `start`. -/
abbrev events (crates : Crates) (start : UnattendedAccess) (ops : List (UnattendedOp crates)) :
    List (UnattendedEvent crates) := history (step crates) start ops

end UnattendedAccess

end Lumepeer.Core
