import Lumepeer.Core.Basic
import Lumepeer.Lib.Run
import Lumepeer.Lib.Saturating

/-!
# Licence tokens and the licence guard

`crates/core/src/license.rs`: plans, the signed token with its hand-written
cursor, and the client-side guard. Ed25519 lives in another crate and enters as
the record `Ed25519`. A slice out of range panics in the source and is `none`
here, so that "no read leaves the token" is a statement about the model.
-/

namespace Lumepeer.Core
open Lumepeer.Lib

/-- `Plan` (`license.rs:26-37`). -/
inductive Plan where
  | trial
  | pro
  | team
  | free
  deriving DecidableEq, Repr

namespace Plan

/-- `Plan::max_concurrent_guests` (`license.rs:42-49`). -/
def maxConcurrentGuests : Plan → Nat
  | .trial => maxConcurrentGuestsTrial
  | .pro => maxConcurrentGuestsPro
  | .team => maxConcurrentGuestsTeam
  | .free => maxConcurrentGuestsFree

/-- `Plan::offline_grace_days` (`license.rs:55-61`). -/
def offlineGraceDays : Plan → Option UInt64
  | .trial | .free => none
  | .pro => some offlineGraceProDays
  | .team => some offlineGraceTeamDays

/-- `Plan::from_wire` (`license.rs:63-71`). -/
def fromWire (value : UInt8) : Option Plan :=
  if value = 0 then some .trial
  else if value = 1 then some .pro
  else if value = 2 then some .team
  else if value = 3 then some .free
  else none

/-- `Plan::from_wire_or_trial` (`license.rs:78-83`). -/
def fromWireOrTrial (value : UInt8) : Plan := (fromWire value).getD .trial

/-- `Plan::to_wire` (`license.rs:87-94`). -/
def toWire : Plan → UInt8
  | .trial => 0
  | .pro => 1
  | .team => 2
  | .free => 3

theorem fromWire_toWire (plan : Plan) : fromWire plan.toWire = some plan := by
  cases plan <;> rfl

/-- The plan byte inverts: a byte that reads as a plan is the byte that plan writes. -/
theorem toWire_of_fromWire {value : UInt8} {plan : Plan} (read : fromWire value = some plan) :
    plan.toWire = value := by
  unfold fromWire at read
  split at read
  · cases read; simp_all [toWire]
  · split at read
    · cases read; simp_all [toWire]
    · split at read
      · cases read; simp_all [toWire]
      · split at read
        · cases read; simp_all [toWire]
        · cases read

end Plan

/-- `SIGNED_PREFIX_LEN` (`license.rs:18`). -/
def signedPrefixLen : Nat := 1 + 4 + 16 + 1 + 16 + 8 + 8 + 8 + 8 + 32

/-- `TOKEN_LEN` (`license.rs:20`). -/
def tokenLen : Nat := signedPrefixLen + 64

/-- `TOKEN_VERSION` (`license.rs:22`). -/
def tokenVersion : UInt8 := 1

/-- `LicenseToken` (`license.rs:110-133`). -/
structure LicenseToken where
  version : UInt8
  keyId : UInt32
  licenseId : Bytes 16
  plan : Plan
  deviceId : Bytes 16
  issuedAt : UInt64
  notBefore : UInt64
  expiresAt : UInt64
  features : UInt64
  payloadHash : Bytes 32
  signature : Bytes 64
  deriving DecidableEq

/-- The `ed25519_dalek` crate: keys, signing and strict verification. -/
structure Ed25519 where
  SigningKey : Type
  VerifyingKey : Type
  verifyingKey : SigningKey → VerifyingKey
  sign : SigningKey → List UInt8 → Bytes 64
  verifyStrict : VerifyingKey → List UInt8 → Bytes 64 → Bool

/-- `verify_strict` accepts exactly what the matching key signed. -/
def Ed25519.Exact (ed : Ed25519) : Prop :=
  ∀ key message signature,
    ed.verifyStrict (ed.verifyingKey key) message signature = true ↔
      signature = ed.sign key message

/-- `Cursor` (`license.rs:429-432`). -/
structure Cursor where
  bytes : List UInt8
  offset : Nat := 0

namespace Cursor

/-- `Cursor::take` (`license.rs:439-445`); `none` where the slice index panics. -/
def take (cursor : Cursor) (n : Nat) : Option (Bytes n × Cursor) :=
  if fits : cursor.offset + n ≤ cursor.bytes.length then
    some (⟨(cursor.bytes.drop cursor.offset).take n, by simp; omega⟩,
      { cursor with offset := cursor.offset + n })
  else none

/-- `Cursor::u8` (`license.rs:447-449`). -/
def u8 (cursor : Cursor) : Option (UInt8 × Cursor) :=
  (cursor.take 1).map fun (out, next) => (out.head, next)

/-- `Cursor::u32` (`license.rs:451-453`). -/
def u32 (cursor : Cursor) : Option (UInt32 × Cursor) :=
  (cursor.take 4).map fun (out, next) => (fromBeBytes32 out, next)

/-- `Cursor::u64` (`license.rs:455-457`). -/
def u64 (cursor : Cursor) : Option (UInt64 × Cursor) :=
  (cursor.take 8).map fun (out, next) => (fromBeBytes64 out, next)

/-- `Cursor::array16` (`license.rs:459-461`). -/
def array16 (cursor : Cursor) : Option (Bytes 16 × Cursor) := cursor.take 16

/-- `Cursor::array32` (`license.rs:463-465`). -/
def array32 (cursor : Cursor) : Option (Bytes 32 × Cursor) := cursor.take 32

end Cursor

namespace LicenseToken

/-- The fields after the signature check (`license.rs:160-186`): `none` for a panic. -/
def parseFields (signed : List UInt8) (signature : Bytes 64) :
    Option (Except CoreError LicenseToken) := do
  let (version, cursor) ← Cursor.u8 ⟨signed, 0⟩
  if version ≠ tokenVersion then
    return .error (.licenseDenied "unsupported license token version")
  let (keyId, cursor) ← cursor.u32
  let (licenseId, cursor) ← cursor.array16
  let (planByte, cursor) ← cursor.u8
  match Plan.fromWire planByte with
  | none => return .error (.licenseDenied "unknown plan in license token")
  | some plan =>
      let (deviceId, cursor) ← cursor.array16
      let (issuedAt, cursor) ← cursor.u64
      let (notBefore, cursor) ← cursor.u64
      let (expiresAt, cursor) ← cursor.u64
      let (features, cursor) ← cursor.u64
      let (payloadHash, _) ← cursor.array32
      return .ok
        { version, keyId, licenseId, plan, deviceId, issuedAt, notBefore, expiresAt, features
          payloadHash, signature }

/-- `LicenseToken::parse_and_verify` (`license.rs:145-186`): `none` for a panic. -/
def parseAndVerify (ed : Ed25519) (bytes : List UInt8) (key : ed.VerifyingKey) :
    Option (Except CoreError LicenseToken) :=
  if sized : bytes.length = tokenLen then
    let signed := bytes.take signedPrefixLen
    let signature : Bytes 64 :=
      ⟨bytes.drop signedPrefixLen, by simp [sized, tokenLen, signedPrefixLen]⟩
    if ed.verifyStrict key signed signature then parseFields signed signature
    else some (.error (.licenseDenied "invalid license signature"))
  else some (.error (.licenseDenied "malformed license token"))

/-- `LicenseToken::signed_prefix` (`license.rs:202-215`). -/
def signedPrefix (token : LicenseToken) : List UInt8 :=
  [token.version] ++ toBeBytes32 token.keyId ++ token.licenseId.toList ++ [token.plan.toWire]
    ++ token.deviceId.toList ++ toBeBytes64 token.issuedAt ++ toBeBytes64 token.notBefore
    ++ toBeBytes64 token.expiresAt ++ toBeBytes64 token.features ++ token.payloadHash.toList

/-- `LicenseToken::encode` (`license.rs:219-223`). -/
def encode (token : LicenseToken) : List UInt8 := token.signedPrefix ++ token.signature.toList

/-- `LicenseToken::sign` (`license.rs:228-231`). -/
def sign (ed : Ed25519) (token : LicenseToken) (key : ed.SigningKey) : LicenseToken :=
  { token with signature := ed.sign key token.signedPrefix }

/-- `LicenseToken::is_valid_at` (`license.rs:190-192`). -/
def isValidAt (token : LicenseToken) (now : UInt64) : Bool :=
  token.notBefore ≤ now && now ≤ token.expiresAt

/-- `LicenseToken::seconds_left` (`license.rs:196-198`). -/
def secondsLeft (token : LicenseToken) (now : UInt64) : UInt64 :=
  saturatingSub64 token.expiresAt now

end LicenseToken

/-- `LicenseDecision` (`license.rs:250-274`). -/
inductive LicenseDecision where
  | allow (plan : Plan) (secondsLeft : Option UInt64)
  | denyNewSession (reason : String) (cutoffSecs : UInt64)
  | deny (reason : String)
  deriving DecidableEq, Repr

/-- `SECS_PER_DAY` (`license.rs:289`). -/
def secsPerDay : UInt64 := 24 * 60 * 60

/-- `LicenseGuard` (`license.rs:298-308`). -/
structure LicenseGuard where
  token : Option LicenseToken
  highWaterWall : UInt64
  lastHeartbeatWall : UInt64
  trialUsedSecs : UInt64
  rollbackSeen : Bool

namespace LicenseGuard

/-- `LicenseGuard::new` (`license.rs:313-321`). -/
def new (token : Option LicenseToken) (now : UInt64) : LicenseGuard :=
  { token, highWaterWall := now, lastHeartbeatWall := now, trialUsedSecs := 0
    rollbackSeen := false }

/-- `LicenseGuard::on_online_check` (`license.rs:325-332`). -/
def onOnlineCheck (guard : LicenseGuard) (token : Option LicenseToken) (now : UInt64) :
    LicenseGuard :=
  { guard with
    token := if token.isSome then token else guard.token
    lastHeartbeatWall := now
    highWaterWall := max guard.highWaterWall now
    rollbackSeen := false }

/-- `LicenseGuard::on_heartbeat` (`license.rs:335-339`). -/
def onHeartbeat (guard : LicenseGuard) (now : UInt64) : LicenseGuard :=
  { guard with
    lastHeartbeatWall := now
    highWaterWall := max guard.highWaterWall now
    rollbackSeen := false }

/-- `LicenseGuard::add_trial_seconds` (`license.rs:342-344`). -/
def addTrialSeconds (guard : LicenseGuard) (elapsedSecs : UInt64) : LicenseGuard :=
  { guard with trialUsedSecs := saturatingAdd64 guard.trialUsedSecs elapsedSecs }

/-- `LicenseGuard::trial_remaining_secs` (`license.rs:348-350`). -/
def trialRemainingSecs (guard : LicenseGuard) : UInt64 :=
  saturatingSub64 trialSessionLimitSecs guard.trialUsedSecs

/-- The clock bookkeeping at the head of `evaluate` (`license.rs:370-374`). -/
def observe (guard : LicenseGuard) (now : UInt64) : LicenseGuard :=
  if now < guard.highWaterWall then { guard with rollbackSeen := true }
  else { guard with highWaterWall := now }

/-- The offline grace check of `evaluate` (`license.rs:404-411`). -/
def graceElapsed (guard : LicenseGuard) (plan : Plan) (now : UInt64) : Bool :=
  match plan.offlineGraceDays with
  | none => false
  | some graceDays =>
      saturatingMul64 graceDays secsPerDay < saturatingSub64 now guard.lastHeartbeatWall

/-- The decision of `evaluate` once the clock is booked (`license.rs:376-424`). -/
def decide (guard : LicenseGuard) (now : UInt64) : LicenseDecision :=
  match guard.token with
  | none => .allow .free none
  | some token =>
      if token.plan = .trial ∧ guard.trialRemainingSecs = 0 then
        .deny "the trial session limit is used up"
      else if guard.rollbackSeen then
        .denyNewSession "system clock rolled back; an online check is required"
          clockRollbackActiveSessionCutoffSecs
      else if !token.isValidAt now then
        .deny "the license token is outside its validity window"
      else if guard.graceElapsed token.plan now then
        .deny "offline grace elapsed without a successful heartbeat"
      else if token.plan = .trial then
        .allow token.plan (some (min guard.trialRemainingSecs (token.secondsLeft now)))
      else
        .allow token.plan (some (token.secondsLeft now))

/-- `LicenseGuard::evaluate` (`license.rs:369-424`). -/
def evaluate (guard : LicenseGuard) (now : UInt64) : LicenseDecision × LicenseGuard :=
  let guard := guard.observe now
  (guard.decide now, guard)

end LicenseGuard

/-- The operations that change a `LicenseGuard`. -/
inductive GuardOp where
  | evaluate (now : UInt64)
  | onHeartbeat (now : UInt64)
  | onOnlineCheck (token : Option LicenseToken) (now : UInt64)
  | addTrialSeconds (elapsedSecs : UInt64)
  deriving DecidableEq

namespace LicenseGuard

/-- One operation; only `evaluate` answers. -/
def step (guard : LicenseGuard) : GuardOp → Option LicenseDecision × LicenseGuard
  | .evaluate now =>
      let (decision, next) := guard.evaluate now
      (some decision, next)
  | .onHeartbeat now => (none, guard.onHeartbeat now)
  | .onOnlineCheck token now => (none, guard.onOnlineCheck token now)
  | .addTrialSeconds elapsedSecs => (none, guard.addTrialSeconds elapsedSecs)

/-- The guard a list of operations leads to from `new(token, start)`. -/
abbrev run (token : Option LicenseToken) (start : UInt64) (ops : List GuardOp) : LicenseGuard :=
  exec step (new token start) ops

end LicenseGuard

end Lumepeer.Core
