import Lumepeer.Broker.Db
import Lumepeer.Core.License
import Lumepeer.Lib.Base32

/-!
# The broker's handlers

`services/broker/src/routes/license.rs` and `webhook.rs`. A handler is written twice:
as what it does when nothing comes between its statements, and as a task that does
one statement at a time. An answer bears the licences that were read or acted on for
it, which the source has not. That the signature of a webhook is good is an argument.
-/

namespace Lumepeer.Broker
open Lumepeer.Lib Lumepeer.Core

/-- `AppState` (`main.rs:35-44`), with the crates that it is used with. -/
structure AppState where
  ed : Ed25519
  /-- `blake3::hash`. -/
  hash : List UInt8 → Bytes 32
  keyId : UInt32
  signingKey : ed.SigningKey
  /-- The order in which SQLite visits rows. -/
  visited : String → Nat

/-- `StatusCode`. -/
inductive Status where
  | ok
  | created
  | noContent
  | badRequest
  | forbidden
  | notFound
  | conflict
  | internalServerError
  deriving DecidableEq

/-- `TokenResponse`, `HeartbeatResponse`, `ErrorResponse` and `WebhookResponse`. -/
inductive Body where
  | token (token : String)
  | heartbeat (ok : Bool) (reason : Option String)
  | error (code message : String)
  | webhook (status : String)
  | empty
  deriving DecidableEq

structure Answer where
  status : Status
  body : Body
  /-- The licences that were read or acted on. -/
  licenses : List String := []
  deriving DecidableEq

/-- `IssueRequest` (`license.rs:37-44`). -/
structure IssueRequest where
  accountId : String
  deviceId : String
  idempotencyKey : String
  deriving DecidableEq

/-- `HeartbeatRequest` (`license.rs:55-60`). -/
structure HeartbeatRequest where
  deviceId : String
  activeSeconds : UInt64
  deriving DecidableEq

/-- `PaymentEvent` (`webhook.rs:33-48`). -/
structure PaymentEvent where
  eventId : String
  eventTs : UInt64
  accountId : String
  kind : String
  licenseId : Option String
  plan : Option UInt8
  expiresAt : Option UInt64
  deriving DecidableEq

/-- What `payment` gets: the headers, whether the signature is good, and the parsed body. -/
structure PaymentRequest where
  timestamp : Option UInt64
  signature : Option Bool
  event : Option PaymentEvent
  deriving DecidableEq

/-- The calls that there are. -/
inductive Request where
  | issue (request : IssueRequest)
  | heartbeat (request : HeartbeatRequest)
  | revoke (deviceId : String)
  | refresh (deviceId : String)
  | payment (request : PaymentRequest)
  deriving DecidableEq

/-! ## What is answered -/

/-- `TOKEN_LIFETIME_SECS` (`license.rs:24`). -/
def tokenLifetimeSecs : UInt64 := 24 * 60 * 60

/-- `WEBHOOK_TIMESTAMP_WINDOW_SECS` (`webhook.rs:19`). -/
def webhookTimestampWindowSecs : UInt64 := 5 * 60

def absDiff (a b : UInt64) : UInt64 := if a < b then b - a else a - b

/-- `error` (`license.rs:87-99`). -/
def error (status : Status) (code message : String) : Answer where
  status := status
  body := .error code message

/-- `internal` (`license.rs:335-344`). -/
def internal : Answer := error .internalServerError "INTERNAL" "internal error"

def unknownDevice : Answer := error .notFound "UNKNOWN_DEVICE" "no such device"

/-- `parse_id` (`license.rs:355-360`). -/
def parseId (app : AppState) (text : String) : Bytes 16 :=
  ⟨(app.hash text.toUTF8.data.toList).toList.take 16, by simp⟩

/-- The token that `issue` and `refresh` sign (`license.rs:152-171`, `313-331`). -/
def signToken (app : AppState) (license : LicenseView) (deviceId : String) (now : UInt64) :
    List UInt8 :=
  let token : LicenseToken :=
    { version := tokenVersion
      keyId := app.keyId
      licenseId := parseId app license.id
      plan := Plan.fromWireOrTrial license.plan
      deviceId := parseId app deviceId
      issuedAt := now
      notBefore := now
      expiresAt := min (saturatingAdd64 now tokenLifetimeSecs) license.expiresAt
      features := 0
      payloadHash := app.hash license.id.toUTF8.data.toList
      signature := .replicate 64 0 }
  (token.sign app.ed app.signingKey).encode

/-- The seats of a licence. -/
def LicenseView.seats (license : LicenseView) : Nat :=
  (Plan.fromWireOrTrial license.plan).maxConcurrentGuests

/-- The devices that lose their seats (`license.rs:139-150`). -/
def toDisplace (live : List (String × Option UInt64)) (license : LicenseView) (deviceId : String) :
    List String :=
  if !(live.any fun device => device.1 = deviceId) && live.length ≥ license.seats then
    (live.reverse.take (live.length + 1 - license.seats)).map (·.1)
  else []

/-- A token was issued before under the key. -/
def existingToken (token : List UInt8) : Answer where
  status := .ok
  body := .token (Base32.encode token)

def noActiveLicense : Answer :=
  error .forbidden "NO_ACTIVE_LICENSE" "the account has no active license"

/-- The end of `issue` (`license.rs:171-189`). -/
def recordAnswer (app : AppState) (db : Db) (request : IssueRequest) (license : LicenseView)
    (now : UInt64) : Answer × Db :=
  let bytes := signToken app license request.deviceId now
  match db.recordIssue license.id request.deviceId request.idempotencyKey bytes now with
  | none => (internal, db)
  | some db =>
      ({ status := .created, body := .token (Base32.encode bytes), licenses := [license.id] }, db)

/-- What `heartbeat` answers (`license.rs:216-254`). -/
def heartbeatAnswer (device : DeviceView) (license : Option LicenseView) (used now : UInt64) :
    Answer :=
  let answer (reason : Option String) : Answer :=
    { status := .ok, body := .heartbeat reason.isNone reason, licenses := [device.licenseId] }
  match license with
  | none => answer (some "the license no longer exists")
  | some license =>
      if license.revokedAt.isSome then answer (some "the license was revoked")
      else if license.expiresAt < now then answer (some "the license expired")
      else if device.displacedAt.isSome then
        answer (some "another device took the seat of this license")
      else if Plan.fromWireOrTrial license.plan = .trial && used ≥ trialSessionLimitSecs then
        answer (some "the trial session limit is used up")
      else answer none

/-- What `refresh` answers (`license.rs:295-331`). -/
def refreshAnswer (app : AppState) (device : DeviceView) (deviceId : String)
    (license : Option LicenseView) (now : UInt64) : Answer :=
  let licenses := [device.licenseId]
  match license with
  | none =>
      { error .forbidden "NO_ACTIVE_LICENSE" "the license no longer exists" with licenses }
  | some license =>
      if license.revokedAt.isSome || license.expiresAt < now then
        { error .forbidden "LICENSE_INACTIVE" "the license is revoked or expired" with licenses }
      else
        { status := .ok, body := .token (Base32.encode (signToken app license deviceId now))
          licenses }

/-- `refuse` (`webhook.rs:138-141`). -/
def refuse (status : Status) (reason : String) : Answer where
  status := status
  body := .webhook reason

/-- The change that an event asks for (`webhook.rs:94-110`). -/
def PaymentEvent.change (event : PaymentEvent) : Except Answer EntitlementChange :=
  if event.kind = "subscription.active" then
    match event.licenseId, event.plan, event.expiresAt with
    | some licenseId, some plan, some expiresAt => .ok (.grant licenseId plan expiresAt)
    | _, _, _ => .error (refuse .badRequest "incomplete_event")
  else if event.kind = "subscription.cancelled" then .ok .revokeAll
  else .error (refuse .badRequest "unknown_event_kind")

/-- `payment` (`webhook.rs:57-110`) up to its transaction. -/
def PaymentRequest.accept (request : PaymentRequest) (now : UInt64) :
    Except Answer (PaymentEvent × EntitlementChange) :=
  match request.timestamp, request.signature with
  | none, _ => .error (refuse .badRequest "missing_timestamp")
  | some _, none => .error (refuse .badRequest "missing_signature")
  | some timestamp, some good =>
      if absDiff now timestamp > webhookTimestampWindowSecs then
        .error (refuse .badRequest "timestamp_outside_window")
      else if !good then .error (refuse .badRequest "invalid_signature")
      else
        match request.event with
        | none => .error (refuse .badRequest "malformed_event")
        | some event =>
            if absDiff event.eventTs timestamp > webhookTimestampWindowSecs then
              .error (refuse .badRequest "event_timestamp_outside_window")
            else event.change.map fun change => (event, change)

/-- `payment` (`webhook.rs:57-134`). -/
def payment (db : Db) (request : PaymentRequest) (now : UInt64) : Answer × Db :=
  match request.accept now with
  | .error answer => (answer, db)
  | .ok (event, change) =>
      match db.applyWebhook event.eventId "payment" event.eventTs event.accountId change now with
      | (false, db) => (refuse .conflict "replay", db)
      | (true, db) => ({ status := .ok, body := .webhook "applied" }, db)

/-! ## One request at a time -/

/-- `issue` (`license.rs:103-190`). -/
def issue (app : AppState) (db : Db) (request : IssueRequest) (now : UInt64) : Answer × Db :=
  match db.tokenForIdempotencyKey request.idempotencyKey with
  | some existing => (existingToken existing, db)
  | none =>
      match db.activeLicenseForAccount app.visited request.accountId now with
      | none => (noActiveLicense, db)
      | some license =>
          let live := db.liveDevices app.visited license.id
          let db := (toDisplace live license request.deviceId).foldl
            (fun db deviceId => db.displaceDevice deviceId now) db
          recordAnswer app db request license now

/-- `heartbeat` (`license.rs:193-255`). -/
def heartbeat (db : Db) (request : HeartbeatRequest) (now : UInt64) : Answer × Db :=
  match db.device request.deviceId with
  | none => (unknownDevice, db)
  | some device =>
      let used := max device.trialSecondsUsed request.activeSeconds
      let db := db.recordHeartbeat request.deviceId used now
      (heartbeatAnswer device (db.license device.licenseId) used now, db)

/-- `revoke` (`license.rs:258-277`). -/
def revoke (db : Db) (deviceId : String) (now : UInt64) : Answer × Db :=
  match db.device deviceId with
  | none => (unknownDevice, db)
  | some device =>
      ({ status := .noContent, body := .empty, licenses := [device.licenseId] },
        db.revokeLicense device.licenseId now)

/-- `refresh` (`license.rs:280-332`). -/
def refresh (app : AppState) (db : Db) (deviceId : String) (now : UInt64) : Answer × Db :=
  match db.device deviceId with
  | none => (unknownDevice, db)
  | some device => (refreshAnswer app device deviceId (db.license device.licenseId) now, db)

/-- A request, with the clock it is handled at. -/
def handle (app : AppState) (db : Db) (now : UInt64) : Request → Answer × Db
  | .issue request => issue app db request now
  | .heartbeat request => heartbeat db request now
  | .revoke deviceId => revoke db deviceId now
  | .refresh deviceId => refresh app db deviceId now
  | .payment request => payment db request now

/-! ## One statement at a time -/

/-- A request that is being handled, by the statement that is next. -/
inductive Task where
  | begins (request : Request) (now : UInt64)
  | noToken (request : IssueRequest) (now : UInt64)
  | licensed (request : IssueRequest) (now : UInt64) (license : LicenseView)
  | seating (request : IssueRequest) (now : UInt64) (license : LicenseView)
      (displacing : List String)
  | beating (request : HeartbeatRequest) (now : UInt64) (device : DeviceView)
  | beaten (now used : UInt64) (device : DeviceView)
  | revoking (now : UInt64) (device : DeviceView)
  | refreshing (deviceId : String) (now : UInt64) (device : DeviceView)

/-- The next statement of a task, with its answer if it is the last. -/
def Task.step (app : AppState) (db : Db) : Task → (Answer ⊕ Task) × Db
  | .begins (.issue request) now =>
      match db.tokenForIdempotencyKey request.idempotencyKey with
      | some existing => (.inl (existingToken existing), db)
      | none => (.inr (.noToken request now), db)
  | .noToken request now =>
      match db.activeLicenseForAccount app.visited request.accountId now with
      | none => (.inl noActiveLicense, db)
      | some license => (.inr (.licensed request now license), db)
  | .licensed request now license =>
      let live := db.liveDevices app.visited license.id
      (.inr (.seating request now license (toDisplace live license request.deviceId)), db)
  | .seating request now license (deviceId :: displacing) =>
      (.inr (.seating request now license displacing), db.displaceDevice deviceId now)
  | .seating request now license [] =>
      let (answer, db) := recordAnswer app db request license now
      (.inl answer, db)
  | .begins (.heartbeat request) now =>
      match db.device request.deviceId with
      | none => (.inl unknownDevice, db)
      | some device => (.inr (.beating request now device), db)
  | .beating request now device =>
      let used := max device.trialSecondsUsed request.activeSeconds
      (.inr (.beaten now used device), db.recordHeartbeat request.deviceId used now)
  | .beaten now used device =>
      (.inl (heartbeatAnswer device (db.license device.licenseId) used now), db)
  | .begins (.revoke deviceId) now =>
      match db.device deviceId with
      | none => (.inl unknownDevice, db)
      | some device => (.inr (.revoking now device), db)
  | .revoking now device =>
      (.inl { status := .noContent, body := .empty, licenses := [device.licenseId] },
        db.revokeLicense device.licenseId now)
  | .begins (.refresh deviceId) now =>
      match db.device deviceId with
      | none => (.inl unknownDevice, db)
      | some device => (.inr (.refreshing deviceId now device), db)
  | .refreshing deviceId now device =>
      (.inl (refreshAnswer app device deviceId (db.license device.licenseId) now), db)
  | .begins (.payment request) now =>
      let (answer, db) := payment db request now
      (.inl answer, db)

/-- The answer when the database fails a statement (`license.rs:335-344`, `webhook.rs:126-132`). -/
def Task.failed : Task → Answer
  | .begins (.payment _) _ => refuse .internalServerError "internal"
  | _ => internal

/-- A task that nothing comes between, for this many statements at most. -/
def Task.runAlone (app : AppState) : Nat → Db → Task → Option (Answer × Db)
  | 0, _, _ => none
  | fuel + 1, db, task =>
      match task.step app db with
      | (.inl answer, db) => some (answer, db)
      | (.inr task, db) => task.runAlone app fuel db

/-- The broker, with the requests that it handles at once. -/
structure Service where
  db : Db := {}
  tasks : List Task := []
  /-- The licences whose plan was changed by a `Grant`. -/
  changed : List String := []

namespace Service

/-- What happens. -/
inductive Happening where
  | arrive (request : Request) (now : UInt64)
  /-- A task does its next statement. -/
  | run (position : Nat)
  /-- A statement of a task fails. -/
  | fail (position : Nat)

/-- The licences whose plan is another in `db'`. -/
def planChanges (db db' : Db) : List String :=
  (db.licenses.entries.filter fun entry =>
    (db'.licenses.lookup entry.1).any (·.plan ≠ entry.2.plan)).map (·.1)

/-- One statement. -/
def step (app : AppState) (service : Service) : Happening → Option Answer × Service
  | .arrive request now =>
      (none, { service with tasks := service.tasks ++ [.begins request now] })
  | .run position =>
      match service.tasks[position]? with
      | none => (none, service)
      | some task =>
          let (result, db) := task.step app service.db
          let changed := service.changed ++ planChanges service.db db
          match result with
          | .inl answer =>
              (some answer, { db, changed, tasks := service.tasks.eraseIdx position })
          | .inr task =>
              (none, { db, changed, tasks := service.tasks.set position task })
  | .fail position =>
      match service.tasks[position]? with
      | none => (none, service)
      | some task =>
          (some task.failed, { service with tasks := service.tasks.eraseIdx position })

end Service

end Lumepeer.Broker
