import Lumepeer.Core.Basic
import Lumepeer.Lib.HashMap
import Mathlib.Data.List.Sort

/-!
# The broker's database

The tables of `services/broker/migrations` and the statements of
`services/broker/src/db.rs` on them. A table is a map from its primary key; rows are
never deleted, so what a row refers to is always there. Rows that a query orders
alike come in the order in which they are visited, which is a parameter. A
transaction is one statement.
-/

namespace Lumepeer.Broker
open Lumepeer.Lib

/-- `i64::try_from(n).unwrap_or(i64::MAX)`. -/
def toSql (n : UInt64) : Int := if n.toNat < 2 ^ 63 then n.toNat else 2 ^ 63 - 1

/-- `u64::try_from(n).unwrap_or(0)`. -/
def ofSql (n : Int) : UInt64 := if 0 ≤ n ∧ n < 2 ^ 64 then UInt64.ofNat n.toNat else 0

/-- `u8::try_from(n).unwrap_or(0)`. -/
def byteOfSql (n : Int) : UInt8 := if 0 ≤ n ∧ n < 2 ^ 8 then UInt8.ofNat n.toNat else 0

/-- A row of `licenses`. -/
structure LicenseRow where
  accountId : String
  plan : Int
  expiresAt : Int
  revokedAt : Option Int
  createdAt : Int
  deriving DecidableEq

/-- A row of `devices`. -/
structure DeviceRow where
  licenseId : String
  lastHeartbeatAt : Option Int
  trialSecondsUsed : Int
  createdAt : Int
  displacedAt : Option Int
  deriving DecidableEq

/-- A row of `issued_tokens`. -/
structure IssuedToken where
  licenseId : String
  deviceId : String
  token : List UInt8
  issuedAt : Int
  deriving DecidableEq

/-- A row of `webhook_events`. -/
structure WebhookEvent where
  provider : String
  receivedAt : Int
  eventTs : Int
  deriving DecidableEq

/-- `LicenseView` (`db.rs:72-81`). -/
structure LicenseView where
  id : String
  plan : UInt8
  expiresAt : UInt64
  revokedAt : Option UInt64
  deriving DecidableEq

/-- `DeviceView` (`db.rs:110-117`). -/
structure DeviceView where
  licenseId : String
  trialSecondsUsed : UInt64
  displacedAt : Option UInt64
  deriving DecidableEq

/-- `EntitlementChange` (`db.rs:344-358`). -/
inductive EntitlementChange where
  | grant (licenseId : String) (plan : UInt8) (expiresAt : UInt64)
  | revokeAll
  deriving DecidableEq

/-- The tables. -/
structure Db where
  accounts : HashMap String Int := ∅
  licenses : HashMap String LicenseRow := ∅
  devices : HashMap String DeviceRow := ∅
  issuedTokens : HashMap String IssuedToken := ∅
  webhookEvents : HashMap String WebhookEvent := ∅

/-- `LicenseView::from` (`db.rs:83-92`). -/
def LicenseRow.view (id : String) (row : LicenseRow) : LicenseView where
  id := id
  plan := byteOfSql row.plan
  expiresAt := ofSql row.expiresAt
  revokedAt := row.revokedAt.map ofSql

namespace Db
variable (visited : String → Nat)

/-- `ORDER BY key DESC`. -/
def orderByDesc {V : Type} (key : V → Int) (rows : List (String × V)) : List (String × V) :=
  rows.insertionSort fun a b =>
    key b.2 < key a.2 ∨ key a.2 = key b.2 ∧ visited a.1 ≤ visited b.1

/-- The rows of a table that satisfy a condition. -/
def selectWhere {V : Type} (table : HashMap String V) (holds : V → Bool) : List (String × V) :=
  (table.entries.filter fun entry => holds entry.2).map fun entry => (entry.1, entry.2)

/-- `active_license_for_account` (`db.rs:51-68`). -/
def activeLicenseForAccount (db : Db) (accountId : String) (now : UInt64) : Option LicenseView :=
  let rows := selectWhere db.licenses fun row =>
    row.accountId = accountId && row.revokedAt.isNone && row.expiresAt ≥ toSql now
  (orderByDesc visited LicenseRow.createdAt rows).head?.map fun (id, row) => row.view id

/-- `license` (`db.rs:98-106`). -/
def license (db : Db) (licenseId : String) : Option LicenseView :=
  (db.licenses.lookup licenseId).map fun row => row.view licenseId

/-- `device` (`db.rs:123-135`). -/
def device (db : Db) (deviceId : String) : Option DeviceView :=
  (db.devices.lookup deviceId).map fun row =>
    { licenseId := row.licenseId
      trialSecondsUsed := ofSql row.trialSecondsUsed
      displacedAt := row.displacedAt.map ofSql }

/-- `token_for_idempotency_key` (`db.rs:141-151`). -/
def tokenForIdempotencyKey (db : Db) (key : String) : Option (List UInt8) :=
  (db.issuedTokens.lookup key).map (·.token)

/-- `record_issue` (`db.rs:161-196`); `none` if the key is taken, and then nothing is written. -/
def recordIssue (db : Db) (licenseId deviceId key : String) (token : List UInt8) (now : UInt64) :
    Option Db :=
  let row : DeviceRow :=
    match db.devices.lookup deviceId with
    | some row => { row with displacedAt := none }
    | none =>
        { licenseId, lastHeartbeatAt := none, trialSecondsUsed := 0, createdAt := toSql now
          displacedAt := none }
  if (db.issuedTokens.lookup key).isSome then none
  else
    some { db with
      devices := db.devices.insert deviceId row
      issuedTokens := db.issuedTokens.insert key
        { licenseId, deviceId, token, issuedAt := toSql now } }

/-- `record_heartbeat` (`db.rs:202-215`). -/
def recordHeartbeat (db : Db) (deviceId : String) (trialSecondsUsed now : UInt64) : Db :=
  { db with
    devices := HashMap.modify deviceId
      (fun row =>
        { row with
          lastHeartbeatAt := some (toSql now)
          trialSecondsUsed := toSql trialSecondsUsed }) db.devices }

/-- `UPDATE licenses SET revoked_at = now` of a row that is not revoked. -/
def LicenseRow.revoke (row : LicenseRow) (now : UInt64) : LicenseRow :=
  if row.revokedAt.isNone then { row with revokedAt := some (toSql now) } else row

/-- `revoke_license` (`db.rs:221-228`). -/
def revokeLicense (db : Db) (licenseId : String) (now : UInt64) : Db :=
  { db with licenses := HashMap.modify licenseId (LicenseRow.revoke · now) db.licenses }

/-- The device has a seat of the licence. -/
def seated (licenseId : String) (row : DeviceRow) : Bool :=
  row.licenseId = licenseId && row.displacedAt.isNone

/-- `live_devices` (`db.rs:235-251`). -/
def liveDevices (db : Db) (licenseId : String) : List (String × Option UInt64) :=
  (orderByDesc visited (fun row => row.lastHeartbeatAt.getD 0)
    (selectWhere db.devices (seated licenseId))).map
      fun (id, row) => (id, row.lastHeartbeatAt.map ofSql)

/-- `displace_device` (`db.rs:257-264`). -/
def displaceDevice (db : Db) (deviceId : String) (now : UInt64) : Db :=
  { db with
    devices := HashMap.modify deviceId
      (fun row =>
        if row.displacedAt.isNone then { row with displacedAt := some (toSql now) } else row)
      db.devices }

/-- The change of `apply_webhook` (`db.rs:307-338`). -/
def applyChange (db : Db) (accountId : String) (now : UInt64) : EntitlementChange → Db
  | .grant licenseId plan expiresAt =>
      let row : LicenseRow :=
        match db.licenses.lookup licenseId with
        | some row =>
            { row with plan := plan.toNat, expiresAt := toSql expiresAt, revokedAt := none }
        | none =>
            { accountId, plan := plan.toNat, expiresAt := toSql expiresAt, revokedAt := none
              createdAt := toSql now }
      { db with licenses := db.licenses.insert licenseId row }
  | .revokeAll =>
      { db with
        licenses := HashMap.mapValues
          (fun row => if row.accountId = accountId then LicenseRow.revoke row now else row)
          db.licenses }

/-- `apply_webhook` (`db.rs:274-342`); `false` for a replay. -/
def applyWebhook (db : Db) (eventId provider : String) (eventTs : UInt64) (accountId : String)
    (change : EntitlementChange) (now : UInt64) : Bool × Db :=
  if (db.webhookEvents.lookup eventId).isSome then (false, db)
  else
    let event : WebhookEvent := { provider, receivedAt := toSql now, eventTs := toSql eventTs }
    let accounts :=
      if (db.accounts.lookup accountId).isSome then db.accounts
      else db.accounts.insert accountId (toSql now)
    (true, { db with
      webhookEvents := db.webhookEvents.insert eventId event
      accounts }.applyChange accountId now change)

end Db

end Lumepeer.Broker
