import Lumepeer.Broker.Routes

/-!
# Payment webhooks, statement by statement

`payment` of `services/broker/src/routes/webhook.rs` from the bytes that arrive, and the
transaction of `apply_webhook` with the statements it is made of. SQLite lets one
transaction write at a time: it sees what was committed before its first write, and
nobody sees what it wrote until it is committed. BLAKE3 and the JSON parser are other
crates'.
-/

namespace Lumepeer.Broker
open Lumepeer.Lib Lumepeer.Core

/-- What the webhook needs of `AppState`, with the crates that it is used with. -/
structure WebhookState where
  webhookSecret : List UInt8
  /-- `blake3::hash`. -/
  hash : List UInt8 → Bytes 32
  /-- `blake3::Hasher::new_keyed` over all that it is updated with. -/
  keyedHash : Bytes 32 → List UInt8 → Bytes 32
  /-- `serde_json::from_slice`. -/
  fromSlice : List UInt8 → Option PaymentEvent

/-- What arrives: the values of the two headers, and the body. -/
structure WebhookRequest where
  timestamp : Option (List UInt8)
  signature : Option (List UInt8)
  body : List UInt8
  deriving DecidableEq

/-- `HeaderValue::to_str`: visible ASCII and tabs. -/
def toStr (value : List UInt8) : Option (List UInt8) :=
  if value.all fun b => (32 ≤ b && b < 127) || b = 9 then some value else none

/-- `b.is_ascii_digit()`. -/
def isDigit (b : UInt8) : Bool := 48 ≤ b && b ≤ 57

/-- `str::parse::<u64>`. -/
def parseU64 (text : List UInt8) : Option UInt64 :=
  let digits := match text with
    | 43 :: digits => digits
    | _ => text
  let value := digits.foldl (fun value b => 10 * value + (b.toNat - 48)) 0
  if digits.isEmpty || !digits.all isDigit || value ≥ 2 ^ 64 then none
  else some (UInt64.ofNat value)

/-- `u64::to_string`. -/
def decimal (n : UInt64) : List UInt8 :=
  (Nat.toDigits 10 n.toNat).map fun digit => UInt8.ofNat digit.toNat

/-- `char::to_digit(16)`. -/
def toDigit16 (b : UInt8) : Option Nat :=
  if isDigit b then some (b.toNat - 48)
  else if 97 ≤ b && b ≤ 102 then some (b.toNat - 87)
  else if 65 ≤ b && b ≤ 70 then some (b.toNat - 55)
  else none

/-- The loop of `decode_hex32` (`main.rs:92-96`). -/
def decodePairs : List UInt8 → Option (List UInt8)
  | hi :: lo :: rest => do
      let hi ← toDigit16 hi
      let lo ← toDigit16 lo
      let bytes ← decodePairs rest
      return UInt8.ofNat (hi * 16 + lo) :: bytes
  | _ => some []

/-- `decode_hex32` (`main.rs:86-98`). -/
def decodeHex32 (text : List UInt8) : Option (List UInt8) :=
  if text.length ≠ 64 then none else decodePairs text

namespace WebhookState

/-- `keyed_secret` (`main.rs:82-84`). -/
def keyedSecret (state : WebhookState) : Bytes 32 := state.hash state.webhookSecret

/-- `AppState::webhook_signature` (`main.rs:71-77`). -/
def webhookSignature (state : WebhookState) (timestamp : UInt64) (body : List UInt8) : Bytes 32 :=
  state.keyedHash state.keyedSecret (decimal timestamp ++ [46] ++ body)

/-- `AppState::verify_webhook` (`main.rs:62-67`). -/
def verifyWebhook (state : WebhookState) (timestamp : UInt64) (body signature : List UInt8) : Bool :=
  match decodeHex32 signature with
  | none => false
  | some provided => (state.webhookSignature timestamp body).toList == provided

end WebhookState

/-- What `payment` makes of the headers and the body (`webhook.rs:64-89`). -/
def WebhookRequest.received (request : WebhookRequest) (state : WebhookState) : PaymentRequest :=
  let timestamp := (request.timestamp.bind toStr).bind parseU64
  { timestamp
    signature := (request.signature.bind toStr).map fun signature =>
      timestamp.any fun timestamp => state.verifyWebhook timestamp request.body signature
    event := state.fromSlice request.body }

/-- An event that passed every check, with its change and the time it is applied at. -/
structure Paid where
  event : PaymentEvent
  change : EntitlementChange
  now : UInt64
  deriving DecidableEq

namespace Db

/-- `INSERT INTO webhook_events` (`db.rs:286-295`). -/
def insertEvent (db : Db) (paid : Paid) : Db :=
  { db with
    webhookEvents := db.webhookEvents.insert paid.event.eventId
      { provider := "payment", receivedAt := toSql paid.now, eventTs := toSql paid.event.eventTs } }

/-- `INSERT OR IGNORE INTO accounts` (`db.rs:301-305`). -/
def insertAccount (db : Db) (paid : Paid) : Db :=
  { db with
    accounts :=
      if (db.accounts.lookup paid.event.accountId).isSome then db.accounts
      else db.accounts.insert paid.event.accountId (toSql paid.now) }

/-- The change of an event (`db.rs:307-338`). -/
def change (db : Db) (paid : Paid) : Db := db.applyChange paid.event.accountId paid.now paid.change

end Db

/-- A request that is being handled, with its event once its transaction has begun. -/
structure Delivery where
  request : WebhookRequest
  now : UInt64
  paid : Option Paid := none
  deriving DecidableEq

/-- How far the transaction that writes has come, and what it has written. -/
inductive Progress where
  | replayed
  | inserted (work : Db)
  | accounted (work : Db)
  | changed (work : Db)

/-- The transaction that writes. -/
structure Writing where
  delivery : Delivery
  paid : Paid
  progress : Progress

/-- What is committed, the requests that wait, and the transaction that writes. -/
structure Payments where
  db : Db := {}
  deliveries : List Delivery := []
  writing : Option Writing := none

namespace Payments

/-- What happens. -/
inductive Happening where
  | arrive (request : WebhookRequest) (now : UInt64)
  /-- A request is checked, or the transaction of one does its first write. -/
  | run (position : Nat)
  /-- The transaction that writes does its next statement. -/
  | write
  /-- A statement of a request that waits fails. -/
  | fail (position : Nat)
  /-- The next statement of the transaction that writes fails. -/
  | failWrite

def applied : Answer := { status := .ok, body := .webhook "applied" }

/-- The answer when a statement fails (`webhook.rs:126-132`). -/
def failed : Answer := refuse .internalServerError "internal"

/-- The next statement of the transaction that writes; a transaction that is dropped is rolled
back. -/
def writeStep (payments : Payments) (writing : Writing) : Option (Delivery × Answer) × Payments :=
  match writing.progress with
  | .replayed => (some (writing.delivery, refuse .conflict "replay"), { payments with writing := none })
  | .inserted work =>
      (none, { payments with
        writing := some { writing with progress := .accounted (work.insertAccount writing.paid) } })
  | .accounted work =>
      (none, { payments with
        writing := some { writing with progress := .changed (work.change writing.paid) } })
  | .changed work =>
      (some (writing.delivery, applied), { payments with db := work, writing := none })

/-- One statement, with the request that it answers. -/
def step (state : WebhookState) (payments : Payments) :
    Happening → Option (Delivery × Answer) × Payments
  | .arrive request now =>
      (none, { payments with deliveries := payments.deliveries ++ [{ request, now }] })
  | .run position =>
      match payments.deliveries[position]? with
      | none => (none, payments)
      | some delivery =>
          match delivery.paid with
          | none =>
              match (delivery.request.received state).accept delivery.now with
              | .error answer =>
                  (some (delivery, answer),
                    { payments with deliveries := payments.deliveries.eraseIdx position })
              | .ok (event, change) =>
                  (none, { payments with
                    deliveries := payments.deliveries.set position
                      { delivery with paid := some { event, change, now := delivery.now } } })
          | some paid =>
              -- The first write waits for the transaction that writes.
              if payments.writing.isSome then (none, payments)
              else
                let progress :=
                  if (payments.db.webhookEvents.lookup paid.event.eventId).isSome then .replayed
                  else .inserted (payments.db.insertEvent paid)
                (none, { payments with
                  deliveries := payments.deliveries.eraseIdx position
                  writing := some { delivery, paid, progress } })
  | .write =>
      match payments.writing with
      | none => (none, payments)
      | some writing => payments.writeStep writing
  | .fail position =>
      match payments.deliveries[position]? with
      | none => (none, payments)
      | some delivery =>
          let answer := match (delivery.request.received state).accept delivery.now with
            | .error answer => answer
            | .ok _ => failed
          (some (delivery, answer),
            { payments with deliveries := payments.deliveries.eraseIdx position })
  | .failWrite =>
      match payments.writing with
      | none => (none, payments)
      | some writing => (some (writing.delivery, failed), { payments with writing := none })

end Payments

end Lumepeer.Broker
