import Lumepeer.Lib.Remembered
import Lumepeer.Lib.Run
import Lumepeer.Lib.Utf8
import Lumepeer.Net.Basic

/-!
# The signalling relays (`nostr.rs`)

The events that are published on a topic, what a text frame of a relay means,
and the channel that hears them: each relay has a task of its own that reads its
frames into one shared inbox, and `recv` takes events out of it and drops those
whose id it remembers. A task that finds the inbox full waits with its event and
reads nothing meanwhile. What is left out of a task: the pings, the silence they
measure, the pauses between connections and the outbox.
-/

namespace Lumepeer.Net.Nostr
open Lumepeer.Lib

/-- `serde_json::Value`. A number is one of the three that `serde_json` tells apart, a float by its
bits; an object lists its fields in the order of their keys. -/
inductive Json where
  | null
  | bool (value : Bool)
  | posInt (value : UInt64)
  | negInt (value : Int64)
  | float (bits : UInt64)
  | string (value : String)
  | array (values : List Json)
  | object (fields : List (String × Json))

namespace Json

/-- `Value::as_str`. -/
def asStr : Json → Option String
  | string value => some value
  | _ => none

/-- `Value::as_u64`. -/
def asU64 : Json → Option UInt64
  | posInt value => some value
  | _ => none

/-- `Value::as_array`. -/
def asArray : Json → Option (List Json)
  | array values => some values
  | _ => none

/-- `Value::get` with a key. -/
def get (key : String) : Json → Option Json
  | object fields => fields.lookup key
  | _ => none

end Json

/-- What the module takes from `serde_json`, `sha2` and `k256`. -/
structure Crates where
  /-- `serde_json::from_str`. -/
  fromStr : String → Option Json
  /-- `Value::to_string`. -/
  toText : Json → String
  /-- `Sha256::digest`. -/
  digest : List UInt8 → Bytes 32
  SigningKey : Type
  /-- `verifying_key().to_bytes()`. -/
  verifyingKey : SigningKey → Bytes 32
  /-- `sign_raw`. -/
  signRaw : SigningKey → (id aux : Bytes 32) → Option (Bytes 64)

/-- `SIGNAL_EVENT_KIND` (`nostr.rs:68`). -/
def signalEventKind : UInt64 := 25116

/-- `SUBSCRIPTION_ID` (`nostr.rs:72`). -/
def subscriptionId : String := "lp"

/-- `INBOX_CAPACITY` (`nostr.rs:78`). -/
def inboxCapacity : Nat := 64

/-- `SEEN_CAPACITY` (`nostr.rs:82`). -/
def seenCapacity : Nat := 256

/-- `SIGNAL_MAX_MESSAGE_BYTES` (`constants.rs:695`). -/
def signalMaxMessageBytes : Nat := 64 * 1024

/-- `HEXLOWER.encode`. -/
def hexLower (bytes : List UInt8) : String :=
  String.ofList <| bytes.flatMap fun byte =>
    [Nat.digitChar (byte.toNat / 16), Nat.digitChar (byte.toNat % 16)]

section
variable (crates : Crates)

/-- `subscription` (`nostr.rs:256-263`). -/
def subscription (topic : String) (now : UInt64) : String :=
  crates.toText <| .array
    [.string "REQ", .string subscriptionId,
      .object
        [("#t", .array [.string topic]),
          ("kinds", .array [.posInt signalEventKind]),
          ("since", .posInt (if now < 10 then 0 else now - 10))]]

/-- The tags of an event on `topic` (`nostr.rs:269`). -/
def tags (topic : String) : Json := .array [.array [.string "t", .string topic]]

/-- The array that the id of an event commits to (`nostr.rs:273-274`). -/
def commitment (pubkey topic content : String) (createdAt : UInt64) : Json :=
  .array [.posInt 0, .string pubkey, .posInt createdAt, .posInt signalEventKind, tags topic,
    .string content]

/-- The id of an event (`nostr.rs:273-275`). -/
def eventId (pubkey topic content : String) (createdAt : UInt64) : Bytes 32 :=
  crates.digest (asBytes (crates.toText (commitment pubkey topic content createdAt)))

/-- The object of a signed event (`nostr.rs:267-291`). -/
def signedEvent (key : crates.SigningKey) (topic content : String) (createdAt : UInt64)
    (aux : Bytes 32) : Option Json :=
  let pubkey := hexLower (crates.verifyingKey key).toList
  let id := eventId crates pubkey topic content createdAt
  match crates.signRaw key id aux with
  | none => none
  | some signature =>
      some <| .object
        [("content", .string content),
          ("created_at", .posInt createdAt),
          ("id", .string (hexLower id.toList)),
          ("kind", .posInt signalEventKind),
          ("pubkey", .string pubkey),
          ("sig", .string (hexLower signature.toList)),
          ("tags", tags topic)]

/-- `event_frame` (`nostr.rs:267-294`). -/
def eventFrame (key : crates.SigningKey) (topic content : String) (createdAt : UInt64)
    (aux : Bytes 32) : Option String :=
  (signedEvent crates key topic content createdAt aux).map fun event =>
    crates.toText (.array [.string "EVENT", event])

/-- `Frame` (`nostr.rs:298-305`). -/
inductive Frame where
  | event (id content : String)
  | closed (reason : String)
  | other
  deriving DecidableEq, Repr

/-- Whether one of the tags names the topic (`nostr.rs:329-339`). -/
def onTopic (topic : String) (event : Json) : Bool :=
  match (event.get "tags").bind Json.asArray with
  | none => false
  | some tags => tags.any fun tag =>
      match tag.asArray with
      | none => false
      | some tag => (tag[0]?.bind Json.asStr) == some "t" && (tag[1]?.bind Json.asStr) == some topic

/-- `parse_frame` (`nostr.rs:307-353`). -/
def parseFrame (text topic : String) : Frame :=
  match crates.fromStr text with
  | some (.array parts) =>
      let first := parts[0]?.bind Json.asStr
      let second := parts[1]?.bind Json.asStr
      if first = some "EVENT" ∧ second = some subscriptionId then
        match parts[2]? with
        | none => .other
        | some event =>
            let kind := (event.get "kind").bind Json.asU64
            match (event.get "id").bind Json.asStr, (event.get "content").bind Json.asStr with
            | some id, some content =>
                if kind ≠ some signalEventKind ∨ ¬onTopic topic event then .other
                else .event id content
            | _, _ => .other
      else if first = some "CLOSED" ∧ second = some subscriptionId then
        .closed ((parts[2]?.bind Json.asStr).getD "")
      else .other
  | _ => .other

end

/-- `Heard` (`nostr.rs:100-103`). -/
structure Heard where
  id : String
  content : String
  deriving DecidableEq, Repr

/-- A relay, by its place in the list that the channel was opened with. -/
abbrev Relay := Nat

/-- `Channel` (`nostr.rs:109-114`), with the relays whose task holds a subscribed connection. -/
structure Channel where
  up : List Relay := []
  inbox : List Heard := []
  seen : List String := []
  deriving DecidableEq, Repr

/-- What happens to a channel. -/
inductive Op where
  /-- The task of the relay has connected and subscribes. -/
  | connects (relay : Relay) (now : UInt64)
  /-- The connection to the relay ends, for any reason but a frame that came on it. -/
  | ends (relay : Relay)
  /-- The relay sent a text, and its task is done with it: if it is an event, the inbox had room. -/
  | frame (relay : Relay) (text : String)
  /-- `recv` runs until it returns or finds the inbox empty. -/
  | recv
  deriving DecidableEq, Repr

/-- What a step sends to relays, what it puts into the inbox, what it takes out of there, each with
whether it is new, and what `recv` returns. -/
structure Out where
  sent : List (Relay × String) := []
  reached : List Heard := []
  taken : List (Heard × Bool) := []
  returned : Option String := none
  deriving DecidableEq, Repr

namespace Channel

/-- The turns of the loop in `Channel::recv` (`nostr.rs:178-190`). -/
def recvFrom (seen : List String) : List Heard → Out × List Heard × List String
  | [] => ({}, [], seen)
  | heard :: inbox =>
      if heard.id ∈ seen then
        let (out, inbox, seen) := recvFrom seen inbox
        ({ out with taken := (heard, false) :: out.taken }, inbox, seen)
      else
        ({ taken := [(heard, true)], returned := some heard.content }, inbox,
          remember seenCapacity seen heard.id)

/-- `Channel::recv` (`nostr.rs:178-190`). -/
def recv (channel : Channel) : Out × Channel :=
  let (out, inbox, seen) := recvFrom channel.seen channel.inbox
  (out, { channel with inbox, seen })

/-- What `serve_connection` does with a frame (`nostr.rs:419-440`). -/
def frame (crates : Crates) (topic : String) (channel : Channel) (relay : Relay) (text : String) :
    Out × Channel :=
  if relay ∉ channel.up then ({}, channel)
  else if signalMaxMessageBytes < text.utf8ByteSize then
    ({}, { channel with up := channel.up.erase relay })
  else
    match parseFrame crates text topic with
    | .event id content =>
        if channel.inbox.length < inboxCapacity then
          ({ reached := [⟨id, content⟩] }, { channel with inbox := channel.inbox ++ [⟨id, content⟩] })
        else ({}, channel)
    | .closed _ => ({}, { channel with up := channel.up.erase relay })
    | .other => ({}, channel)

/-- One step of a channel on `topic`. -/
def step (crates : Crates) (topic : String) (channel : Channel) : Op → Out × Channel
  | .connects relay now =>
      if relay ∈ channel.up then ({}, channel)
      else ({ sent := [(relay, subscription crates topic now)] },
        { channel with up := relay :: channel.up })
  | .ends relay => ({}, { channel with up := channel.up.erase relay })
  | .frame relay text => frame crates topic channel relay text
  | .recv => recv channel

end Channel
end Lumepeer.Net.Nostr
