import Lumepeer.Core.RemotePath
import Lumepeer.Lib.Bytes
import Lumepeer.Lib.Framed
import Lumepeer.Lib.Utf8

/-!
# The channel between the client and the session host

`crates/service/src/host_channel_protocol.rs`: what the two may say to each
other and how it is framed, `magic:u8 | kind:u8 | len:u32 LE | payload`. A
function that reads or writes returns the stream it leaves beside its answer.
-/

namespace Lumepeer.Service
open Lumepeer.Lib
open Lumepeer.Core (isControl)

/-- `std::io::Read::read_exact`, `none` for an error. -/
class Read (R : Type) where
  readExact : R → (n : Nat) → Option (Bytes n) × R

/-- `std::io::Write::write_all` and `flush`, whether they succeed. -/
class Write (W : Type) where
  writeAll : W → List UInt8 → Bool × W
  flush : W → Bool × W

/-- `&[u8]`: the bytes still to be read. A read past the end takes what is left and fails. -/
instance : Read (List UInt8) where
  readExact bytes n :=
    match splitBytes n bytes with
    | some (first, rest) => (some first, rest)
    | none => (none, [])

/-- `Vec<u8>`: the bytes written so far. -/
instance : Write (List UInt8) where
  writeAll written bytes := (true, written ++ bytes)
  flush written := (true, written)

/-- A sink that takes `room` more bytes and fails on the next one, as `&mut [u8]` does. -/
structure Slots where
  written : List UInt8
  room : Nat
  deriving DecidableEq, Repr

instance : Write Slots where
  writeAll slots bytes :=
    (decide (bytes.length ≤ slots.room),
      { written := slots.written ++ bytes.take slots.room
        room := slots.room - bytes.length })
  flush slots := (true, slots)

/-- `HOST_CHANNEL_MAGIC` (`host_channel_protocol.rs:51`): `b'S'`. -/
def hostChannelMagic : UInt8 := 0x53

/-- `HEADER_LEN` (`host_channel_protocol.rs:54`). -/
abbrev headerLen : Nat := 6

/-- `MAX_LABEL_BYTES` (`host_channel_protocol.rs:70`). -/
def maxLabelBytes : Nat := 64

/-- `MAX_CHAT_BYTES` (`host_channel_protocol.rs:78`). -/
def maxChatBytes : Nat := 4096

/-- `MAX_GRANT_BYTES` (`host_channel_protocol.rs:81`). -/
def maxGrantBytes : Nat := 32

/-- `MAX_RECORDING_NAME_BYTES` (`host_channel_protocol.rs:113`). -/
def maxRecordingNameBytes : Nat := 128

/-- `MAX_REQUEST_PAYLOAD` (`host_channel_protocol.rs:57`). -/
def maxRequestPayload : Nat := 1 + maxLabelBytes + maxChatBytes

/-- `MAX_REPLY_PAYLOAD` (`host_channel_protocol.rs:66`). -/
def maxReplyPayload : Nat := 1024 * 1024

/-! The kind bytes (`host_channel_protocol.rs:84-146`). -/

@[match_pattern] abbrev kindSnapshot : UInt8 := 0x01
@[match_pattern] abbrev kindTranscript : UInt8 := 0x02
@[match_pattern] abbrev kindMarkChatRead : UInt8 := 0x03
@[match_pattern] abbrev kindGuestStores : UInt8 := 0x04
@[match_pattern] abbrev kindCurrentInvite : UInt8 := 0x05
@[match_pattern] abbrev kindEndSession : UInt8 := 0x10
@[match_pattern] abbrev kindLowerGrant : UInt8 := 0x11
@[match_pattern] abbrev kindRefusePending : UInt8 := 0x12
@[match_pattern] abbrev kindHostingOff : UInt8 := 0x13
@[match_pattern] abbrev kindSendChat : UInt8 := 0x14
@[match_pattern] abbrev kindUnattendedOff : UInt8 := 0x15
@[match_pattern] abbrev kindGuestStoresTaken : UInt8 := 0x16
@[match_pattern] abbrev kindAcceptAfterSignInOff : UInt8 := 0x17
@[match_pattern] abbrev kindRecordings : UInt8 := 0x20
@[match_pattern] abbrev kindExportRecording : UInt8 := 0x21
@[match_pattern] abbrev kindAskToWiden : UInt8 := 0x30
@[match_pattern] abbrev kindInstallUpdate : UInt8 := 0x40
@[match_pattern] abbrev kindInvite : UInt8 := 0x50

@[match_pattern] abbrev kindReplySnapshot : UInt8 := 0x81
@[match_pattern] abbrev kindReplyTranscript : UInt8 := 0x82
@[match_pattern] abbrev kindReplyDone : UInt8 := 0x83
@[match_pattern] abbrev kindReplyRefused : UInt8 := 0x84
@[match_pattern] abbrev kindReplyGuestStores : UInt8 := 0x85
@[match_pattern] abbrev kindReplyRecordings : UInt8 := 0xA0
@[match_pattern] abbrev kindReplyExported : UInt8 := 0xA1
@[match_pattern] abbrev kindReplyInvite : UInt8 := 0xB0

/-- `REPLY_KIND_FLOOR` (`host_channel_protocol.rs:149`). -/
def replyKindFloor : UInt8 := 0x80

/-- `Widening` (`host_channel_protocol.rs:269-276`). -/
inductive Widening where
  | control
  | secureDesktopInput
  | trustDevice
  deriving DecidableEq, Repr

namespace Widening

/-- `Widening::to_byte` (`host_channel_protocol.rs:286-292`). -/
def toByte : Widening → UInt8
  | control => 1
  | secureDesktopInput => 2
  | trustDevice => 3

/-- `Widening::from_byte` (`host_channel_protocol.rs:294-301`). -/
def fromByte : UInt8 → Option Widening
  | 1 => some control
  | 2 => some secureDesktopInput
  | 3 => some trustDevice
  | _ => none

end Widening

/-- `Request` (`host_channel_protocol.rs:157-263`). -/
inductive Request where
  | snapshot
  | transcript (peer : String)
  | markChatRead (peer : String)
  | endSession (peer : String)
  | lowerGrant (peer grant : String)
  | refusePending (peer : String)
  | hostingOff
  | sendChat (peer text : String)
  | installUpdate
  | guestStores
  | guestStoresTaken
  | recordings
  | exportRecording (name : String)
  | unattendedOff
  | acceptAfterSignInOff
  | askToWiden (peer : String) (widening : Widening)
  | currentInvite
  | invite (renew : Bool)
  deriving DecidableEq, Repr

/-- `Reply` (`host_channel_protocol.rs:363-382`). The payloads are JSON. -/
inductive Reply where
  | snapshot (json : List UInt8)
  | transcript (json : List UInt8)
  | done
  | refused
  | recordings (json : List UInt8)
  | exported (json : List UInt8)
  | guestStores (json : List UInt8)
  | invite (json : List UInt8)
  deriving DecidableEq, Repr

/-- The payload of an announced length: `read_frame` after the check of the length. -/
def readPayload {R : Type} [Read R] (reader : R) (kind : UInt8) (len : Nat) :
    Option (UInt8 × List UInt8) × R :=
  match Read.readExact reader len with
  | (none, reader) => (none, reader)
  | (some payload, reader) => (some (kind, payload.toList), reader)

/-- `read_frame` (`host_channel_protocol.rs:435-449`). -/
def readFrame {R : Type} [Read R] (reader : R) (max : Nat) :
    Option (UInt8 × List UInt8) × R :=
  match Read.readExact reader headerLen with
  | (none, reader) => (none, reader)
  | (some header, reader) =>
      match header.toList with
      | [magic, kind, a, b, c, d] =>
          if magic ≠ hostChannelMagic then (none, reader)
          else
            let len := (fromLeBytes32 ⟨[a, b, c, d], rfl⟩).toNat
            if len > max then (none, reader) else readPayload reader kind len
      | _ => (none, reader)

/-- `write_frame` (`host_channel_protocol.rs:452-462`). -/
def writeFrame {W : Type} [Write W] (writer : W) (kind : UInt8) (payload : List UInt8) :
    Bool × W :=
  -- `u32::try_from`
  if payload.length < 2 ^ 32 then
    let len := UInt32.ofNat payload.length
    let frame := hostChannelMagic :: kind :: toLeBytes32 len ++ payload
    match Write.writeAll writer frame with
    | (false, writer) => (false, writer)
    | (true, writer) => Write.flush writer
  else (false, writer)

/-- `with_label` (`host_channel_protocol.rs:493-499`): `label_len:u8 | label | rest`. -/
def withLabel (peer rest : String) : List UInt8 :=
  -- `u8::try_from(peer.len()).unwrap_or(u8::MAX)`
  UInt8.ofNat (min (asBytes peer).length 255) :: (asBytes peer ++ asBytes rest)

/-- `encode_request` (`host_channel_protocol.rs:465-490`). -/
def encodeRequest : Request → UInt8 × List UInt8
  | .snapshot => (kindSnapshot, [])
  | .transcript peer => (kindTranscript, asBytes peer)
  | .markChatRead peer => (kindMarkChatRead, asBytes peer)
  | .endSession peer => (kindEndSession, asBytes peer)
  | .lowerGrant peer grant => (kindLowerGrant, withLabel peer grant)
  | .refusePending peer => (kindRefusePending, asBytes peer)
  | .hostingOff => (kindHostingOff, [])
  | .sendChat peer text => (kindSendChat, withLabel peer text)
  | .askToWiden peer widening => (kindAskToWiden, widening.toByte :: asBytes peer)
  | .unattendedOff => (kindUnattendedOff, [])
  | .acceptAfterSignInOff => (kindAcceptAfterSignInOff, [])
  | .recordings => (kindRecordings, [])
  | .exportRecording name => (kindExportRecording, asBytes name)
  | .guestStores => (kindGuestStores, [])
  | .guestStoresTaken => (kindGuestStoresTaken, [])
  | .installUpdate => (kindInstallUpdate, [])
  | .currentInvite => (kindCurrentInvite, [])
  | .invite renew => (kindInvite, [if renew then 1 else 0])

/-- `label` (`host_channel_protocol.rs:552-557`). -/
def label (payload : List UInt8) : Option String :=
  match fromUtf8 payload with
  | none => none
  | some text =>
      let ok := !(asBytes text).isEmpty && (asBytes text).length ≤ maxLabelBytes &&
        !text.toList.any isControl
      if ok then some text else none

/-- `recording_name` (`host_channel_protocol.rs:561-569`). -/
def recordingName (payload : List UInt8) : Option String :=
  match fromUtf8 payload with
  | none => none
  | some text =>
      let ok := !(asBytes text).isEmpty && (asBytes text).length ≤ maxRecordingNameBytes &&
        !text.toList.any fun c => isControl c || c == '/' || c == '\\'
      if ok then some text else none

/-- `label_and_rest` (`host_channel_protocol.rs:572-578`). -/
def labelAndRest (payload : List UInt8) : Option (String × String) := do
  match payload with
  | [] => none
  | len :: rest =>
      let (first, tail) ← splitBytes len.toNat rest
      let peer ← label first.toList
      let tail ← fromUtf8 tail
      return (peer, tail)

/-- `b.is_ascii_lowercase() || b == b'_'`. -/
def isGrantByte (b : UInt8) : Bool := (0x61 ≤ b && b ≤ 0x7A) || b == 0x5F

/-- `decode_request` (`host_channel_protocol.rs:502-548`). -/
def decodeRequest (kind : UInt8) (payload : List UInt8) : Option Request :=
  match kind with
  | kindSnapshot => if payload.isEmpty then some .snapshot else none
  | kindTranscript => (label payload).map .transcript
  | kindMarkChatRead => (label payload).map .markChatRead
  | kindEndSession => (label payload).map .endSession
  | kindLowerGrant => do
      let (peer, grant) ← labelAndRest payload
      let grantOk := !(asBytes grant).isEmpty && (asBytes grant).length ≤ maxGrantBytes &&
        (asBytes grant).all isGrantByte
      if grantOk then some (.lowerGrant peer grant) else none
  | kindRefusePending => (label payload).map .refusePending
  | kindHostingOff => if payload.isEmpty then some .hostingOff else none
  | kindSendChat => do
      let (peer, text) ← labelAndRest payload
      if !(asBytes text).isEmpty && (asBytes text).length ≤ maxChatBytes then
        some (.sendChat peer text)
      else none
  | kindAskToWiden =>
      match payload with
      | [] => none
      | byte :: peer =>
          match Widening.fromByte byte with
          | none => none
          | some widening => (label peer).map fun peer => .askToWiden peer widening
  | kindUnattendedOff => if payload.isEmpty then some .unattendedOff else none
  | kindAcceptAfterSignInOff => if payload.isEmpty then some .acceptAfterSignInOff else none
  | kindRecordings => if payload.isEmpty then some .recordings else none
  | kindExportRecording => (recordingName payload).map .exportRecording
  | kindGuestStores => if payload.isEmpty then some .guestStores else none
  | kindGuestStoresTaken => if payload.isEmpty then some .guestStoresTaken else none
  | kindInstallUpdate => if payload.isEmpty then some .installUpdate else none
  | kindCurrentInvite => if payload.isEmpty then some .currentInvite else none
  | kindInvite =>
      match payload with
      | [0] => some (.invite false)
      | [1] => some (.invite true)
      | _ => none
  | _ => none

/-- `write_request` (`host_channel_protocol.rs:385-388`). -/
def writeRequest {W : Type} [Write W] (writer : W) (request : Request) : Bool × W :=
  let (kind, payload) := encodeRequest request
  writeFrame writer kind payload

/-- `read_request` (`host_channel_protocol.rs:393-399`). -/
def readRequest {R : Type} [Read R] (reader : R) : Option Request × R :=
  match readFrame reader maxRequestPayload with
  | (none, reader) => (none, reader)
  | (some (kind, payload), reader) =>
      if kind ≥ replyKindFloor then (none, reader) else (decodeRequest kind payload, reader)

/-- The kind byte and payload `write_reply` gives a reply (`host_channel_protocol.rs:404-413`). -/
def encodeReply : Reply → UInt8 × List UInt8
  | .snapshot json => (kindReplySnapshot, json)
  | .transcript json => (kindReplyTranscript, json)
  | .done => (kindReplyDone, [])
  | .refused => (kindReplyRefused, [])
  | .recordings json => (kindReplyRecordings, json)
  | .exported json => (kindReplyExported, json)
  | .guestStores json => (kindReplyGuestStores, json)
  | .invite json => (kindReplyInvite, json)

/-- `write_reply` (`host_channel_protocol.rs:403-415`). -/
def writeReply {W : Type} [Write W] (writer : W) (reply : Reply) : Bool × W :=
  let (kind, payload) := encodeReply reply
  if payload.length ≤ maxReplyPayload then writeFrame writer kind payload else (false, writer)

/-- The reply a kind byte and payload spell (`host_channel_protocol.rs:420-430`). -/
def decodeReply (kind : UInt8) (payload : List UInt8) : Option Reply :=
  match kind with
  | kindReplySnapshot => some (.snapshot payload)
  | kindReplyTranscript => some (.transcript payload)
  | kindReplyDone => if payload.isEmpty then some .done else none
  | kindReplyRefused => if payload.isEmpty then some .refused else none
  | kindReplyRecordings => some (.recordings payload)
  | kindReplyExported => some (.exported payload)
  | kindReplyGuestStores => some (.guestStores payload)
  | kindReplyInvite => some (.invite payload)
  | _ => none

/-- `read_reply` (`host_channel_protocol.rs:418-431`). -/
def readReply {R : Type} [Read R] (reader : R) : Option Reply × R :=
  match readFrame reader maxReplyPayload with
  | (none, reader) => (none, reader)
  | (some (kind, payload), reader) => (decodeReply kind payload, reader)

end Lumepeer.Service
