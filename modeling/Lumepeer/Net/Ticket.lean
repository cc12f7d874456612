import Lumepeer.Core.Wire
import Lumepeer.Lib.Base32
import Lumepeer.Lib.HashMap
import Lumepeer.Lib.Saturating
import Lumepeer.Net.Basic
import Lumepeer.Net.Crates

/-!
# Invite tickets

The tickets of `crates/net/src/ticket.rs`, their signed fields, the invite code
and the host's registry. What `postcard` makes of the derived instances is the
`Codec` of each type; `serde` writes a socket address as its family, octets and
port and reads it back with neither a flow label nor a scope. The `iroh` address
a ticket carries is a parameter, and so is the signature scheme.
-/

namespace Lumepeer.Net
open Lumepeer.Lib Lumepeer.Core

/-- `INVITE_CODE_PREFIX` (`ticket.rs:25`). -/
def inviteCodePrefix : String := "lumepeer1:"

/-- `Vec<u8>`: at most `isize::MAX` bytes. -/
abbrev ByteVec := { bytes : List UInt8 // bytes.length < 2 ^ 63 }

/-- `iroh::EndpointAddr` with what `postcard` makes of it. -/
structure Iroh where
  EndpointAddr : Type
  /-- `postcard::to_allocvec(addr).ok()`. -/
  toAllocvec : EndpointAddr → Option ByteVec
  /-- `postcard::from_bytes(bytes).ok()`. -/
  fromBytes : List UInt8 → Option EndpointAddr
  /-- `addr.id`. -/
  id : EndpointAddr → NodeId

/-- `InviteTicket` (`ticket.rs:35-60`). -/
structure InviteTicket where
  protocolMajor : UInt16
  nodeAddr : ByteVec
  inviteId : Bytes inviteIdBytes
  expiresAt : UInt64
  allowedRequest : Role
  obfuscatedAddr : Option SocketAddr
  hostCertFingerprint : Option (Bytes 32)
  signature : Bytes 64
  deriving DecidableEq

/-- `SignedFields` (`ticket.rs:64-72`), in the order of the declaration; of the address what
`serde` writes. -/
abbrev SignedFields :=
  UInt16 × ByteVec × Bytes inviteIdBytes × UInt64 × Role × Option (IpAddr × UInt16) ×
    Option (Bytes 32)

namespace Wire

/-- `Vec<u8>`. -/
def byteVec : Codec ByteVec :=
  Codec.bytes.parse (fun bytes => if short : bytes.length < 2 ^ 63 then some ⟨bytes, short⟩ else none)
    Subtype.val (fun bytes => dif_pos bytes.2) (by
      intro bytes vec read
      split at read
      · cases read
        rfl
      · cases read)

/-- `SocketAddr`, variant by variant. -/
def socketAddrVariants : List (Variant (IpAddr × UInt16)) := [
  { codec := .pair (.array 4) .u16
    make := fun (octets, port) => (.v4 octets, port)
    view := fun | (.v4 octets, port) => some (octets, port) | _ => none },
  { codec := .pair (.array 16) .u16
    make := fun (octets, port) => (.v6 octets, port)
    view := fun | (.v6 octets, port) => some (octets, port) | _ => none }]

/-- `SocketAddr`. -/
def socketAddr : Codec (IpAddr × UInt16) :=
  .variants (fun addr => addr.1.ctorIdx) socketAddrVariants
    (by rintro ⟨_ | _, _⟩ <;> exact ⟨_, _, rfl, rfl⟩)
    (by repeat' first | exact trivial | refine ⟨fun _ => rfl, ?_⟩) (by decide)

/-- `SignedFields`. -/
def signedFields : Codec SignedFields :=
  .pair .u16 (.pair byteVec (.pair (.array inviteIdBytes) (.pair .u64 (.pair Core.Wire.role
    (.pair socketAddr.option (Codec.array 32).option)))))

/-- `InviteTicket`: the signature behind the signed fields. -/
def inviteTicket : Codec (SignedFields × Bytes 64) := .pair signedFields (.array 64)

end Wire

namespace InviteTicket

/-- The fields of a ticket that are signed, as they are serialized (`ticket.rs:150-158`,
`ticket.rs:213-221`). -/
def signedPart (ticket : InviteTicket) : SignedFields :=
  (ticket.protocolMajor, ticket.nodeAddr, ticket.inviteId, ticket.expiresAt, ticket.allowedRequest,
    ticket.obfuscatedAddr.map fun addr => (addr.ip, addr.port), ticket.hostCertFingerprint)

/-- What a deserialized ticket is made of. -/
def ofWire : SignedFields × Bytes 64 → InviteTicket
  | ((protocolMajor, nodeAddr, inviteId, expiresAt, allowedRequest, addr, hostCertFingerprint),
      signature) =>
      { protocolMajor, nodeAddr, inviteId, expiresAt, allowedRequest
        obfuscatedAddr := addr.map fun (ip, port) => SocketAddr.new ip port
        hostCertFingerprint, signature }

/-- `InviteTicket::issue_with_id` (`ticket.rs:137-170`). -/
def issueWithId (iroh : Iroh) (ed : Dalek) (signingKey : ed.SigningKey) (addr : iroh.EndpointAddr)
    (allowedRequest : Role) (now : UInt64) (inviteId : Bytes inviteIdBytes)
    (obfuscatedAddr : Option SocketAddr) (hostCertFingerprint : Option (Bytes 32)) :
    Except NetError InviteTicket :=
  match iroh.toAllocvec addr with
  | none => .error .malformedTicket
  | some nodeAddr =>
      let expiresAt := saturatingAdd64 now inviteTicketTtlSecs
      let signed := Wire.signedFields.encode (Core.protocolMajor, nodeAddr, inviteId, expiresAt,
        allowedRequest, obfuscatedAddr.map fun addr => (addr.ip, addr.port), hostCertFingerprint)
      .ok { protocolMajor := Core.protocolMajor, nodeAddr, inviteId, expiresAt, allowedRequest
            obfuscatedAddr, hostCertFingerprint, signature := ed.sign signingKey signed }

/-- `InviteTicket::is_expired_at` (`ticket.rs:269-271`). -/
def isExpiredAt (ticket : InviteTicket) (now : UInt64) : Bool := now > ticket.expiresAt

/-- `InviteTicket::verify_signature` (`ticket.rs:212-227`). -/
def verifySignature (ed : Dalek) (ticket : InviteTicket) (key : ed.VerifyingKey) :
    Except NetError Unit :=
  if ed.verify key (Wire.signedFields.encode ticket.signedPart) ticket.signature then .ok ()
  else .error .invalidTicket

/-- `InviteTicket::verify` (`ticket.rs:177-182`). -/
def verify (ed : Dalek) (ticket : InviteTicket) (key : ed.VerifyingKey) (now : UInt64) :
    Except NetError Unit :=
  if ticket.protocolMajor ≠ Core.protocolMajor || ticket.isExpiredAt now then .error .invalidTicket
  else verifySignature ed ticket key

/-- `InviteTicket::endpoint_addr` (`ticket.rs:233-235`). -/
def endpointAddr (iroh : Iroh) (ticket : InviteTicket) : Except NetError iroh.EndpointAddr :=
  match iroh.fromBytes ticket.nodeAddr with
  | none => .error .malformedTicket
  | some addr => .ok addr

/-- `InviteTicket::verify_issuer` (`ticket.rs:202-208`). -/
def verifyIssuer (iroh : Iroh) (ed : Dalek) (ticket : InviteTicket) :
    Except NetError iroh.EndpointAddr := do
  let addr ← endpointAddr iroh ticket
  match ed.fromBytes (iroh.id addr).bytes with
  | none => .error .invalidTicket
  | some key =>
      verifySignature ed ticket key
      return addr

/-- `InviteTicket::to_code` (`ticket.rs:242-248`). -/
def toCode (ticket : InviteTicket) : Except NetError String :=
  .ok (inviteCodePrefix ++ Base32.encode (Wire.inviteTicket.encode (ticket.signedPart, ticket.signature)))

/-- `InviteTicket::from_code` (`ticket.rs:257-265`). `strip_prefix` compares bytes, and
`postcard::from_bytes` leaves what follows the value unread. -/
def fromCode (encoded : String) : Except NetError InviteTicket :=
  match (asBytes encoded).dropPrefix? (asBytes inviteCodePrefix) with
  | none => .error .malformedTicket
  | some body =>
      match Base32.decode body with
      | none => .error .malformedTicket
      | some bytes =>
          match Wire.inviteTicket.decode bytes with
          | none => .error .malformedTicket
          | some (ticket, _) => .ok (ofWire ticket)

end InviteTicket

/-- `TicketState` (`ticket.rs:82-90`). -/
inductive TicketState where
  | live
  | expired
  | retired
  deriving DecidableEq, Repr

/-- `TicketRegistry` (`ticket.rs:286-288`). -/
structure TicketRegistry where
  states : HashMap (Bytes inviteIdBytes) TicketState

namespace TicketRegistry

/-- `TicketRegistry::new` (`ticket.rs:293-297`). -/
def new : TicketRegistry := { states := ∅ }

/-- `TicketRegistry::register` (`ticket.rs:300-302`). -/
def register (registry : TicketRegistry) (ticket : InviteTicket) : TicketRegistry :=
  { registry with states := registry.states.insert ticket.inviteId .live }

/-- `TicketRegistry::state` (`ticket.rs:306-308`). -/
def state (registry : TicketRegistry) (inviteId : Bytes inviteIdBytes) : Option TicketState :=
  registry.states.lookup inviteId

/-- `TicketRegistry::claim` (`ticket.rs:320-333`). -/
def claim (registry : TicketRegistry) (ticket : InviteTicket) (now : UInt64) :
    Except NetError Unit × TicketRegistry :=
  match registry.states.lookup ticket.inviteId with
  | none => (.error .invalidTicket, registry)
  | some state =>
      if ticket.isExpiredAt now then
        (.error .invalidTicket,
          { registry with states := registry.states.insert ticket.inviteId .expired })
      else if state ≠ .live then (.error .invalidTicket, registry)
      else (.ok (), registry)

/-- `TicketRegistry::retire_all` (`ticket.rs:340-346`). -/
def retireAll (registry : TicketRegistry) : TicketRegistry :=
  { registry with
    states := registry.states.mapValues fun state => if state = .live then .retired else state }

end TicketRegistry

end Lumepeer.Net
