import Lumepeer.Lib.Run
import Lumepeer.Lib.Chunks
import Lumepeer.Net.Basic
import Lumepeer.Net.Crates

/-!
# The obfuscated datagram codec and the host route

`crates/net/src/obfuscate.rs`: the envelope every datagram of a session travels
in, and the route that keeps a guest's datagrams going to where its host is.
What `seal` draws from the random number generator and what the route reads
from the clock are arguments. A slice out of range panics in the source and is
`none` here.
-/

namespace Lumepeer.Net
open Lumepeer.Lib Lumepeer.Core

/-- `NONCE_BYTES` (`obfuscate.rs:47`). -/
abbrev nonceBytes : Nat := 24

/-- `TAG_BYTES` (`obfuscate.rs:49`). -/
abbrev tagBytes : Nat := 16

/-- `LEN_HEADER_BYTES` (`obfuscate.rs:51`). -/
abbrev lenHeaderBytes : Nat := 2

/-- `ENVELOPE_BYTES` (`obfuscate.rs:53`). -/
def envelopeBytes : Nat := nonceBytes + lenHeaderBytes + tagBytes

/-- `PADDED_UP_TO_BYTES` (`obfuscate.rs:65`). -/
def paddedUpToBytes : Nat := 1200

/-- `MTU_UPPER_BOUND_BYTES` (`obfuscate.rs:73`). -/
def mtuUpperBoundBytes : UInt16 := 1452 - UInt16.ofNat envelopeBytes

/-- `Direction` (`obfuscate.rs:86-91`). -/
inductive Direction where
  | hostToGuest
  | guestToHost
  deriving DecidableEq, Repr

/-- `Direction::context` (`obfuscate.rs:94-99`) with the strings of `obfuscate.rs:78-82`. -/
def Direction.context : Direction → String
  | .hostToGuest => "lumepeer 2026 task17 obfuscation host-to-guest datagram key"
  | .guestToHost => "lumepeer 2026 task17 obfuscation guest-to-host datagram key"

/-- `derive_datagram_key` (`obfuscate.rs:109-111`). -/
def deriveDatagramKey (deriveKey : DeriveKey) (inviteId : Bytes inviteIdBytes)
    (direction : Direction) : Bytes 32 :=
  deriveKey direction.context inviteId.toList

/-- `Obfuscator` (`obfuscate.rs:117-120`). -/
structure Obfuscator where
  sealKey : Bytes 32
  openKey : Bytes 32
  deriving DecidableEq

/-- What one call of `seal` draws: the nonce, a padding length in
`0..=OBFUSCATE_PADDING_MAX_BYTES` and the padding's bytes. -/
structure SealDraw where
  nonce : Bytes nonceBytes
  padLen : Nat
  padLen_le : padLen ≤ obfuscatePaddingMaxBytes
  noise : Nat → UInt8

namespace Obfuscator

/-- `Obfuscator::for_host` (`obfuscate.rs:132-137`). -/
def forHost (deriveKey : DeriveKey) (inviteId : Bytes inviteIdBytes) : Obfuscator :=
  { sealKey := deriveDatagramKey deriveKey inviteId .hostToGuest
    openKey := deriveDatagramKey deriveKey inviteId .guestToHost }

/-- `Obfuscator::for_guest` (`obfuscate.rs:141-146`). -/
def forGuest (deriveKey : DeriveKey) (inviteId : Bytes inviteIdBytes) : Obfuscator :=
  { sealKey := deriveDatagramKey deriveKey inviteId .guestToHost
    openKey := deriveDatagramKey deriveKey inviteId .hostToGuest }

/-- The padding of one datagram (`obfuscate.rs:172-178`). -/
def padding (draw : SealDraw) (payload : List UInt8) : List UInt8 :=
  let padLen := if payload.length > paddedUpToBytes then 0 else draw.padLen
  (List.range padLen).map draw.noise

/-- `Obfuscator::seal` (`obfuscate.rs:163-194`). -/
def «seal» (aead : XChaCha20Poly1305) (obfuscator : Obfuscator) (draw : SealDraw)
    (payload : List UInt8) : Except NetError (List UInt8) :=
  if payload.length ≥ 2 ^ 16 then .error .obfuscation
  else
    let payloadLen := UInt16.ofNat payload.length
    let frame := toLeBytes16 payloadLen ++ payload ++ padding draw payload
    match aead.encrypt obfuscator.sealKey draw.nonce [] frame with
    | none => .error .obfuscation
    | some ciphertext => .ok (draw.nonce.toList ++ ciphertext)

/-- The payload of an authenticated frame (`obfuscate.rs:217-225`). -/
def payloadOf (frame : List UInt8) : Except NetError (List UInt8) :=
  match splitBytes lenHeaderBytes frame with
  | none => .error .obfuscation
  | some (lenBytes, _) =>
      let payloadLen := (fromLeBytes16 lenBytes).toNat
      match getRange frame lenHeaderBytes (lenHeaderBytes + payloadLen) with
      | none => .error .obfuscation
      | some payload => .ok payload

/-- `Obfuscator::open` (`obfuscate.rs:207-226`); `none` where `split_at` panics. -/
def «open» (aead : XChaCha20Poly1305) (obfuscator : Obfuscator) (wire : List UInt8) :
    Option (Except NetError (List UInt8)) :=
  if wire.length < nonceBytes + tagBytes then some (.error .obfuscation)
  else do
    let (nonce, ciphertext) ← splitBytes nonceBytes wire
    match aead.decrypt obfuscator.openKey nonce [] ciphertext with
    | none => return .error .obfuscation
    | some frame => return payloadOf frame

end Obfuscator

/-- `RouteState` (`obfuscate.rs:329-336`). -/
structure RouteState where
  addr : SocketAddr
  addrHeard : Instant
  heard : Option Instant
  deriving DecidableEq

namespace HostRoute

/-- `HostRoute::new` (`obfuscate.rs:346-354`), made at `now`. -/
def new (addr : SocketAddr) (now : Instant) : RouteState :=
  { addr := addr, addrHeard := now, heard := none }

/-- `HostRoute::point_at` (`obfuscate.rs:366-377`), called at `now`. -/
def pointAt (state : RouteState) (addr : SocketAddr) (now : Instant) : RouteState :=
  if state.addr ≠ addr then { state with addr := addr, addrHeard := now } else state

/-- How long the current address must have been silent (`obfuscate.rs:403`). -/
def quiet : Duration := Duration.fromMillis obfuscatedHostMoveQuietMs

/-- `HostRoute::heard_from` (`obfuscate.rs:393-411`). -/
def heardFrom (state : RouteState) («from» : SocketAddr) (now : Instant) :
    Option SocketAddr × RouteState :=
  let state := { state with heard := some now }
  if «from» = state.addr then (none, { state with addrHeard := now })
  -- `saturating_duration_since` is zero for a reading taken before `addr_heard`.
  else if now - state.addrHeard < quiet then (none, state)
  else (some state.addr, { state with addr := «from», addrHeard := now })

end HostRoute

end Lumepeer.Net
