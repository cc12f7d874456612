import Lumepeer.Lib.Chunks
import Lumepeer.Net.Obfuscate
import Lumepeer.Net.Stun

/-!
# The obfuscated socket

`ObfuscatedSocket::poll_recv` of `crates/net/src/obfuscate.rs:240-573`. The inner
socket is the list of what it answers to the polls of it; after the last of them
it is pending. The scratch buffers are as the inner socket filled them, and the
caller's buffers are byte strings that are overwritten from the front. What else
writes the route and the tap does so between two polls.
-/

namespace Lumepeer.Net
open Lumepeer.Lib Lumepeer.Core

/-- What the code uses of `noq::udp::RecvMeta`. -/
structure RecvMeta where
  addr : SocketAddr
  len : Nat
  stride : Nat
  dstIp : Option IpAddr
  deriving DecidableEq

/-- `split_by_stride` (`obfuscate.rs:248-256`). -/
def splitByStride (raw : List UInt8) (len stride : Nat) : List (List UInt8) :=
  match getRange raw 0 len with
  | none => []
  | some bounded => if stride = 0 then [] else chunks stride bounded

/-- `HostRoute::ALIAS` (`obfuscate.rs:342`). -/
def HostRoute.alias : SocketAddr := .v4 ⟨[192, 0, 2, 1], rfl⟩ 9

/-- `StunTap` (`obfuscate.rs:423-426`): the reflectors and the address last published. -/
structure StunTap where
  servers : List SocketAddr
  addr : Option SocketAddr
  deriving DecidableEq

/-- `StunTap::take` (`obfuscate.rs:461-477`). -/
def StunTap.take (tap : StunTap) («from» : SocketAddr) (datagram : List UInt8) : StunTap :=
  if tap.servers.contains «from» then
    match (Stun.bindingSuccessAddr datagram).join with
    | none => tap
    | some mapped => { tap with addr := some mapped }
  else tap

/-- `ObfuscatedSocket` (`obfuscate.rs:269-274`) without the inner socket. -/
structure ObfuscatedSocket where
  obfuscator : Obfuscator
  stunTap : Option StunTap
  hostRoute : Option RouteState
  deriving DecidableEq

/-- What the inner socket made of the scratch buffers and their metas. -/
structure Batch where
  wire : List (List UInt8)
  wireMeta : List RecvMeta
  received : Nat
  deriving DecidableEq

/-- The datagrams of a batch in the order of the two loops (`obfuscate.rs:521-522`). -/
def Batch.arrivals (batch : Batch) : List (RecvMeta × List UInt8) :=
  ((batch.wire.zip batch.wireMeta).take batch.received).flatMap fun (raw, rawMeta) =>
    (splitByStride raw rawMeta.len rawMeta.stride).map fun datagram => (rawMeta, datagram)

/-- The caller's `bufs` and `meta`. -/
structure Slots where
  bufs : List (List UInt8)
  metas : List RecvMeta
  deriving DecidableEq

/-- The datagrams a caller finds in the first `out` of its buffers. -/
def Slots.read (slots : Slots) (out : Nat) : List (List UInt8 × RecvMeta) :=
  ((slots.bufs.zip slots.metas).take out).map fun (buf, recvMeta) =>
    (buf.take recvMeta.len, recvMeta)

/-- The variables of the loop over the datagrams. -/
structure Opening where
  socket : ObfuscatedSocket
  slots : Slots
  out : Nat

namespace ObfuscatedSocket

/-- The meta of a delivered datagram (`obfuscate.rs:545-561`). -/
def deliveredMeta (routed : Bool) (rawMeta : RecvMeta) (plain : List UInt8) : RecvMeta :=
  { addr := if routed then HostRoute.alias else rawMeta.addr
    len := plain.length
    stride := plain.length
    dstIp := rawMeta.dstIp }

/-- One pass of the loop (`obfuscate.rs:523-562`), and whether it returned because the caller's
buffers are full. `clock out` is the reading of the clock at the delivery into buffer `out`. -/
def onDatagram (aead : XChaCha20Poly1305) (clock : Nat → Instant) (s : Opening)
    (rawMeta : RecvMeta) (datagram : List UInt8) : Opening × Bool :=
  match s.socket.obfuscator.open aead datagram with
  | some (.ok plain) =>
      if s.slots.metas.length ≤ s.out then (s, true)
      else
        match s.slots.bufs[s.out]? with
        | none => (s, false)
        | some buf =>
            if buf.length < plain.length then (s, false)
            else
              let recvMeta := deliveredMeta s.socket.hostRoute.isSome rawMeta plain
              let hostRoute := s.socket.hostRoute.map fun route =>
                (HostRoute.heardFrom route rawMeta.addr (clock s.out)).2
              ({ socket := { s.socket with hostRoute }
                 slots :=
                  { bufs := s.slots.bufs.set s.out (plain ++ buf.drop plain.length)
                    metas := s.slots.metas.set s.out recvMeta }
                 out := s.out + 1 }, false)
  | _ =>
      let stunTap := s.socket.stunTap.map fun tap => tap.take rawMeta.addr datagram
      ({ s with socket := { s.socket with stunTap } }, false)

/-- The loop over the datagrams of a batch. -/
def openAll (aead : XChaCha20Poly1305) (clock : Nat → Instant) :
    List (RecvMeta × List UInt8) → Opening → Opening × Bool
  | [], s => (s, false)
  | (rawMeta, datagram) :: arrivals, s =>
      match onDatagram aead clock s rawMeta datagram with
      | (s, true) => (s, true)
      | (s, false) => openAll aead clock arrivals s

/-- What the inner socket answers to a poll. -/
inductive Answer where
  | pending
  | failed (message : String)
  | ready (batch : Batch)

/-- `Poll<io::Result<usize>>`. -/
inductive Outcome where
  | pending
  | failed (message : String)
  | ready (out : Nat)

/-- What a poll leaves: its outcome, the caller's buffers, the socket and the answers the inner
socket has not given yet. -/
structure Polled where
  outcome : Outcome
  slots : Slots
  socket : ObfuscatedSocket
  inner : List Answer

/-- `ObfuscatedSocket::poll_recv` (`obfuscate.rs:496-573`). -/
def pollRecv (aead : XChaCha20Poly1305) (clock : Nat → Instant) :
    (inner : List Answer) → ObfuscatedSocket → Slots → Polled
  | [], socket, slots => ⟨.pending, slots, socket, []⟩
  | .pending :: inner, socket, slots => ⟨.pending, slots, socket, inner⟩
  | .failed message :: inner, socket, slots => ⟨.failed message, slots, socket, inner⟩
  | .ready batch :: inner, socket, slots =>
      let (s, full) := openAll aead clock batch.arrivals ⟨socket, slots, 0⟩
      if full || s.out > 0 then ⟨.ready s.out, s.slots, s.socket, inner⟩
      else pollRecv aead clock inner s.socket s.slots

/-- A poll by the caller: its buffers and the readings of the clock, and what happened since the
last one, a `point_at` of the route and a `set_servers` of the tap. -/
structure Call where
  slots : Slots
  clock : Nat → Instant
  pointed : Option (SocketAddr × Instant) := none
  servers : Option (List SocketAddr) := none

/-- The socket at the time of a poll. -/
def meanwhile (socket : ObfuscatedSocket) (call : Call) : ObfuscatedSocket :=
  { socket with
    hostRoute := socket.hostRoute.map fun route =>
      match call.pointed with
      | some (addr, now) => HostRoute.pointAt route addr now
      | none => route
    stunTap := socket.stunTap.map fun tap => { tap with servers := call.servers.getD tap.servers } }

/-- One poll. -/
def step (aead : XChaCha20Poly1305) (state : ObfuscatedSocket × List Answer) (call : Call) :
    Polled × ObfuscatedSocket × List Answer :=
  let polled := pollRecv aead call.clock state.2 (state.1.meanwhile call) call.slots
  (polled, polled.socket, polled.inner)

end ObfuscatedSocket

end Lumepeer.Net
