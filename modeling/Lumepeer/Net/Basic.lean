import Lumepeer.Core.Basic

/-!
# Errors, byte streams and addresses of the net crate

The `NetError` variants (`error.rs:11-115`) that the modelled functions raise,
what these functions use of `tokio::io`, a source that is read in exact
amounts and a sink that is written whole slices, and the socket addresses of
`std::net`. A stream that fails does so with the text of its `io::Error`.
-/

namespace Lumepeer.Net
open Lumepeer.Lib Lumepeer.Core

/-- `NetError` (`error.rs:11-112`). -/
inductive NetError where
  | io (message : String)
  | framing (error : CoreError)
  | invalidTicket
  | obfuscation
  | malformedTicket
  | tooManyTransfers
  | unknownTransfer
  | chunkGap (expected got : UInt64)
  | chunkOverrun
  | transferClosed
  | overflow
  deriving DecidableEq, Repr

/-- `INVITE_ID_BYTES` (`ticket.rs:28`). -/
def inviteIdBytes : Nat := inviteIdBits / 8

/-- `AsyncReadExt::read_exact`. -/
class AsyncRead (R : Type) where
  readExact : R → (n : Nat) → Except String (Bytes n) × R

/-- `AsyncWriteExt::write_all` and `flush`. -/
class AsyncWrite (W : Type) where
  writeAll : W → List UInt8 → Except String Unit × W
  flush : W → Except String Unit × W

/-- `&[u8]`: the bytes still to be read. A read past the end takes what is left and fails. -/
instance : AsyncRead (List UInt8) where
  readExact bytes n :=
    match splitBytes n bytes with
    | some (first, rest) => (.ok first, rest)
    | none => (.error "early eof", [])

/-- `Vec<u8>`: the bytes written so far. -/
instance : AsyncWrite (List UInt8) where
  writeAll written bytes := (.ok (), written ++ bytes)
  flush written := (.ok (), written)

/-- `std::net::IpAddr`, by its octets. -/
inductive IpAddr where
  | v4 (octets : Bytes 4)
  | v6 (octets : Bytes 16)
  deriving DecidableEq

/-- `std::net::SocketAddr`. -/
inductive SocketAddr where
  | v4 (octets : Bytes 4) (port : UInt16)
  | v6 (octets : Bytes 16) (port : UInt16) (flowinfo scopeId : UInt32)
  deriving DecidableEq

namespace SocketAddr

/-- `SocketAddr::new`: no flow label and no scope. -/
def new : IpAddr → UInt16 → SocketAddr
  | .v4 octets, port => .v4 octets port
  | .v6 octets, port => .v6 octets port 0 0

/-- `SocketAddr::ip`. -/
def ip : SocketAddr → IpAddr
  | .v4 octets _ => .v4 octets
  | .v6 octets _ _ _ => .v6 octets

/-- `SocketAddr::port`. -/
def port : SocketAddr → UInt16
  | .v4 _ port => port
  | .v6 _ port _ _ => port

@[simp] theorem ip_new (ip : IpAddr) (port : UInt16) : (new ip port).ip = ip := by
  cases ip <;> rfl

@[simp] theorem port_new (ip : IpAddr) (port : UInt16) : (new ip port).port = port := by
  cases ip <;> rfl

end SocketAddr

end Lumepeer.Net
