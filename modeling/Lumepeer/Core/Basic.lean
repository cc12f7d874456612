import Lumepeer.Core.Constants
import Lumepeer.Lib.Bytes

/-!
# Identities, errors and wire payloads of the core crate

`NodeId` (`lib.rs:29`), the `CoreError` variants (`error.rs:11-95`) that the
modelled functions raise, the input event of `protocol.rs:2072-2107` and the key
derivation a password-proof challenge carries (`protocol.rs:1573-1600`).
-/

namespace Lumepeer.Core
open Lumepeer.Lib

/-- `NodeId = iroh_base::PublicKey`: an endpoint's 32 public key bytes. -/
structure NodeId where
  bytes : Bytes 32
  deriving DecidableEq

/-- `PublicKey`'s `Display`: the key bytes in lowercase hex. -/
def NodeId.toHex (peer : NodeId) : List Char :=
  peer.bytes.toList.flatMap fun b => [Nat.digitChar (b.toNat / 16), Nat.digitChar (b.toNat % 16)]

/-- A session id, `[u8; 16]`. -/
abbrev SessionId := Bytes 16

/-- `CoreError` (`error.rs:11-95`). -/
inductive CoreError where
  | pendingConsentQueueFull
  | consentRateLimited
  | concurrentGuestLimit (limit : Nat)
  | controllerAlreadyGranted
  | terminalSessionLimit (limit : Nat)
  | unknownPeer
  | notPermitted
  | frameSize (size : Nat)
  | replayOrOrder (expected actual : UInt64)
  | malformed
  | licenseDenied (reason : String)
  deriving DecidableEq, Repr

/-! ## Wire payloads -/

/-- `PROTOCOL_MAJOR` (`protocol.rs:97`). -/
def protocolMajor : UInt16 := 1

/-- `POINTER_BUTTON_LOGICAL_BASE` (`protocol.rs:30`). -/
def pointerButtonLogicalBase : UInt32 := 0xF0000000

/-- `InputDetail` (`protocol.rs:2088-2107`). -/
inductive InputDetail where
  | press
  | release
  | pointerMove (x y : UInt16)
  | wheel (dx dy : Int16)
  deriving DecidableEq

/-- `InputEventPayload` (`protocol.rs:2075-2084`). -/
structure InputEventPayload where
  logical : UInt32
  scancode : UInt32
  modifiers : UInt32
  detail : InputDetail
  deriving DecidableEq

/-- `ProofKdf` (`protocol.rs:1573-1584`): the derivation a host asks a guest to repeat. -/
structure ProofKdf where
  salt : List UInt8
  memoryKib : UInt32
  iterations : UInt32
  lanes : UInt32
  outputLen : UInt32
  deriving DecidableEq

/-- `ProofKdf::within_bounds` (`protocol.rs:1589-1599`). -/
def ProofKdf.withinBounds (kdf : ProofKdf) : Bool :=
  (unattendedProofMinSaltBytes ≤ kdf.salt.length && kdf.salt.length ≤ unattendedProofMaxSaltBytes)
    && (1 ≤ kdf.memoryKib.toNat && kdf.memoryKib.toNat ≤ unattendedProofMaxMemoryKib)
    && (1 ≤ kdf.iterations.toNat && kdf.iterations.toNat ≤ unattendedProofMaxIterations)
    && (1 ≤ kdf.lanes.toNat && kdf.lanes.toNat ≤ unattendedProofMaxLanes)
    && (unattendedProofMinOutputBytes ≤ kdf.outputLen.toNat
      && kdf.outputLen.toNat ≤ unattendedProofMaxOutputBytes)

end Lumepeer.Core
