import Lumepeer.Lib.Chunks
import Lumepeer.Lib.Utf8
import Lumepeer.Net.Obfuscate

/-!
# Rendezvous records

The sealed records of `crates/net/src/rendezvous.rs`: where a host or a guest
can be reached, sealed under the invite and, when a host says it on a relay,
signed by the host. The nonce that `seal` draws is an argument. The record is
cut twice, by `fields_len` for the signature and by `open` for the address, and
both cuts are kept as the source makes them.
-/

namespace Lumepeer.Net
open Lumepeer.Lib Lumepeer.Core

namespace Rendezvous

/-- `SEAL_CONTEXT` (`rendezvous.rs:63`). -/
def sealContext : String := "lumepeer 2026 ADR 0113 rendezvous record key"

/-- `FORMAT_VERSION` (`rendezvous.rs:76`). -/
def formatVersion : UInt8 := 1

/-- `HOST_SIGNATURE_CONTEXT` (`rendezvous.rs:80`). -/
def hostSignatureContext : List UInt8 := asBytes "lumepeer 2026 ADR 0123 rendezvous host record"

/-- `SIGNATURE_BYTES` (`rendezvous.rs:82`). -/
abbrev signatureBytes : Nat := 64

/-- `Kind` (`rendezvous.rs:91-94`). -/
inductive Kind where
  | host
  | knock
  deriving DecidableEq, Repr

/-- `kind as u8`. -/
def Kind.toU8 : Kind → UInt8
  | .host => 1
  | .knock => 2

/-- `Sighting` (`rendezvous.rs:98-106`). -/
structure Sighting where
  seq : Int64
  addr : SocketAddr
  «at» : UInt64
  deriving DecidableEq

section
variable (aead : XChaCha20Poly1305) (deriveKey : DeriveKey) (ed : Dalek)

/-- The key of `cipher` (`rendezvous.rs:443-445`). -/
def cipherKey (inviteId : Bytes inviteIdBytes) : Bytes 32 := deriveKey sealContext inviteId.toList

/-- The plaintext of a record before any signature (`rendezvous.rs:461-473`). -/
def recordFields (addr : SocketAddr) («at» : UInt64) : List UInt8 :=
  [formatVersion] ++
    (match addr.ip with
      | .v4 octets => 4 :: octets.toList
      | .v6 octets => 6 :: octets.toList) ++
    toBeBytes16 addr.port ++ toBeBytes64 «at»

/-- `signed_message` (`rendezvous.rs:496-501`). -/
def signedMessage (inviteId : Bytes inviteIdBytes) (fields : List UInt8) : List UInt8 :=
  hostSignatureContext ++ inviteId.toList ++ fields

/-- `seal` (`rendezvous.rs:454-493`) with the nonce it draws. -/
def «seal» (inviteId : Bytes inviteIdBytes) (kind : Kind) (addr : SocketAddr) («at» : UInt64)
    (signer : Option ed.SigningKey) (nonce : Bytes nonceBytes) : Except NetError (List UInt8) :=
  let fields := recordFields addr «at»
  let plain :=
    match signer with
    | none => fields
    | some key => fields ++ (ed.sign key (signedMessage inviteId fields)).toList
  match aead.encrypt (cipherKey deriveKey inviteId) nonce [kind.toU8] plain with
  | none => .error .obfuscation
  | some sealed => .ok (nonce.toList ++ sealed)

/-- `fields_len` (`rendezvous.rs:528-534`). -/
def fieldsLen (plain : List UInt8) : Option Nat := do
  let family ← plain[1]?
  if family = 4 then some (2 + 4 + 2 + 8)
  else if family = 6 then some (2 + 16 + 2 + 8)
  else none

/-- `unseal` (`rendezvous.rs:537-548`). -/
def «unseal» (inviteId : Bytes inviteIdBytes) (kind : Kind) (wire : List UInt8) :
    Option (List UInt8) := do
  let nonce ← (getRange wire 0 nonceBytes).bind (toArray nonceBytes)
  let msg ← getRange wire nonceBytes wire.length
  aead.decrypt (cipherKey deriveKey inviteId) nonce [kind.toU8] msg

/-- `signed_by` (`rendezvous.rs:504-524`). -/
def signedBy (inviteId : Bytes inviteIdBytes) (wire : List UInt8) (host : NodeId) : Bool :=
  match «unseal» aead deriveKey inviteId .host wire with
  | none => false
  | some plain =>
      match fieldsLen plain with
      | none => false
      | some fields =>
          match getRange plain 0 fields, getRange plain fields plain.length with
          | some signed, some signature =>
              match toArray signatureBytes signature with
              | none => false
              | some signature =>
                  match ed.fromBytes host.bytes with
                  | none => false
                  | some key => ed.verify key (signedMessage inviteId signed) signature
          | _, _ => false

/-- What `open` reads out of an unsealed record (`rendezvous.rs:555-575`). -/
def readRecord (plain : List UInt8) : Option (SocketAddr × UInt64) := do
  if (← plain.head?) ≠ formatVersion then none
  else
    let family ← plain[1]?
    let (ip, rest) ←
      if family = 4 then do
        let octets ← (getRange plain 2 6).bind (toArray 4)
        let rest ← getRange plain 6 plain.length
        some (IpAddr.v4 octets, rest)
      else if family = 6 then do
        let octets ← (getRange plain 2 18).bind (toArray 16)
        let rest ← getRange plain 18 plain.length
        some (IpAddr.v6 octets, rest)
      else none
    let port ← (getRange rest 0 2).bind (toArray 2)
    let «at» ← (getRange rest 2 10).bind (toArray 8)
    some (SocketAddr.new ip (fromBeBytes16 port), fromBeBytes64 «at»)

/-- `open` (`rendezvous.rs:553-576`). -/
def «open» (inviteId : Bytes inviteIdBytes) (kind : Kind) (wire : List UInt8) (seq : Int64) :
    Option Sighting := do
  let plain ← «unseal» aead deriveKey inviteId kind wire
  let (addr, «at») ← readRecord plain
  return { seq := seq, addr := addr, «at» := «at» }

end

end Rendezvous

end Lumepeer.Net
