import Lumepeer.Lib.Chunks
import Lumepeer.Net.Basic

/-!
# The STUN client's reader

`crates/net/src/stun.rs:115-186`: the reflexive address in a Binding success
response. A read past the end of a message makes the reader give up, as `?` on
`get` does. The loop over the attributes is run with a number of passes, and
`none` is a loop that has not ended after them.
-/

namespace Lumepeer.Net.Stun
open Lumepeer.Lib Lumepeer.Core

/-- `MAGIC_COOKIE` (`stun.rs:32`). -/
def magicCookie : UInt32 := 0x2112A442

/-- `MAGIC_COOKIE_HI` (`stun.rs:34`). -/
def magicCookieHi : UInt16 := 0x2112

/-- `BINDING_SUCCESS` (`stun.rs:38`). -/
def bindingSuccess : UInt16 := 0x0101

/-- `ATTR_XOR_MAPPED_ADDRESS` (`stun.rs:42`). -/
def attrXorMappedAddress : UInt16 := 0x0020

/-- `FAMILY_IPV4` (`stun.rs:44`). -/
def familyIpv4 : UInt8 := 0x01

/-- `HEADER_BYTES` (`stun.rs:46`). -/
def headerBytes : Nat := 20

/-- `TXID_BYTES` (`stun.rs:48`). -/
def txidBytes : Nat := 12

/-- `u16::from_be_bytes` of the two bytes from `first` on. -/
def wordAt (bytes : List UInt8) (first : Nat) : Option UInt16 :=
  ((getRange bytes first (first + 2)).bind (toArray 2)).map fromBeBytes16

/-- `u32::from_be_bytes` of the four bytes from `first` on. -/
def quadAt (bytes : List UInt8) (first : Nat) : Option UInt32 :=
  ((getRange bytes first (first + 4)).bind (toArray 4)).map fromBeBytes32

/-- `attr_len.next_multiple_of(4)`. -/
def nextMultipleOf4 (n : Nat) : Nat := (n + 3) / 4 * 4

/-- `parse_xor_mapped_ipv4` (`stun.rs:171-186`). -/
def parseXorMappedIpv4 (value : List UInt8) : Option SocketAddr := do
  if value.length < 8 || (← value[1]?) ≠ familyIpv4 then none
  else
    let xPort ← wordAt value 2
    let port := xPort ^^^ magicCookieHi
    let xAddr ← quadAt value 4
    let addr := xAddr ^^^ magicCookie
    some (.v4 ⟨toBeBytes32 addr, length_toBeBytes32 addr⟩ port)

/-- What one pass of the loop leads to. -/
inductive Pass where
  | ended (addr : Option SocketAddr)
  | further (attrs : List UInt8)

/-- One pass of the loop over the attributes (`stun.rs:154-162`). -/
def attrPass (attrs : List UInt8) : Pass :=
  let pass : Option Pass := do
    let attrType ← wordAt attrs 0
    let attrLen := (← wordAt attrs 2).toNat
    let value ← getRange attrs 4 (4 + attrLen)
    if attrType = attrXorMappedAddress then some (.ended (parseXorMappedIpv4 value))
    else
      let padded := 4 + nextMultipleOf4 attrLen
      (getRange attrs padded attrs.length).map .further
  pass.getD (.ended none)

/-- The loop over the attributes (`stun.rs:153-164`), at most `passes` times. -/
def walkAttrs : (passes : Nat) → (attrs : List UInt8) → Option (Option SocketAddr)
  | 0, _ => none
  | passes + 1, attrs =>
      if attrs.isEmpty then some none
      else
        match attrPass attrs with
        | .ended addr => some addr
        | .further rest => walkAttrs passes rest

/-- The attributes of a success response to `txid` (`stun.rs:138-152`). -/
def attributesOf (txid : Bytes txidBytes) (msg : List UInt8) : Option (List UInt8) := do
  let header ← getRange msg 0 headerBytes
  let msgType ← wordAt header 0
  let cookie ← quadAt header 4
  if msgType ≠ bindingSuccess || cookie ≠ magicCookie ||
      (← getRange header 8 headerBytes) ≠ txid.toList then none
  else getRange msg headerBytes msg.length

/-- `parse_binding_response` (`stun.rs:137-165`). -/
def parseBindingResponse (txid : Bytes txidBytes) (msg : List UInt8) :
    Option (Option SocketAddr) :=
  match attributesOf txid msg with
  | none => some none
  | some attrs => walkAttrs (msg.length + 1) attrs

/-- `binding_success_addr` (`stun.rs:116-119`). -/
def bindingSuccessAddr (msg : List UInt8) : Option (Option SocketAddr) :=
  match (getRange msg 8 headerBytes).bind (toArray txidBytes) with
  | none => some none
  | some txid => parseBindingResponse txid msg

end Lumepeer.Net.Stun
