import Lumepeer.Lib.Chunks
import Lumepeer.Service.HostChannelProtocol

/-!
# What an account sends the sign-in screen's supervisor

`crates/service/src/logon_enroll.rs`: a header, an operation, and for an enrolment a
bounded list of names and bytes. An error is `none`.
-/

namespace Lumepeer.Service.LogonEnroll
open Lumepeer.Lib

/-- `MAGIC` (`logon_enroll.rs:35`): `LPLH`. -/
def magic : List UInt8 := [0x4C, 0x50, 0x4C, 0x48]

/-- `VERSION` (`logon_enroll.rs:36`). -/
def version : UInt8 := 1

/-- `HEADER_BYTES` (`logon_enroll.rs:37`). -/
abbrev headerBytes : Nat := 10

/-- `MAX_PAYLOAD` (`logon_enroll.rs:41`). -/
def maxPayload : Nat := 16 * 1024

/-- `MAX_ENTRIES` (`logon_enroll.rs:44`). -/
def maxEntries : Nat := 16

/-- `MAX_NAME` (`logon_enroll.rs:47`). -/
def maxName : Nat := 64

/-- `MAX_VALUE` (`logon_enroll.rs:50`). -/
def maxValue : Nat := 4096

/-! The operations (`logon_enroll.rs:52-54`). -/

@[match_pattern] abbrev opEnroll : UInt8 := 1
@[match_pattern] abbrev opWithdraw : UInt8 := 2
@[match_pattern] abbrev opStatus : UInt8 := 3

/-- The name of an entry and its bytes. -/
abbrev Entry := String × List UInt8

/-- `Request` (`logon_enroll.rs:58-65`). -/
inductive Request where
  | enroll (entries : List Entry)
  | withdraw
  | status
  deriving DecidableEq

/-- `Reply` (`logon_enroll.rs:69-81`). -/
inductive Reply where
  | yours
  | notEnrolled
  | otherOwner
  | refused
  | failed
  deriving DecidableEq

/-- `b.is_ascii_lowercase() || b.is_ascii_digit() || b == b'.'`. -/
def isNameByte (b : UInt8) : Bool :=
  (0x61 ≤ b && b ≤ 0x7A) || (0x30 ≤ b && b ≤ 0x39) || b == 0x2E

/-- `valid_name` (`logon_enroll.rs:100-108`). -/
def validName (name : String) : Bool :=
  let rest := (asBytes name).drop (asBytes "lumepeer.").length
  (asBytes name).length ≤ maxName && (asBytes "lumepeer.").isPrefixOf (asBytes name) &&
    !rest.isEmpty && rest.all isNameByte

/-- What `encode_entries` writes of one entry (`logon_enroll.rs:122-135`). -/
def encodeEntry (entry : Entry) : Option (List UInt8) :=
  if !validName entry.1 then none
  else if entry.2.length > maxValue then none
  else
    some (UInt8.ofNat (asBytes entry.1).length :: (asBytes entry.1 ++
      toBeBytes16 (UInt16.ofNat entry.2.length) ++ entry.2))

/-- The loop of `encode_entries` (`logon_enroll.rs:121-136`). -/
def encodeAll : List Entry → Option (List UInt8)
  | [] => some []
  | entry :: entries => do
      let first ← encodeEntry entry
      let rest ← encodeAll entries
      return first ++ rest

/-- `encode_entries` (`logon_enroll.rs:115-141`). -/
def encodeEntries (entries : List Entry) : Option (List UInt8) :=
  if entries.length > maxEntries then none
  else do
    let rest ← encodeAll entries
    let out := UInt8.ofNat entries.length :: rest
    if out.length > maxPayload then none else some out

/-- The loop of `decode_entries` (`logon_enroll.rs:159-178`), which has read `entries`. -/
def decodeAll (entries : List Entry) : Nat → List UInt8 → Option (List Entry)
  | 0, rest => if !rest.isEmpty then none else some entries
  | count + 1, rest =>
      match rest with
      | [] => none
      | nameLen :: tail =>
          if tail.length < nameLen.toNat + 2 then none
          else
            match fromUtf8 (tail.take nameLen.toNat) with
            | none => none
            | some name =>
                if !validName name || entries.any (fun seen => seen.1 == name) then none
                else
                  match tail.drop nameLen.toNat with
                  | high :: low :: tail =>
                      let valueLen := (fromBeBytes16 ⟨[high, low], rfl⟩).toNat
                      if valueLen > maxValue || tail.length < valueLen then none
                      else
                        decodeAll (entries ++ [(name, tail.take valueLen)]) count
                          (tail.drop valueLen)
                  | _ => none

/-- `decode_entries` (`logon_enroll.rs:148-183`). -/
def decodeEntries (bytes : List UInt8) : Option (List Entry) :=
  if bytes.length > maxPayload then none
  else
    match bytes with
    | [] => none
    | count :: rest => if count.toNat > maxEntries then none else decodeAll [] count.toNat rest

/-- The operation of a request and its payload (`logon_enroll.rs:190-194`). -/
def Request.parts : Request → Option (UInt8 × List UInt8)
  | .enroll entries => (encodeEntries entries).map fun payload => (opEnroll, payload)
  | .withdraw => some (opWithdraw, [])
  | .status => some (opStatus, [])

/-- `encode_request` (`logon_enroll.rs:189-206`). -/
def encodeRequest (request : Request) : Option (List UInt8) := do
  let (op, payload) ← request.parts
  if payload.length ≥ 2 ^ 32 then none
  else some (magic ++ [version, op] ++ toBeBytes32 (UInt32.ofNat payload.length) ++ payload)

/-- The request of an operation and its payload (`logon_enroll.rs:233-238`). -/
def decodeRequest (op : UInt8) (payload : List UInt8) : Option Request :=
  match op with
  | opEnroll => (decodeEntries payload).map .enroll
  | opWithdraw => if payload.isEmpty then some .withdraw else none
  | opStatus => if payload.isEmpty then some .status else none
  | _ => none

theorem length_four (a b c d : UInt8) : [a, b, c, d].length = 4 := rfl

/-- What a header announces, the operation and the length of the payload, if it passes the checks
(`logon_enroll.rs:218-230`). -/
def announced : List UInt8 → Option (UInt8 × Nat)
  | [m0, m1, m2, m3, isVersion, op, a, b, c, d] =>
      if [m0, m1, m2, m3] ≠ magic then none
      else if isVersion ≠ version then none
      else
        let len := (fromBeBytes32 ⟨[a, b, c, d], length_four a b c d⟩).toNat
        if len > maxPayload then none else some (op, len)
  | _ => none

/-- `read_request` (`logon_enroll.rs:214-239`). -/
def readRequest {R : Type} [Read R] (reader : R) : Option Request × R :=
  match Read.readExact reader headerBytes with
  | (none, reader) => (none, reader)
  | (some header, reader) =>
      match announced header.toList with
      | none => (none, reader)
      | some (op, len) =>
          match Read.readExact reader len with
          | (none, reader) => (none, reader)
          | (some payload, reader) => (decodeRequest op payload.toList, reader)

/-!
The same functions with the slices and indices the source takes. An outer `none` is a panic, one
that lies outside.
-/

namespace Sliced

/-- The loop of `decode_entries` (`logon_enroll.rs:159-178`). -/
def decodeAll (entries : List Entry) : Nat → List UInt8 → Option (Option (List Entry))
  | 0, rest => some (if !rest.isEmpty then none else some entries)
  | count + 1, rest =>
      match rest with
      | [] => some none
      | nameLen :: tail =>
          if tail.length < nameLen.toNat + 2 then some none
          else do
            let (name, tail) ← splitBytes nameLen.toNat tail
            match fromUtf8 name.toList with
            | none => some none
            | some name =>
                if !validName name || entries.any (fun seen => seen.1 == name) then some none
                else do
                  let (len, tail) ← splitBytes 2 tail
                  let high ← len.toList[0]?
                  let low ← len.toList[1]?
                  let valueLen := (fromBeBytes16 ⟨[high, low], rfl⟩).toNat
                  if valueLen > maxValue || tail.length < valueLen then some none
                  else do
                    let (value, tail) ← splitBytes valueLen tail
                    decodeAll (entries ++ [(name, value.toList)]) count tail

/-- `decode_entries` (`logon_enroll.rs:148-183`). -/
def decodeEntries (bytes : List UInt8) : Option (Option (List Entry)) :=
  if bytes.length > maxPayload then some none
  else
    match bytes with
    | [] => some none
    | count :: rest =>
        if count.toNat > maxEntries then some none else decodeAll [] count.toNat rest

/-- The checks of a header (`logon_enroll.rs:218-230`). -/
def announced (header : List UInt8) : Option (Option (UInt8 × Nat)) := do
  let front ← getRange header 0 4
  if front ≠ magic then some none
  else do
    let isVersion ← header[4]?
    if isVersion ≠ version then some none
    else do
      let a ← header[6]?
      let b ← header[7]?
      let c ← header[8]?
      let d ← header[9]?
      let len := (fromBeBytes32 ⟨[a, b, c, d], length_four a b c d⟩).toNat
      if len > maxPayload then some none
      else do
        let op ← header[5]?
        some (some (op, len))

/-- The request of an operation and its payload (`logon_enroll.rs:233-238`). -/
def decodeRequest (op : UInt8) (payload : List UInt8) : Option (Option Request) :=
  match op with
  | opEnroll => (decodeEntries payload).map fun read => read.map .enroll
  | opWithdraw => some (if payload.isEmpty then some .withdraw else none)
  | opStatus => some (if payload.isEmpty then some .status else none)
  | _ => some none

/-- `read_request` (`logon_enroll.rs:214-239`). -/
def readRequest {R : Type} [Read R] (reader : R) : Option (Option Request × R) :=
  match Read.readExact reader headerBytes with
  | (none, reader) => some (none, reader)
  | (some header, reader) => do
      match ← announced header.toList with
      | none => some (none, reader)
      | some (op, len) =>
          match Read.readExact reader len with
          | (none, reader) => some (none, reader)
          | (some payload, reader) => do
              let request ← decodeRequest op payload.toList
              some (request, reader)

end Sliced

end Lumepeer.Service.LogonEnroll
