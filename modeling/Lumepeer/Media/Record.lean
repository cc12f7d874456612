import Lumepeer.Core.Constants
import Lumepeer.Lib.Bytes
import Lumepeer.Lib.Saturating
import Lumepeer.Lib.Utf8

/-!
# The recording container

`crates/media/src/record.rs`: a header and then records, each a preamble with
its kind, time and length and the payload. A function that takes `&mut self`
returns what it returns beside the next state, also when it fails. A loop that
polls the reader is given the number of calls it may make.
-/

namespace Lumepeer.Media
open Lumepeer.Lib Lumepeer.Core

/-- `std::io::Error`: whether its kind is `UnexpectedEof`, and its text. -/
structure IoError where
  unexpectedEof : Bool
  message : String
  deriving DecidableEq

/-- `std::io::Read::read_exact`. -/
class Read (R : Type) where
  readExact : R → (n : Nat) → Except IoError (Bytes n) × R

/-- `std::io::Write::write_all` and `std::io::Write::flush`. -/
class Write (W : Type) where
  writeAll : W → List UInt8 → Except IoError Unit × W
  flush : W → Except IoError Unit × W

/-- `&[u8]`: the bytes still to be read. -/
instance : Read (List UInt8) where
  readExact bytes n :=
    match splitBytes n bytes with
    | some (first, rest) => (.ok first, rest)
    | none => (.error { unexpectedEof := true, message := "failed to fill whole buffer" }, [])

/-- `Vec<u8>`: the bytes written so far. -/
instance : Write (List UInt8) where
  writeAll written bytes := (.ok (), written ++ bytes)
  flush written := (.ok (), written)

/-- `MAGIC` (`record.rs:35`). -/
def magic : List UInt8 := [0x4C, 0x4D, 0x52, 0x43]

/-- `RECORD_FORMAT_VERSION` (`record.rs:37`). -/
def recordFormatVersion : UInt16 := 1

/-- `FLAG_RESERVED` (`record.rs:41`). -/
def flagReserved : UInt16 := 0

def kindVideo : UInt8 := 1
def kindAudio : UInt8 := 2
def kindEvent : UInt8 := 3

/-- `HEADER_BYTES` (`record.rs:51`). -/
abbrev headerBytes : Nat := 8

/-- `RECORD_PREAMBLE_BYTES` (`record.rs:53`). -/
abbrev recordPreambleBytes : Nat := 16

/-- `max_payload_for` (`record.rs:57-65`). -/
def maxPayloadFor (kind : UInt8) : Nat :=
  if kind = kindEvent then chatMaxBytes else maxMediaFrameBytes

/-- `RecordingError` (`record.rs:69-83`). -/
inductive RecordingError where
  | badHeader
  | corrupt (what : String)
  | io (message : String)
  | tooLarge (kind : UInt8)
  deriving DecidableEq

/-- Several `write_all` calls one after the other, up to the first that fails. -/
def writeSlices {W : Type} [Write W] (inner : W) : List (List UInt8) → Except IoError Unit × W
  | [] => (.ok (), inner)
  | slice :: slices =>
      match Write.writeAll inner slice with
      | (.error e, inner) => (.error e, inner)
      | (.ok (), inner) => writeSlices inner slices

/-- `RecordingWriter` (`record.rs:101-108`). -/
structure RecordingWriter (W : Type) where
  inner : W
  started : Bool
  baseUs : Option UInt64

namespace RecordingWriter

variable {W : Type} [Write W]

/-- The header `RecordingWriter::new` writes. -/
def header : List UInt8 :=
  magic ++ toBeBytes16 recordFormatVersion ++ toBeBytes16 flagReserved

/-- `RecordingWriter::new` (`record.rs:115-126`). -/
def new (inner : W) : Except RecordingError (RecordingWriter W) :=
  match Write.writeAll inner header with
  | (.error e, _) => .error (.io e.message)
  | (.ok (), inner) => .ok { inner, started := false, baseUs := none }

/-- `RecordingWriter::write_record` (`record.rs:128-147`). -/
def writeRecord (writer : RecordingWriter W) (kind : UInt8) (timestampUs : UInt64)
    (payload : List UInt8) : Except RecordingError Unit × RecordingWriter W :=
  if payload.length > maxPayloadFor kind then (.error (.tooLarge kind), writer)
  else
    let base := writer.baseUs.getD timestampUs
    let relative := saturatingSub64 timestampUs base
    let writer := { writer with baseUs := some base }
    -- `u32::try_from`
    if payload.length < 2 ^ 32 then
      match writeSlices writer.inner [[kind, 0, 0, 0], toBeBytes64 relative,
        toBeBytes32 (UInt32.ofNat payload.length), payload] with
      | (.error e, inner) => (.error (.io e.message), { writer with inner })
      | (.ok (), inner) => (.ok (), { writer with inner })
    else (.error (.tooLarge kind), writer)

/-- `RecordingWriter::write_video` (`record.rs:153-163`). -/
def writeVideo (writer : RecordingWriter W) (timestampUs : UInt64) (bitstream : List UInt8) :
    Except RecordingError Unit × RecordingWriter W :=
  if bitstream.isEmpty then (.error (.corrupt "empty video record"), writer)
  else writeRecord { writer with started := true } kindVideo timestampUs bitstream

/-- `RecordingWriter::write_audio` (`record.rs:169-175`). -/
def writeAudio (writer : RecordingWriter W) (timestampUs : UInt64) (packet : List UInt8) :
    Except RecordingError Unit × RecordingWriter W :=
  if packet.isEmpty then (.error (.corrupt "empty audio record"), writer)
  else writeRecord { writer with started := true } kindAudio timestampUs packet

/-- `RecordingWriter::write_event` (`record.rs:182-195`). -/
def writeEvent (writer : RecordingWriter W) (timestampUs : UInt64) (jsonLine : String) :
    Except RecordingError Unit × RecordingWriter W :=
  match writeRecord { writer with started := true } kindEvent timestampUs (asBytes jsonLine) with
  | (.error (.tooLarge kind), writer) =>
      if kind = kindEvent then (.error (.corrupt "event line over the limit"), writer)
      else (.error (.tooLarge kind), writer)
  | answer => answer

end RecordingWriter

/-- `Record` (`record.rs:219-241`). -/
inductive Record where
  | video (tUs : UInt64) (data : List UInt8)
  | audio (tUs : UInt64) (data : List UInt8)
  | event (tUs : UInt64) (line : String)
  deriving DecidableEq

/-- `matches!(record, Record::Audio { .. })`. -/
def Record.isAudio : Record → Bool
  | .audio .. => true
  | _ => false

/-- `ContainerInfo` (`record.rs:245-251`). -/
structure ContainerInfo where
  hasAudio : Bool
  version : UInt16
  deriving DecidableEq

/-- `RecordReader` (`record.rs:264-270`). -/
structure RecordReader (R : Type) where
  inner : R
  version : UInt16
  ended : Bool

namespace RecordReader

variable {R : Type} [Read R]

/-- `RecordReader::new` (`record.rs:278-299`). -/
def new (inner : R) : Except RecordingError (RecordReader R) :=
  match Read.readExact inner headerBytes with
  | (.error e, _) => if e.unexpectedEof then .error .badHeader else .error (.io e.message)
  | (.ok header, inner) =>
      if header.toList.take 4 ≠ magic then .error .badHeader
      else
        let version := fromBeBytes16 ⟨(header.toList.drop 4).take 2, by simp [headerBytes]⟩
        if version > recordFormatVersion then .error .badHeader
        else .ok { inner, version, ended := false }

/-- `next_record` after the preamble: the kind, the length and the payload. -/
def readPayload (reader : RecordReader R) (kind : UInt8) (tUs : UInt64) (len : Nat) :
    Except RecordingError (Option Record) × RecordReader R :=
  if kind ≠ kindVideo ∧ kind ≠ kindAudio ∧ kind ≠ kindEvent then
    (.error (.corrupt "unknown record kind"), { reader with ended := true })
  else if len = 0 ∨ len > maxPayloadFor kind then
    (.error (.corrupt "record length out of bounds"), { reader with ended := true })
  else
    match Read.readExact reader.inner len with
    | (.error e, inner) =>
        if e.unexpectedEof then (.ok none, { reader with inner, ended := true })
        else (.error (.io e.message), { reader with inner, ended := true })
    | (.ok payload, inner) =>
        if kind = kindVideo then (.ok (some (.video tUs payload.toList)), { reader with inner })
        else if kind = kindAudio then (.ok (some (.audio tUs payload.toList)), { reader with inner })
        else
          match fromUtf8 payload.toList with
          | none =>
              (.error (.corrupt "event line is not UTF-8"), { reader with inner, ended := true })
          | some line => (.ok (some (.event tUs line)), { reader with inner })

/-- `RecordReader::next_record` (`record.rs:314-376`). -/
def nextRecord (reader : RecordReader R) : Except RecordingError (Option Record) × RecordReader R :=
  if reader.ended then (.ok none, reader)
  else
    match Read.readExact reader.inner recordPreambleBytes with
    | (.error e, inner) =>
        if e.unexpectedEof then (.ok none, { reader with inner, ended := true })
        else (.error (.io e.message), { reader with inner, ended := true })
    | (.ok preamble, inner) =>
        let kind := preamble.head
        let tUs := fromBeBytes64 ⟨(preamble.toList.drop 4).take 8, by simp [recordPreambleBytes]⟩
        let len := fromBeBytes32 ⟨(preamble.toList.drop 12).take 4, by simp [recordPreambleBytes]⟩
        readPayload { reader with inner } kind tUs len.toNat

/-- The loop of `read_recording`, at most `calls` calls of `next_record`: the records up to the end
of the stream, `none` where the calls do not reach it. -/
def readRecords : Nat → RecordReader R → Option (Except RecordingError (List Record))
  | 0, _ => none
  | calls + 1, reader =>
      match reader.nextRecord with
      | (.error e, _) => some (.error e)
      | (.ok none, _) => some (.ok [])
      | (.ok (some record), reader) =>
          match readRecords calls reader with
          | none => none
          | some (.error e) => some (.error e)
          | some (.ok records) => some (.ok (record :: records))

end RecordReader

/-- `read_recording` (`record.rs:390-400`), at most `calls` calls of `next_record`. -/
def readRecording {R : Type} [Read R] (calls : Nat) (inner : R) :
    Option (Except RecordingError (ContainerInfo × List Record)) :=
  match RecordReader.new inner with
  | .error e => some (.error e)
  | .ok reader =>
      match reader.readRecords calls with
      | none => none
      | some (.error e) => some (.error e)
      | some (.ok records) =>
          some (.ok ({ hasAudio := records.any Record.isAudio, version := reader.version }, records))

end Lumepeer.Media
