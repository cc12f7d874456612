import Lumepeer.Core.Wire
import Lumepeer.Lib.Saturating
import Lumepeer.Net.Basic

/-!
# Control framing

`crates/net/src/framing.rs`: a control frame is the length of an encoded
envelope as four big-endian bytes and the envelope. A function that takes
`&mut self` returns what it returns beside the next state, and a failed call
returns the state it leaves behind as well.
-/

namespace Lumepeer.Net
open Lumepeer.Lib Lumepeer.Core

/-- `LENGTH_PREFIX_BYTES` (`framing.rs:15`). -/
abbrev lengthPrefixBytes : Nat := 4

/-- `check_frame_length` (`framing.rs:22-27`). -/
def checkFrameLength (length : Nat) : Except CoreError Unit :=
  if length == 0 || length > maxControlFrameBytes then .error (.frameSize length) else .ok ()

/-- `FrameReader` (`framing.rs:32-36`). -/
structure FrameReader (R : Type) where
  inner : R
  expectedSeq : UInt64
  direction : Direction

namespace FrameReader

variable {R : Type}

/-- `FrameReader::new` (`framing.rs:40-46`). -/
def new (inner : R) (direction : Direction) : FrameReader R :=
  { inner, expectedSeq := 0, direction }

/-- The checks `read_frame` makes of a payload, and the count of an accepted one. -/
def accept (reader : FrameReader R) (payload : List UInt8) :
    Except NetError MessageEnvelope × FrameReader R :=
  match MessageEnvelope.decode payload with
  | .error e => (.error (.framing e), reader)
  | .ok envelope =>
      if envelope.direction ≠ reader.direction then (.error (.framing .malformed), reader)
      else if envelope.seq ≠ reader.expectedSeq then
        (.error (.framing (.replayOrOrder reader.expectedSeq envelope.seq)), reader)
      else (.ok envelope, { reader with expectedSeq := saturatingAdd64 reader.expectedSeq 1 })

/-- The payload of an announced length: `read_frame` after the length prefix. -/
def readPayload [AsyncRead R] (reader : FrameReader R) (length : Nat) :
    Except NetError MessageEnvelope × FrameReader R :=
  match checkFrameLength length with
  | .error e => (.error (.framing e), reader)
  | .ok () =>
      match AsyncRead.readExact reader.inner length with
      | (.error e, inner) => (.error (.io e), { reader with inner })
      | (.ok payload, inner) => accept { reader with inner } payload.toList

/-- `FrameReader::read_frame` (`framing.rs:57-84`). -/
def readFrame [AsyncRead R] (reader : FrameReader R) :
    Except NetError MessageEnvelope × FrameReader R :=
  match AsyncRead.readExact reader.inner lengthPrefixBytes with
  | (.error e, inner) => (.error (.io e), { reader with inner })
  | (.ok lengthBytes, inner) =>
      readPayload { reader with inner } (fromBeBytes32 lengthBytes).toNat

/-- Reads until a frame is refused, at most `calls` frames: the envelopes and the first error. -/
def readFrames [AsyncRead R] : Nat → FrameReader R → List MessageEnvelope × Option NetError
  | 0, _ => ([], none)
  | calls + 1, reader =>
      match reader.readFrame with
      | (.error e, _) => ([], some e)
      | (.ok envelope, reader) =>
          let (more, stop) := readFrames calls reader
          (envelope :: more, stop)

end FrameReader

/-- `FrameWriter` (`framing.rs:100-103`). -/
structure FrameWriter (W : Type) where
  inner : W
  nextSeq : UInt64

namespace FrameWriter

variable {W : Type}

/-- `FrameWriter::new` (`framing.rs:107-109`). -/
def new (inner : W) : FrameWriter W := { inner, nextSeq := 0 }

/-- The writes of one frame: the prefix, the payload, a flush. -/
def send [AsyncWrite W] (inner : W) (length : UInt32) (payload : List UInt8) :
    Except String Unit × W :=
  match AsyncWrite.writeAll inner (toBeBytes32 length) with
  | (.error e, inner) => (.error e, inner)
  | (.ok (), inner) =>
      match AsyncWrite.writeAll inner payload with
      | (.error e, inner) => (.error e, inner)
      | (.ok (), inner) => AsyncWrite.flush inner

/-- `FrameWriter::write_frame` (`framing.rs:116-138`): the answer, the envelope with its number, and
the writer. -/
def writeFrame [AsyncWrite W] (writer : FrameWriter W) (envelope : MessageEnvelope) :
    (Except NetError Unit × MessageEnvelope) × FrameWriter W :=
  let envelope := { envelope with seq := writer.nextSeq }
  match envelope.encode with
  | .error e => ((.error (.framing e), envelope), writer)
  | .ok payload =>
      -- `u32::try_from`
      if payload.length < 2 ^ 32 then
        match send writer.inner (UInt32.ofNat payload.length) payload with
        | (.error e, inner) => ((.error (.io e), envelope), { writer with inner })
        | (.ok (), inner) =>
            ((.ok (), envelope), { inner, nextSeq := saturatingAdd64 writer.nextSeq 1 })
      else ((.error (.framing (.frameSize payload.length)), envelope), writer)

end FrameWriter

end Lumepeer.Net
