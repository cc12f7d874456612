import Lumepeer.Lib.Saturating
import Lumepeer.Net.Basic

/-!
# Media framing

`crates/net/src/media.rs`: a media frame is the length of its payload as four
big-endian bytes and the payload.
-/

namespace Lumepeer.Net
open Lumepeer.Lib Lumepeer.Core

/-- `MEDIA_LENGTH_PREFIX_BYTES` (`media.rs:32`). -/
abbrev mediaLengthPrefixBytes : Nat := 4

/-- `check_media_frame_length` (`media.rs:40-45`). -/
def checkMediaFrameLength (length : Nat) : Except CoreError Unit :=
  if length == 0 || length > maxMediaFrameBytes then .error (.frameSize length) else .ok ()

/-- `MediaFrameWriter` (`media.rs:49-51`). -/
structure MediaFrameWriter (W : Type) where
  inner : W
  deriving DecidableEq

namespace MediaFrameWriter

variable {W : Type}

/-- `MediaFrameWriter::new` (`media.rs:55-57`). -/
def new (inner : W) : MediaFrameWriter W := { inner }

/-- The writes of one frame (`media.rs:72-84`). -/
def send [AsyncWrite W] (inner : W) (length : UInt32) (payload : List UInt8) :
    Except NetError Unit × MediaFrameWriter W :=
  match AsyncWrite.writeAll inner (toBeBytes32 length) with
  | (.error e, inner) => (.error (.io e), { inner })
  | (.ok (), inner) =>
      match AsyncWrite.writeAll inner payload with
      | (.error e, inner) => (.error (.io e), { inner })
      | (.ok (), inner) =>
          match AsyncWrite.flush inner with
          | (.error e, inner) => (.error (.io e), { inner })
          | (.ok (), inner) => (.ok (), { inner })

/-- `MediaFrameWriter::write_frame` (`media.rs:66-85`). -/
def writeFrame [AsyncWrite W] (writer : MediaFrameWriter W) (payload : List UInt8) :
    Except NetError Unit × MediaFrameWriter W :=
  match checkMediaFrameLength payload.length with
  | .error e => (.error (.framing e), writer)
  | .ok () =>
      match tryFrom32 payload.length with
      | none => (.error (.framing (.frameSize payload.length)), writer)
      | some length => send writer.inner length payload

end MediaFrameWriter

/-- `MediaFrameReader` (`media.rs:90-92`). -/
structure MediaFrameReader (R : Type) where
  inner : R
  deriving DecidableEq

namespace MediaFrameReader

variable {R : Type}

/-- `MediaFrameReader::new` (`media.rs:96-98`). -/
def new (inner : R) : MediaFrameReader R := { inner }

/-- The payload of an announced length (`media.rs:113-120`). -/
def readPayload [AsyncRead R] (inner : R) (length : Nat) :
    Except NetError (List UInt8) × MediaFrameReader R :=
  match checkMediaFrameLength length with
  | .error e => (.error (.framing e), { inner })
  | .ok () =>
      match AsyncRead.readExact inner length with
      | (.error e, inner) => (.error (.io e), { inner })
      | (.ok payload, inner) => (.ok payload.toList, { inner })

/-- `MediaFrameReader::read_frame` (`media.rs:106-121`). -/
def readFrame [AsyncRead R] (reader : MediaFrameReader R) :
    Except NetError (List UInt8) × MediaFrameReader R :=
  match AsyncRead.readExact reader.inner mediaLengthPrefixBytes with
  | (.error e, inner) => (.error (.io e), { inner })
  | (.ok lengthBytes, inner) => readPayload inner (fromBeBytes32 lengthBytes).toNat

end MediaFrameReader

end Lumepeer.Net
